import Workflow.Config.Basic
import Workflow.Json.Printer
import Workflow.ToolServer.Protocol

/-!
# Calling a tool of a server

A call goes to the server that its qualified name tells, with an object or nothing as arguments.
When the request fails and the wording of the failure tells of a closed connection, the server is
dialled again, and if that goes well the request is made a second and last time.

A `Calling` is a stage on this way.  What may happen next at a stage is its `Move`, so `step` is
total and a request is made at the stages `asking` and `askingAgain` only.
-/

namespace Workflow.ToolServer

/-!
## Connections

The open connections by the names of their servers, and how each server was reached the last time
that this went well.  A connection that the server has closed stays in the table until the server is
dialled again.
-/

/-- The connections to servers. -/
structure Connections (κ : Type) where
  links : Assoc κ
  /-- How servers have been reached. -/
  configs : Assoc ServerConfig

namespace Connections

variable {κ : Type}

/-- No connections at all. -/
def empty : Connections κ :=
  ⟨[], []⟩

/-- The servers with a connection, in the order of their names. -/
def servers (connections : Connections κ) : List String :=
  Assoc.keys connections.links

/-- Take note of an attempt to reach a server.  A connection that comes about takes the place of an
earlier one; if none does, everything stays as it was. -/
def connect (connections : Connections κ) (server : String) (config : ServerConfig)
    (dialled : Except DialFailure κ) : Except Error Unit × Connections κ :=
  match dialled with
  | .error failure => (.error (failure.toError server), connections)
  | .ok link =>
    (.ok (), ⟨Assoc.insert connections.links server link,
      Assoc.insert connections.configs server config⟩)

/-- How a server is to be dialled again. -/
def redial (connections : Connections κ) (server : String) : Except Error ServerConfig :=
  match Assoc.get? connections.configs server with
  | some config => .ok config
  | none => .error (.toolServer s!"No stored config for server '{server}'")

/-- Close the connection to a server. -/
def close (connections : Connections κ) (server : String) : Connections κ :=
  { connections with links := Assoc.erase connections.links server }

/-- Close the connection to a server and dial it again, the way it was reached the last time. -/
def reconnect (connections : Connections κ) (server : String)
    (dial : ServerConfig → Except DialFailure κ) : Except Error Unit × Connections κ :=
  match connections.redial server with
  | .error error => (.error error, connections)
  | .ok config => (connections.close server).connect server config (dial config)

/-- Put a changed connection in its place. -/
def update (connections : Connections κ) (server : String) (link : κ) : Connections κ :=
  { connections with links := Assoc.insert connections.links server link }

/-- Close all connections. -/
def closeAll (connections : Connections κ) : Connections κ :=
  { connections with links := [] }

/-- The seconds that a call of a tool of a server may take. -/
def patience (connections : Connections κ) (server : String) : Nat :=
  ((Assoc.get? connections.configs server).map ServerConfig.timeout).getD
    ServerConfig.standardTimeout

end Connections

/-! ## Calls -/

/-- The server and the tool that a call is meant for, and the arguments that go along. -/
structure Address where
  server : String
  tool : String
  arguments : Option (Assoc Json)
deriving DecidableEq, Repr

namespace Address

/-- The address of a call by a qualified name. -/
def ofCall (name : String) (arguments : Json) : Except Error Address :=
  match ToolName.split? name with
  | none => .error (.toolNotFound name)
  | some (server, tool) =>
    match arguments with
    | .record members => .ok ⟨server, tool, some members⟩
    | .null => .ok ⟨server, tool, none⟩
    | other =>
      .error (.toolExecution name s!"arguments must be an object, got {other.render}")

end Address

/-- How far the call of a tool has come. -/
inductive Calling where
  /-- The request is made. -/
  | asking
  /-- The request has failed, and the server is dialled again. -/
  | redialling (failure : Error)
  /-- The request is made once more. -/
  | askingAgain
  | ended (result : Except Error ToolOutput)

namespace Calling

/-- What can happen at a stage.  A request has a result or fails, or there is no connection that it
could be made over; dialling leads to a connection or does not. -/
def Move : Calling → Type
  | asking => Option (Except Failure ToolOutput)
  | redialling _ => Bool
  | askingAgain => Option (Except Failure ToolOutput)
  | ended _ => Empty

/-- What a request has come to. -/
def outcome (address : Address) : Option (Except Failure ToolOutput) → Except Error ToolOutput
  | none => .error (notConnected address.server)
  | some (.error failure) => .error (notCalled address.server address.tool failure)
  | some (.ok output) => .ok output

/-- Whether the wording of a failure tells of a closed connection. -/
def tellsOfClosing (failure : Error) : Bool :=
  Text.contains "closed" failure.message || Text.contains "Transport" failure.message

/-- The stage after something has happened. -/
def step (address : Address) : (stage : Calling) → stage.Move → Calling
  | asking, answer =>
    match outcome address answer with
    | .error failure =>
      if tellsOfClosing failure then redialling failure else ended (.error failure)
    | .ok output => ended (.ok output)
  | redialling _, true => askingAgain
  | redialling failure, false => ended (.error failure)
  | askingAgain, answer => ended (outcome address answer)

end Calling

end Workflow.ToolServer
