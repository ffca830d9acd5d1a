import Workflow.Error
import Workflow.Tool

/-!
# What tool servers say

A tool server lists its tools, carries out calls, and announces on its own accord that its tools
have changed or that it has something to log.  A request to a server can fail in three ways, and so
can the attempt to reach it.
-/

namespace Workflow.ToolServer

/-- A tool as its server advertises it. -/
structure Listed where
  name : String
  description : Option String
  schema : Json
deriving DecidableEq, Repr

/-- What models are told about a tool of a server. -/
def Listed.definition (server : String) (tool : Listed) : ToolDefinition :=
  ⟨ToolName.qualified server tool.name, tool.description.getD s!"MCP tool: {tool.name}",
    tool.schema⟩

/-- Why a request to a connected server has no result. -/
inductive Failure where
  /-- The server answered with an error. -/
  | refused (code : Int) (message : String)
  /-- The connection was closed before an answer came. -/
  | closed
  /-- The server answered with something else than a result of the request. -/
  | unexpected
deriving DecidableEq, Repr

/-- The wording of a failed request. -/
def Failure.message : Failure → String
  | refused code message => s!"Mcp error: {code}: {message}"
  | closed => "Transport closed"
  | unexpected => "Unexpected response type"

/-- Why no connection came about. -/
inductive DialFailure where
  /-- The program of the server could not be started. -/
  | notStarted (command reason : String)
  /-- The server hung up before it had introduced itself. -/
  | hungUp
deriving DecidableEq, Repr

/-- The failure to reach a server. -/
def DialFailure.toError (server : String) : DialFailure → Error
  | notStarted command reason => .toolServer s!"Failed to spawn {command}: {reason}"
  | hungUp =>
    .toolServer s!"MCP init for '{server}' failed: connection closed: initialize response"

/-- What a server tells on its own accord. -/
inductive Announcement where
  | toolsChanged (server : String)
  | log (server level message : String)
deriving DecidableEq, Repr

/-- The failure of a request to a server without a connection. -/
def notConnected (server : String) : Error :=
  .toolServer s!"Server '{server}' not connected"

/-- The failure to list the tools of a server. -/
def notListed (server : String) (failure : Failure) : Error :=
  .toolServer s!"Failed to list tools from '{server}': {failure.message}"

/-- The failure of a call. -/
def notCalled (server tool : String) (failure : Failure) : Error :=
  .toolServer s!"Tool call '{server}.{tool}' failed: {failure.message}"

end Workflow.ToolServer
