import Workflow.Conversation.Message
import Workflow.Error
import Workflow.Json.Document

/-!
# One turn of a model

A model answers in pieces: text, the starts of requests to use a tool, pieces of the inputs of these
requests, token counts.  A `Turn` is what the pieces of one answer come to.
-/

namespace Workflow

/-- What a model sent: pieces of an answer, and the failure that cut it off if there was one. -/
structure ModelStream where
  deltas : List Delta
  broken : Option Error
deriving DecidableEq, Repr

namespace Agent

/-- A request to use a tool, with the text of its input. -/
structure Call where
  id : String
  name : String
  input : String
deriving DecidableEq, Repr

namespace Call

/-- A request of which nothing is known. -/
def unknown : Call :=
  ⟨"", "", ""⟩

/-- The arguments of a request: a blank input stands for no arguments, and `null` for one that is
not JSON. -/
def arguments (call : Call) : Json :=
  if Text.blank call.input then Json.empty else (Json.parse? call.input).getD .null

/-- A request as part of a message. -/
def toBlock (call : Call) : Block :=
  .toolUse call.id call.name call.arguments

end Call

/-- What a model said in one answer. -/
structure Turn where
  text : String
  /-- The requests by position; a position that never started has no name. -/
  calls : List Call
  stop : Option StopReason
  /-- Tokens that the model read. -/
  read : Nat
  /-- Tokens that the model wrote. -/
  written : Nat
deriving DecidableEq, Repr

namespace Turn

/-- Nothing said yet. -/
def empty : Turn :=
  ⟨"", [], none, 0, 0⟩

/-- The request at a position starts.  Positions before it that have not started yet are kept
free, and input that came before stays. -/
def startCall (calls : List Call) (index : Nat) (id name : String) : List Call :=
  let padded := calls ++ List.replicate (index + 1 - calls.length) Call.unknown
  padded.modify index fun call => { call with id, name }

/-- More input for the request at a position; none for a position that is not there. -/
def extendCall (calls : List Call) (index : Nat) (chunk : String) : List Call :=
  calls.modify index fun call => { call with input := call.input ++ chunk }

/-- The turn after one more piece. -/
def take (turn : Turn) : Delta → Turn
  | .text chunk => { turn with text := turn.text ++ chunk }
  | .toolStart index id name => { turn with calls := startCall turn.calls index id name }
  | .toolInput index chunk => { turn with calls := extendCall turn.calls index chunk }
  | .stop reason => { turn with stop := some reason }
  | .usage read written =>
    { turn with read := turn.read + read, written := turn.written + written }

/-- The turn that the pieces of an answer come to. -/
def ofDeltas (deltas : List Delta) : Turn :=
  deltas.foldl take empty

/-- The requests that count: those with a name. -/
def namedCalls (turn : Turn) : List Call :=
  turn.calls.filter fun call => !call.name.isEmpty

/-- What the model said, as a message. -/
def toMessage (turn : Turn) : Message :=
  let text := if turn.text.isEmpty then [] else [Block.text turn.text]
  ⟨.assistant, text ++ turn.namedCalls.map Call.toBlock, none⟩

end Turn

end Agent

end Workflow
