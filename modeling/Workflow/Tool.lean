import Workflow.Wire.Decoder
import Workflow.Text.Blank

/-!
# Remote tools

A tool lives on a server and is known to models by a qualified name.  A `ToolSpec` says which tools
of a server an agent may use, a `ToolDefinition` is what a model is told about a tool, and a
`ToolOutput` what a call came to.
-/

namespace Workflow

open Wire (Decoder Fields)

/-- The tools of one server that an agent may use; no names stand for all of them. -/
structure ToolSpec where
  server : String
  names : List String
deriving DecidableEq, Repr

namespace ToolSpec

/-- Whether a tool of the server may be used. -/
def allows (spec : ToolSpec) (tool : String) : Bool :=
  spec.names.isEmpty || spec.names.contains tool

/-- A specification as a JSON value. -/
def toJson (spec : ToolSpec) : Json :=
  Json.ofMembers [("server", .text spec.server), ("names", .list (spec.names.map .text))]

/-- Read a specification off a document. -/
def decoder : Decoder ToolSpec :=
  Wire.record "struct ToolSpec"
    (ToolSpec.mk <$> Fields.required "server" Decoder.string
      <*> Fields.withDefault "names" (Decoder.list Decoder.string) [])

end ToolSpec

/-- What a model is told about a tool. -/
structure ToolDefinition where
  name : String
  description : String
  inputSchema : Json
deriving DecidableEq, Repr

namespace ToolDefinition

/-- A definition as a JSON value. -/
def toJson (tool : ToolDefinition) : Json :=
  Json.ofMembers [("name", .text tool.name), ("description", .text tool.description),
    ("input_schema", tool.inputSchema)]

/-- Read a definition off a document. -/
def decoder : Decoder ToolDefinition :=
  Wire.record "struct ToolDefinition"
    (ToolDefinition.mk <$> Fields.required "name" Decoder.string
      <*> Fields.required "description" Decoder.string
      <*> Fields.required "input_schema" Decoder.json)

end ToolDefinition

/-- What a call of a tool came to. -/
structure ToolOutput where
  content : String
  structured : Option Json
  isError : Bool
deriving DecidableEq, Repr

namespace ToolOutput

/-- A plain result. -/
def success (content : String) : ToolOutput :=
  ⟨content, none, false⟩

/-- A result that reports an error. -/
def failure (content : String) : ToolOutput :=
  ⟨content, none, true⟩

/-- The best value of a result: its structured content, else its text as JSON, else its text. -/
def value (output : ToolOutput) : Json :=
  match output.structured with
  | some value => value
  | none => (Json.parse? output.content).getD (.text output.content)

/-- A result as a JSON value. -/
def toJson (output : ToolOutput) : Json :=
  Json.ofMembers ([("content", .text output.content), ("is_error", .bool output.isError)]
    ++ Json.optional "structured" output.structured)

/-- Read a result off a document. -/
def decoder : Decoder ToolOutput :=
  Wire.record "struct ToolOutput"
    (ToolOutput.mk <$> Fields.required "content" Decoder.string
      <*> Fields.optional "structured" Decoder.json
      <*> Fields.withDefault "is_error" Decoder.bool false)

end ToolOutput

namespace ToolName

/-- The name by which models know a tool of a server. -/
def qualified (server tool : String) : String :=
  "mcp__" ++ server ++ "__" ++ tool

/-- The server and the tool of a qualified name.  The server ends before the first double
underscore, and neither part is empty. -/
def split? (name : String) : Option (String × String) := do
  let rest ← Text.dropHead? "mcp__".toList name.toList
  let (server, tool) ← Text.breakOn? "__".toList rest
  if server.isEmpty || tool.isEmpty then none
  else some (String.ofList server, String.ofList tool)

end ToolName

end Workflow
