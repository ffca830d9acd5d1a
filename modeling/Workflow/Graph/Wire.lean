import Workflow.Graph.Basic
import Workflow.Graph.Defect

/-!
# Graph documents

The JSON form of graphs.  A node is `id`, `kind`, `name` and `config`, and its settings are read by
its kind once all nodes have been found well-formed.  `Graph.ofJson` and `Graph.ofText` load a
document, `Graph.decoder` reads a graph that is part of another document, and `Graph.toJson` writes
one.
-/

namespace Workflow

open Wire (Decoder Fields Fault)

namespace VariableType

/-- Read a type off a document. -/
def decoder : Decoder VariableType :=
  Decoder.variant ([string, number, boolean].map fun type => (type.label, type))

end VariableType

namespace InputVariable

/-- A declaration as a JSON value. -/
def toJson (declared : InputVariable) : Json :=
  Json.ofMembers ([("name", .text declared.name), ("type", .text declared.type.label),
    ("required", .bool declared.required)] ++ Json.optional "defaultValue" declared.default?)

/-- Read a declaration off a document. -/
def decoder : Decoder InputVariable :=
  Wire.record "struct InputVariable"
    (InputVariable.mk <$> Fields.required "name" Decoder.string
      <*> Fields.withDefault "type" VariableType.decoder .string
      <*> Fields.withDefault "required" Decoder.bool false
      <*> Fields.optional "defaultValue" Decoder.json)

end InputVariable

namespace OutputFormat

/-- A form of answers as a JSON value. -/
def toJson : OutputFormat → Json
  | text => Json.ofMembers [("type", .text "text")]
  | json schema => Json.ofMembers (("type", .text "json") :: Json.optional "schema" schema)

/-- Read a form of answers off a document. -/
def decoder : Decoder OutputFormat :=
  Wire.tagged "internally tagged enum OutputFormat" "type"
    [("text", Wire.bare text),
     ("json", Wire.record "struct variant OutputFormat::Json"
        (json <$> Fields.optional "schema" Decoder.json))]

end OutputFormat

namespace AgentConfig

/-- Agent settings as a JSON value. -/
def toJson (config : AgentConfig) : Json :=
  Json.ofMembers ([("instructions", .text config.instructions)]
    ++ Json.optional "model" (config.model.map .text)
    ++ (if config.tools.isEmpty then [] else [("tools", .list (config.tools.map ToolSpec.toJson))])
    ++ [("outputFormat", config.outputFormat.toJson)]
    ++ Json.optional "maxToolRounds" (config.maxToolRounds.map Json.nat))

/-- Read agent settings off a document. -/
def decoder : Decoder AgentConfig :=
  Wire.record "struct AgentConfig"
    (AgentConfig.mk <$> Fields.required "instructions" Decoder.string
      <*> Fields.optional "model" Decoder.string
      <*> Fields.withDefault "tools" (Decoder.list ToolSpec.decoder) []
      <*> Fields.withDefault "outputFormat" OutputFormat.decoder .text
      <*> Fields.optional "maxToolRounds" Decoder.nat32)

end AgentConfig

namespace TransformConfig

/-- Transform settings as a JSON value. -/
def toJson (config : TransformConfig) : Json :=
  Json.ofMembers (("script", .text config.script)
    :: Json.optional "timeoutMs" (config.timeoutMs.map Json.nat))

/-- Read transform settings off a document. -/
def decoder : Decoder TransformConfig :=
  Wire.record "struct TransformConfig"
    (TransformConfig.mk <$> Fields.required "script" Decoder.string
      <*> Fields.optional "timeoutMs" Decoder.nat64)

end TransformConfig

namespace WhileConfig

/-- Loop settings as a JSON value. -/
def toJson (config : WhileConfig) : Json :=
  Json.ofMembers [("whileCondition", .text config.condition),
    ("maxIterations", Json.nat config.maxIterations)]

/-- Read loop settings off a document; the condition has two names. -/
def decoder : Decoder WhileConfig :=
  Wire.record "struct WhileConfig"
    (WhileConfig.mk <$> Fields.requiredAs "whileCondition" "condition" Decoder.string
      <*> Fields.required "maxIterations" Decoder.nat32)

end WhileConfig

namespace Decision

/-- Read a decision off a document. -/
def decoder : Decoder Decision :=
  Decoder.variant ([approve, reject].map fun decision => (decision.label, decision))

end Decision

namespace ApprovalConfig

/-- Approval settings as a JSON value. -/
def toJson (config : ApprovalConfig) : Json :=
  Json.ofMembers ([("prompt", .text config.prompt), ("onTimeout", .text config.onTimeout.label)]
    ++ Json.optional "timeoutSecs" (config.timeoutSecs.map Json.nat))

/-- Read approval settings off a document. -/
def decoder : Decoder ApprovalConfig :=
  Wire.record "struct ApprovalConfig"
    (ApprovalConfig.mk <$> Fields.withDefault "prompt" Decoder.string ""
      <*> Fields.optional "timeoutSecs" Decoder.nat64
      <*> Fields.withDefault "onTimeout" Decision.decoder .reject)

end ApprovalConfig

namespace ToolCallConfig

/-- Tool settings as a JSON value. -/
def toJson (config : ToolCallConfig) : Json :=
  Json.ofMembers [("server", .text config.server), ("tool", .text config.tool),
    ("arguments", config.arguments)]

/-- Read tool settings off a document. -/
def decoder : Decoder ToolCallConfig :=
  Wire.record "struct ToolNodeConfig"
    (ToolCallConfig.mk <$> Fields.required "server" Decoder.string
      <*> Fields.required "tool" Decoder.string
      <*> Fields.withDefault "arguments" Decoder.json .null)

end ToolCallConfig

/-- A node whose settings have not been read. -/
structure NodeForm where
  id : String
  kind : String
  name : Option String
  config : Json
deriving DecidableEq, Repr

namespace NodeForm

/-- Read the form of a node off a document. -/
def decoder : Decoder NodeForm :=
  Wire.record "struct RawNode"
    (NodeForm.mk <$> Fields.required "id" Decoder.string
      <*> Fields.required "kind" Decoder.string
      <*> Fields.optional "name" Decoder.string
      <*> Fields.withDefault "config" Decoder.json .null)

/-- The settings, an empty object for `null`. -/
def settings (form : NodeForm) : Json :=
  match form.config with
  | .null => .record []
  | config => config

/-- Read the settings of a node. -/
def read {α : Type} (form : NodeForm) (decoder : Decoder α) : Except Graph.Defect α :=
  (Wire.ofValue decoder form.settings).mapError (.badConfig form.id form.kind ·)

/-- Read the settings of a start node. -/
def startDecoder : Decoder (List InputVariable) :=
  Wire.record "struct StartConfig"
    (Fields.withDefault "variables" (Decoder.list InputVariable.decoder) [])

/-- Read the settings of an if-else node. -/
def ifElseDecoder : Decoder String :=
  Wire.record "struct IfElseConfig" (Fields.required "condition" Decoder.string)

/-- The kind of a node with its settings. -/
def kind? (form : NodeForm) : Except Graph.Defect NodeKind :=
  if form.kind = "start" then .start <$> form.read startDecoder
  else if form.kind = "end" then .ok .finish
  else if form.kind = "agent" then .agent <$> form.read AgentConfig.decoder
  else if form.kind = "transform" then .transform <$> form.read TransformConfig.decoder
  else if form.kind = "if-else" then .ifElse <$> form.read ifElseDecoder
  else if form.kind = "while" then .loop <$> form.read WhileConfig.decoder
  else if form.kind = "user-approval" then .approval <$> form.read ApprovalConfig.decoder
  else if form.kind = "tool" || form.kind = "mcp" then .tool <$> form.read ToolCallConfig.decoder
  else .error (.unknownKind form.id form.kind)

/-- The node that a form describes. -/
def toNode? (form : NodeForm) : Except Graph.Defect Node :=
  form.kind?.map fun kind => ⟨form.id, form.name, kind⟩

/-- The nodes that a list of forms describes. -/
def toNodes? : List NodeForm → Except Graph.Defect (List Node)
  | [] => .ok []
  | form :: rest =>
    match form.toNode? with
    | .error defect => .error defect
    | .ok node => (toNodes? rest).map (node :: ·)

end NodeForm

namespace NodeKind

/-- The settings of a kind as a JSON value. -/
def settings : NodeKind → Json
  | start declared => Json.ofMembers [("variables", .list (declared.map InputVariable.toJson))]
  | finish => .record []
  | agent config => config.toJson
  | transform config => config.toJson
  | ifElse condition => Json.ofMembers [("condition", .text condition)]
  | loop config => config.toJson
  | approval config => config.toJson
  | tool config => config.toJson

end NodeKind

namespace Node

/-- A node as a JSON value. -/
def toJson (node : Node) : Json :=
  Json.ofMembers ([("id", .text node.id), ("kind", .text node.kind.label),
    ("config", node.kind.settings)] ++ Json.optional "name" (node.name.map .text))

/-- Read a node that is part of another document, settings included. -/
def decoder : Decoder Node := fun place document =>
  match NodeForm.decoder place document with
  | .error fault => .error fault
  | .ok form => form.toNode?.mapError fun defect => .other defect.toError.message

end Node

namespace Edge

/-- An edge as a JSON value. -/
def toJson (edge : Edge) : Json :=
  Json.ofMembers [("id", .text edge.id), ("source", .text edge.source),
    ("target", .text edge.target), ("label", Json.orNull (edge.label.map .text))]

/-- Read an edge off a document. -/
def decoder : Decoder Edge :=
  Wire.record "struct Edge"
    (Edge.mk <$> Fields.required "id" Decoder.string
      <*> Fields.required "source" Decoder.string
      <*> Fields.required "target" Decoder.string
      <*> Fields.optional "label" Decoder.string)

end Edge

/-- A graph whose nodes' settings have not been read. -/
structure GraphForm where
  nodes : List NodeForm
  edges : List Edge
deriving DecidableEq, Repr

namespace GraphForm

/-- Read the form of a graph off a document. -/
def decoder : Decoder GraphForm :=
  Wire.record "struct RawGraph"
    (GraphForm.mk <$> Fields.required "nodes" (Decoder.list NodeForm.decoder)
      <*> Fields.withDefault "edges" (Decoder.list Edge.decoder) [])

/-- The graph that a form describes. -/
def toGraph? (form : GraphForm) : Except Graph.Defect Graph :=
  (NodeForm.toNodes? form.nodes).map fun nodes => ⟨nodes, form.edges⟩

end GraphForm

namespace Graph

/-- Load a graph from a JSON value. -/
def ofJson (value : Json) : Except Defect Graph :=
  match Wire.ofValue GraphForm.decoder value with
  | .error fault => .error (.malformed fault)
  | .ok form => form.toGraph?

/-- Load a graph from a JSON text. -/
def ofText (text : String) : Except Defect Graph :=
  match Wire.ofText GraphForm.decoder text with
  | .error fault => .error (.malformed fault)
  | .ok form => form.toGraph?

/-- Read a graph that is part of another document. -/
def decoder : Decoder Graph :=
  Wire.record "struct WorkflowGraph"
    (Graph.mk <$> Fields.required "nodes" (Decoder.list Node.decoder)
      <*> Fields.withDefault "edges" (Decoder.list Edge.decoder) [])

/-- A graph as a JSON value. -/
def toJson (graph : Graph) : Json :=
  Json.ofMembers [("nodes", .list (graph.nodes.map Node.toJson)),
    ("edges", .list (graph.edges.map Edge.toJson))]

end Graph

end Workflow
