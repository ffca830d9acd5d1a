import Workflow.Tool

/-!
# Workflow graphs

A workflow is a directed graph of typed nodes.  What a node needs to run is part of its kind, so the
rest of the library only ever sees the eight kinds with complete settings.  Edges out of branching
nodes are told apart by their labels.
-/

namespace Workflow

/-- The declared type of an input. -/
inductive VariableType where
  | string
  | number
  | boolean
deriving DecidableEq, Repr

/-- The name of a type. -/
def VariableType.label : VariableType → String
  | string => "string"
  | number => "number"
  | boolean => "boolean"

/-- An input that the start node declares. -/
structure InputVariable where
  name : String
  type : VariableType
  required : Bool
  default? : Option Json
deriving DecidableEq, Repr

/-- The wanted form of an agent's answer. -/
inductive OutputFormat where
  | text
  | json (schema : Option Json)
deriving DecidableEq, Repr

/-- The settings of an agent node. -/
structure AgentConfig where
  instructions : String
  /-- Another model than the configured one. -/
  model : Option String
  tools : List ToolSpec
  outputFormat : OutputFormat
  maxToolRounds : Option Nat
deriving DecidableEq, Repr

/-- The settings of a transform node. -/
structure TransformConfig where
  script : String
  /-- Another time limit than the configured one. -/
  timeoutMs : Option Nat
deriving DecidableEq, Repr

/-- The settings of a while node. -/
structure WhileConfig where
  condition : String
  maxIterations : Nat
deriving DecidableEq, Repr

/-- The outcome of an approval. -/
inductive Decision where
  | approve
  | reject
deriving DecidableEq, Repr

/-- The name of a decision. -/
def Decision.label : Decision → String
  | approve => "approve"
  | reject => "reject"

/-- The settings of an approval node. -/
structure ApprovalConfig where
  prompt : String
  timeoutSecs : Option Nat
  /-- What is decided when nobody answers in time. -/
  onTimeout : Decision
deriving DecidableEq, Repr

/-- The settings of a tool node. -/
structure ToolCallConfig where
  server : String
  tool : String
  arguments : Json
deriving DecidableEq, Repr

/-- What a node does. -/
inductive NodeKind where
  | start (declared : List InputVariable)
  | finish
  | agent (config : AgentConfig)
  | transform (config : TransformConfig)
  | ifElse (condition : String)
  | loop (config : WhileConfig)
  | approval (config : ApprovalConfig)
  | tool (config : ToolCallConfig)
deriving DecidableEq, Repr

namespace NodeKind

/-- The name of a kind. -/
def label : NodeKind → String
  | start _ => "start"
  | finish => "end"
  | agent _ => "agent"
  | transform _ => "transform"
  | ifElse _ => "if-else"
  | loop _ => "while"
  | approval _ => "user-approval"
  | tool _ => "tool"

/-- Whether a run starts here. -/
def isStart : NodeKind → Bool
  | start _ => true
  | _ => false

/-- Whether a run ends here. -/
def isFinish : NodeKind → Bool
  | finish => true
  | _ => false

/-- Whether a loop is decided here. -/
def isLoop : NodeKind → Bool
  | loop _ => true
  | _ => false

end NodeKind

/-- A step of a workflow. -/
structure Node where
  id : String
  name : Option String
  kind : NodeKind
deriving DecidableEq, Repr

/-- The way out of a branching node. -/
inductive Branch where
  | whenTrue
  | whenFalse
  | body
  | exit
deriving DecidableEq, Repr

namespace Branch

/-- The name of a branch. -/
def label : Branch → String
  | whenTrue => "true"
  | whenFalse => "false"
  | body => "body"
  | exit => "exit"

/-- The branch that a label names, in any case and with white space around it. -/
def ofLabel? (label : String) : Option Branch :=
  let word := Text.lowerAscii (Text.trimmed label)
  if word = "true" || word = "yes" then some whenTrue
  else if word = "false" || word = "no" then some whenFalse
  else if word = "body" || word = "loop" then some body
  else if word = "exit" || word = "done" then some exit
  else none

end Branch

/-- A connection between two nodes. -/
structure Edge where
  id : String
  source : String
  target : String
  label : Option String
deriving DecidableEq, Repr

/-- The branch that an edge stands for. -/
def Edge.branch? (edge : Edge) : Option Branch :=
  edge.label.bind Branch.ofLabel?

/-- A workflow. -/
structure Graph where
  nodes : List Node
  edges : List Edge
deriving DecidableEq, Repr

namespace Graph

/-- The node with an id. -/
def node? (graph : Graph) (id : String) : Option Node :=
  graph.nodes.find? fun node => node.id = id

/-- The first start node. -/
def start? (graph : Graph) : Option Node :=
  graph.nodes.find? fun node => node.kind.isStart

/-- The edges out of a node, in document order. -/
def outgoing (graph : Graph) (id : String) : List Edge :=
  graph.edges.filter fun edge => edge.source = id

/-- The edges into a node, in document order. -/
def incoming (graph : Graph) (id : String) : List Edge :=
  graph.edges.filter fun edge => edge.target = id

/-- The edge out of a node that stands for a branch. -/
def branchEdge? (graph : Graph) (id : String) (branch : Branch) : Option Edge :=
  graph.edges.find? fun edge => edge.source = id && edge.branch? = some branch

/-- The first edge out of a node. -/
def soleEdge? (graph : Graph) (id : String) : Option Edge :=
  graph.edges.find? fun edge => edge.source = id

end Graph

end Workflow
