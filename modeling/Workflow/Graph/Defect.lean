import Workflow.Error
import Workflow.Wire.Fault

/-!
# Defects of graphs

Why a document is not a graph, or a graph is not one that may run.  Most defects blame a node.
-/

namespace Workflow.Graph

/-- A defect of a graph or its document. -/
inductive Defect where
  | malformed (fault : Wire.Fault)
  | badConfig (node kind : String) (fault : Wire.Fault)
  | unknownKind (node kind : String)
  | emptyId
  | repeatedNode (node : String)
  | repeatedEdge (edge : String)
  | noStart
  | secondStart (node : String)
  | noFinish
  | unknownEndpoint (edge endpoint : String)
  | enteredStart (node : String)
  | neverEntered (node : String)
  | leftFinish (node : String)
  | badBranches (node : String)
  | badLoop (node : String)
  | wrongDegree (node kind : String) (found : Nat)
  | emptySetting (node setting : String)
  | badSchema (node reason : String)
  | unreachable (node : String)
  | cycle (node : String)
deriving DecidableEq, Repr

namespace Defect

/-- The wording of a defect. -/
def reason : Defect → String
  | malformed fault => s!"malformed graph document: {fault.message}"
  | badConfig _ kind fault => s!"invalid {kind} config: {fault.message}"
  | unknownKind _ kind => s!"unknown node kind '{kind}'"
  | emptyId => "node with empty id"
  | repeatedNode node => s!"duplicate node id '{node}'"
  | repeatedEdge edge => s!"duplicate edge id '{edge}'"
  | noStart => "graph has no start node"
  | secondStart _ => "graph has more than one start node"
  | noFinish => "graph has no end node"
  | unknownEndpoint edge endpoint => s!"edge '{edge}' references unknown node '{endpoint}'"
  | enteredStart _ => "start node must not have incoming edges"
  | neverEntered _ => "node has no incoming edge"
  | leftFinish _ => "end node must not have outgoing edges"
  | badBranches _ => "if-else node needs exactly two outgoing edges labeled true and false"
  | badLoop _ => "while node needs exactly one body edge and one exit edge"
  | wrongDegree _ kind found => s!"{kind} node needs exactly one outgoing edge, found {found}"
  | emptySetting _ setting => s!"{setting} must not be empty"
  | badSchema _ reason => s!"invalid output schema: {reason}"
  | unreachable _ => "node is unreachable from start"
  | cycle _ => "cycle that does not pass through a while node"

/-- The node that a defect blames. -/
def node? : Defect → Option String
  | badConfig node .. | unknownKind node _ | repeatedNode node | secondStart node
  | enteredStart node | neverEntered node | leftFinish node | badBranches node | badLoop node
  | wrongDegree node .. | emptySetting node _ | badSchema node _ | unreachable node
  | cycle node => some node
  | malformed _ | emptyId | repeatedEdge _ | noStart | noFinish | unknownEndpoint .. => none

/-- A defect as a failure. -/
def toError (defect : Defect) : Error :=
  .invalidGraph defect.reason defect.node?

end Defect

end Workflow.Graph
