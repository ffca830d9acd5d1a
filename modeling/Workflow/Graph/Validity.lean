import Workflow.Graph.Basic
import Workflow.Graph.Defect

/-!
# Graphs that may run

`Graph.defect?` looks for the first defect of a graph: ids first, then start and end nodes, the
ends of edges, each node's edges and settings in document order, reachability, and cycles.  Whether
the schema of an answer can be used is for the caller to say.

Every cycle has to pass through a while node.  The search for a cycle keeps the path that it is on;
an edge back to a node on the path closes a cycle, and that node is blamed.
-/

namespace Workflow.Graph

/-- The first defect among node ids, given the ids seen before. -/
def nodeIdDefect? (seen : List String) : List Node → Option Defect
  | [] => none
  | node :: rest =>
    if node.id = "" then some .emptyId
    else if seen.contains node.id then some (.repeatedNode node.id)
    else nodeIdDefect? (node.id :: seen) rest

/-- The first edge id that was seen before. -/
def edgeIdDefect? (seen : List String) : List Edge → Option Defect
  | [] => none
  | edge :: rest =>
    if seen.contains edge.id then some (.repeatedEdge edge.id)
    else edgeIdDefect? (edge.id :: seen) rest

/-- There is exactly one start node and at least one end node. -/
def terminalDefect? (graph : Graph) : Option Defect :=
  match graph.nodes.filter fun node => node.kind.isStart with
  | [] => some .noStart
  | [_] => if graph.nodes.any fun node => node.kind.isFinish then none else some .noFinish
  | _ :: second :: _ => some (.secondStart second.id)

/-- The first end of an edge that is no node, sources before targets. -/
def endpointDefect? (graph : Graph) : Option Defect :=
  graph.edges.findSome? fun edge =>
    if (graph.node? edge.source).isNone then some (.unknownEndpoint edge.id edge.source)
    else if (graph.node? edge.target).isNone then some (.unknownEndpoint edge.id edge.target)
    else none

/-- Whether a list of edges is a pair that stands for two branches. -/
def pairOf (edges : List Edge) (a b : Branch) : Bool :=
  edges.length = 2 && edges.any (·.branch? = some a) && edges.any (·.branch? = some b)

/-- What is wrong with the edges of a node. -/
def degreeDefect? (graph : Graph) (node : Node) : Option Defect :=
  let entries := (graph.incoming node.id).length
  let exits := graph.outgoing node.id
  if node.kind.isStart && entries > 0 then some (.enteredStart node.id)
  else if !node.kind.isStart && entries = 0 then some (.neverEntered node.id)
  else match node.kind with
    | .finish => if exits.isEmpty then none else some (.leftFinish node.id)
    | .ifElse _ => if pairOf exits .whenTrue .whenFalse then none else some (.badBranches node.id)
    | .loop _ => if pairOf exits .body .exit then none else some (.badLoop node.id)
    | kind =>
      if exits.length = 1 then none else some (.wrongDegree node.id kind.label exits.length)

/-- What is wrong with the settings of a node; `refusal?` says why a schema cannot be used. -/
def settingDefect? (refusal? : Json → Option String) (node : Node) : Option Defect :=
  let nonBlank (setting value : String) : Option Defect :=
    if Text.blank value then some (.emptySetting node.id setting) else none
  match node.kind with
  | .agent config =>
    (nonBlank "instructions" config.instructions).or <|
      match config.outputFormat with
      | .json (some schema) => (refusal? schema).map (.badSchema node.id ·)
      | _ => none
  | .transform config => nonBlank "script" config.script
  | .ifElse condition => nonBlank "condition" condition
  | .loop config => nonBlank "whileCondition" config.condition
  | .tool config =>
    if config.server = "" then some (.emptySetting node.id "server")
    else if config.tool = "" then some (.emptySetting node.id "tool")
    else none
  | _ => none

/-- What is wrong with a node by itself. -/
def nodeDefect? (refusal? : Json → Option String) (graph : Graph) (node : Node) : Option Defect :=
  (graph.degreeDefect? node).or (settingDefect? refusal? node)

/-- The ids that edges lead to from a node. -/
def successors (graph : Graph) (id : String) : List String :=
  (graph.outgoing id).map (·.target)

/-- The ids among `remaining` that can be reached from `pending`.  Each step takes one id out of
those that remain. -/
def gather (graph : Graph) (remaining pending : List String) : List String :=
  match _found : pending.find? remaining.contains with
  | none => []
  | some id => id :: gather graph (remaining.erase id) (graph.successors id ++ pending)
termination_by remaining.length
decreasing_by
  have member : id ∈ remaining := by
    have := List.find?_some _found
    simpa using this
  have := List.length_erase_of_mem member
  have := List.length_pos_of_mem member
  omega

/-- The node ids that can be reached from a node. -/
def reachableFrom (graph : Graph) (id : String) : List String :=
  graph.gather (graph.nodes.map (·.id)) [id]

/-- The first node that cannot be reached from the start. -/
def reachDefect? (graph : Graph) : Option Defect :=
  match graph.start? with
  | none => none
  | some start =>
    let reached := graph.reachableFrom start.id
    (graph.nodes.find? fun node => !reached.contains node.id).map fun node => .unreachable node.id

/-- Whether an id is that of a while node. -/
def loops (graph : Graph) (id : String) : Bool :=
  graph.nodes.any fun node => node.id = id && node.kind.isLoop

/-- The ids that edges lead to from a node without touching a while node. -/
def plainSuccessors (graph : Graph) (id : String) : List String :=
  ((graph.outgoing id).filter fun edge => !graph.loops edge.source && !graph.loops edge.target).map
    (·.target)

mutual

/-- Search for a cycle from the last node of `path`, deeper by at most `fuel` nodes.  The result is
the node that closes a cycle, or the nodes from which no cycle can be reached. -/
def search (graph : Graph) (fuel : Nat) (path : List String) (id : String) (done : List String) :
    Except String (List String) :=
  match fuel with
  | 0 => .ok done
  | fuel + 1 =>
    (searchAll graph fuel path (graph.plainSuccessors id) done).map (id :: ·)

/-- Search for a cycle through each of a list of successors of the last node of `path`. -/
def searchAll (graph : Graph) (fuel : Nat) (path successors : List String) (done : List String) :
    Except String (List String) :=
  match successors with
  | [] => .ok done
  | child :: rest =>
    if path.contains child then .error child
    else if done.contains child then searchAll graph fuel path rest done
    else
      match search graph fuel (child :: path) child done with
      | .error blamed => .error blamed
      | .ok done => searchAll graph fuel path rest done

end

/-- Search for a cycle from each of a list of nodes. -/
def searchFrom (graph : Graph) : List Node → List String → Except String (List String)
  | [], done => .ok done
  | node :: rest, done =>
    if done.contains node.id then searchFrom graph rest done
    else
      match graph.search (graph.nodes.length + 1) [node.id] node.id done with
      | .error blamed => .error blamed
      | .ok done => searchFrom graph rest done

/-- A node on a cycle that does not pass through a while node. -/
def cycleDefect? (graph : Graph) : Option Defect :=
  match graph.searchFrom graph.nodes [] with
  | .error blamed => some (.cycle blamed)
  | .ok _ => none

/-- The first defect of a graph. -/
def defect? (refusal? : Json → Option String) (graph : Graph) : Option Defect :=
  (nodeIdDefect? [] graph.nodes).or <|
  (edgeIdDefect? [] graph.edges).or <|
  graph.terminalDefect?.or <|
  graph.endpointDefect?.or <|
  (graph.nodes.findSome? (graph.nodeDefect? refusal?)).or <|
  graph.reachDefect?.or graph.cycleDefect?

end Workflow.Graph
