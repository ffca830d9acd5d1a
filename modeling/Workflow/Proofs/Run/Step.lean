import Workflow.Proofs.Graph.WellFormed
import Workflow.Run.Leg

/-!
# What one step of a leg can do

`Leg.step` is total, so it also says what happens where a node or an edge is
missing.  In a well-formed graph none is ever missed: `Sound` says that a
stage belongs to the graph, `Goes` lists what a step can come to from such a
stage, and `goes_step` is the one case analysis of `Leg.step`.  All that is
proved about runs is proved from `Goes`.
-/

namespace Workflow

/-- Kinds of nodes whose output becomes the last output of the run. -/
def NodeKind.producesValue : NodeKind → Bool
  | .agent _ | .transform _ | .tool _ => true
  | _ => false

namespace Leg

variable {plan : Plan}

/-! ## Stages that belong to the graph -/

/-- The work that a node asks for in a state of the run. -/
inductive Asks (plan : Plan) (context : Context) (node : Node) : Work → Prop
  | agent {config : AgentConfig} (hkind : node.kind = .agent config) :
      Asks plan context node (.agent { config with
        instructions := (Template.resolve config.instructions context).text })
  | transform {config : TransformConfig}
      (hkind : node.kind = .transform config) :
      Asks plan context node (.transform config.script context.bindings
        (config.timeoutMs.getD plan.limits.scriptTimeout))
  | choice {condition : String} (hkind : node.kind = .ifElse condition) :
      Asks plan context node
        (.choice condition context.bindings plan.limits.scriptTimeout)
  | iteration {config : WhileConfig} (hkind : node.kind = .loop config)
      (hlimit : context.iteration node.id < loopLimit plan.limits config) :
      Asks plan context node (.iteration config.condition
        (Assoc.insert context.bindings "iteration"
          (.nat (context.iteration node.id + 1)))
        plan.limits.scriptTimeout (context.iteration node.id))
  | tool {config : ToolCallConfig} (hkind : node.kind = .tool config) :
      Asks plan context node
        (.tool config.server config.tool (toolArguments context config))

/-- A run that has been put aside at an approval node of the graph. -/
inductive Awaits (plan : Plan) : SuspendedRun → Prop
  | intro {context : Context} {node : Node} {config : ApprovalConfig}
      {now : Instant} (hnode : node ∈ plan.graph.nodes)
      (hkind : node.kind = .approval config) :
      Awaits plan (suspend plan context node.id config now)

/-- A stage at which all that is looked up next is there. -/
inductive Sound (plan : Plan) : Leg → Prop
  | between {context : Context} {node : Node}
      (hnode : node ∈ plan.graph.nodes) :
      Sound plan (.between context node.id)
  | entered {context : Context} {node : Node}
      (hnode : node ∈ plan.graph.nodes) :
      Sound plan (.entered context node)
  | working {context : Context} {node : Node} {work : Work}
      (hnode : node ∈ plan.graph.nodes)
      (hwork : Asks plan context node work) :
      Sound plan (.working context node work)
  | parking {suspended : SuspendedRun} (hawaits : Awaits plan suspended) :
      Sound plan (.parking suspended)
  | parked {suspended : SuspendedRun} (hawaits : Awaits plan suspended) :
      Sound plan (.parked suspended)
  | completed (output : Json) : Sound plan (.ended (.completed output))
  | failed (node : String) (error : Error) :
      Sound plan (.ended (.failed node error))
  | suspended {suspended : SuspendedRun} (hawaits : Awaits plan suspended) :
      Sound plan (.ended (.suspended suspended))

theorem Awaits.exists_node {suspended : SuspendedRun}
    (hawaits : Awaits plan suspended) :
    ∃ node ∈ plan.graph.nodes, ∃ config,
      node.kind = .approval config ∧ node.id = suspended.cursor := by
  obtain ⟨hnode, hkind⟩ := hawaits
  exact ⟨_, hnode, _, hkind, rfl⟩

theorem Awaits.graph_eq {suspended : SuspendedRun}
    (hawaits : Awaits plan suspended) :
    suspended.graph = plan.graph := by
  obtain ⟨_, _⟩ := hawaits
  rfl

theorem Awaits.run_eq {suspended : SuspendedRun}
    (hawaits : Awaits plan suspended) :
    suspended.run = plan.run := by
  obtain ⟨_, _⟩ := hawaits
  rfl

/-! ## What a step comes to -/

/-- The failures that a move leads to, and the nodes that they are reported
at. -/
inductive Fails (plan : Plan) : (leg : Leg) → leg.Move → String → Error → Prop
  | cancelledBetween {context : Context} {next : String} :
      Fails plan (.between context next) true next .cancelled
  | exhausted {context : Context} {next : String}
      (hbudget : plan.limits.maxSteps ≤ context.steps) :
      Fails plan (.between context next) false next
        (.loopSafety next (min (context.steps + 1) maxReported))
  | cancelledEntered {context : Context} {node : Node} :
      Fails plan (.entered context node) none node.id .cancelled
  | cancelledWorking {context : Context} {node : Node} {work : Work} :
      Fails plan (.working context node work) none node.id .cancelled
  | agent {context : Context} {node : Node} {request : AgentConfig}
      {error : Error} :
      Fails plan (.working context node (.agent request))
        (some (.error error)) node.id error
  | transform {context : Context} {node : Node} {script : String}
      {bindings : Assoc Json} {millis : Nat} {error : Error} :
      Fails plan (.working context node (.transform script bindings millis))
        (some (.error error)) node.id error
  | choice {context : Context} {node : Node} {condition : String}
      {bindings : Assoc Json} {millis : Nat} {error : Error} :
      Fails plan (.working context node (.choice condition bindings millis))
        (some (.error error)) node.id error
  | iteration {context : Context} {node : Node} {condition : String}
      {bindings : Assoc Json} {millis completed : Nat} {error : Error} :
      Fails plan (.working context node
        (.iteration condition bindings millis completed))
        (some (.error error)) node.id error
  | tool {context : Context} {node : Node} {server tool : String}
      {arguments : Json} {error : Error} :
      Fails plan (.working context node (.tool server tool arguments))
        (some (.error error)) node.id (toolFailure error)
  | toolReport {context : Context} {node : Node} {server tool : String}
      {arguments : Json} {output : ToolOutput}
      (hreport : output.isError = true) :
      Fails plan (.working context node (.tool server tool arguments))
        (some (.ok output)) node.id
        (.agent .toolFailed
          s!"{server}.{tool} returned an error: {output.content}" none)
  | refused {suspended : SuspendedRun} {error : Error} :
      Fails plan (.parking suspended) (some error) suspended.cursor error

/-- How a node is left: the state that takes note of it, the output that is
reported and the branch that is taken. -/
inductive Leaves (plan : Plan) (context : Context) (node : Node) :
    Context → Json → Option Branch → Prop
  | start {declared : List InputVariable}
      (hkind : node.kind = .start declared) :
      Leaves plan context node
        (context.recordControl node.id (.record context.inputs))
        (.record context.inputs) none
  | value {output : Json} (hkind : node.kind.producesValue = true) :
      Leaves plan context node (context.recordOutput node.id output)
        output none
  | choice {condition : String} {branch : Branch}
      (hkind : node.kind = .ifElse condition)
      (hbranch : branch = .whenTrue ∨ branch = .whenFalse) :
      Leaves plan context node
        (context.recordControl node.id
          (Json.ofMembers [("branch", .text branch.label)]))
        (Json.ofMembers [("branch", .text branch.label)]) (some branch)
  | body {config : WhileConfig} (hkind : node.kind = .loop config)
      (hlimit : context.iteration node.id < loopLimit plan.limits config) :
      Leaves plan context node
        ((context.setCounter node.id
          (context.iteration node.id + 1)).recordControl node.id
          (loopOutput .body (context.iteration node.id + 1)))
        (loopOutput .body (context.iteration node.id + 1)) (some .body)
  | exit {config : WhileConfig} (hkind : node.kind = .loop config) :
      Leaves plan context node
        ((context.clearCounter node.id).recordControl node.id
          (loopOutput .exit (context.iteration node.id)))
        (loopOutput .exit (context.iteration node.id)) (some .exit)

/-- A node that has been started, and the state of the run. -/
inductive Visits : Leg → Context → Node → Prop
  | entered {context : Context} {node : Node} :
      Visits (.entered context node) context node
  | working {context : Context} {node : Node} {work : Work} :
      Visits (.working context node work) context node

theorem Visits.mem {leg : Leg} {context : Context} {node : Node}
    (hvisits : Visits leg context node) (hsound : Sound plan leg) :
    node ∈ plan.graph.nodes := by
  cases hvisits with
  | entered =>
      cases hsound with
      | entered hnode => exact hnode
  | working =>
      cases hsound with
      | working hnode _ => exact hnode

/-- The event that reports the start of a node. -/
def startedEvent (node : Node) : Event :=
  ⟨node.id, .started, Json.ofMembers [("kind", .text node.kind.label)]⟩

/-- What a move leads to from a sound stage, and what is reported on the
way. -/
inductive Goes (plan : Plan) :
    (leg : Leg) → leg.Move → Leg → List Event → Prop
  | fails {leg : Leg} {move : leg.Move} {node : String} {error : Error}
      (hfails : Fails plan leg move node error) :
      Goes plan leg move (.ended (.failed node error))
        [⟨node, .error, error.payload⟩]
  | enters {context : Context} {node : Node} (hnode : node ∈ plan.graph.nodes)
      (hbudget : context.steps < plan.limits.maxSteps) :
      Goes plan (.between context node.id) false
        (.entered { context with steps := context.steps + 1 } node)
        [startedEvent node]
  | works {context : Context} {node : Node} {now : Instant} {work : Work}
      (hwork : Asks plan context node work) :
      Goes plan (.entered context node) (some now)
        (.working context node work) []
  | leaves {leg : Leg} {move : leg.Move} {context after : Context}
      {node : Node} {output : Json} {branch : Option Branch} {edge : Edge}
      (hvisits : Visits leg context node)
      (hleaves : Leaves plan context node after output branch)
      (hexit : plan.graph.Exit node.id branch edge) :
      Goes plan leg move (.between (after.traverse edge.id) edge.target)
        [⟨node.id, .output, output⟩]
  | completes {context : Context} {node : Node} {now : Instant}
      (hkind : node.kind = .finish) :
      Goes plan (.entered context node) (some now)
        (.ended (.completed (Json.orNull context.lastOutput)))
        [⟨node.id, .output, Json.orNull context.lastOutput⟩]
  | parks {context : Context} {node : Node} {config : ApprovalConfig}
      {now : Instant} (hkind : node.kind = .approval config) :
      Goes plan (.entered context node) (some now)
        (.parking (suspend plan context node.id config now)) []
  | keeps {suspended : SuspendedRun} :
      Goes plan (.parking suspended) none (.parked suspended) []
  | suspends {suspended : SuspendedRun} :
      Goes plan (.parked suspended) () (.ended (.suspended suspended))
        [⟨suspended.cursor, .suspended, suspendedPayload suspended⟩]

/-! ## Leaving a node -/

/-- A node is left by a branch that its kind can take. -/
theorem Leaves.leavesBy {context after : Context} {node : Node}
    {output : Json} {branch : Option Branch}
    (hleaves : Leaves plan context node after output branch) :
    node.kind.LeavesBy branch := by
  cases hleaves with
  | start hkind => simp [hkind, NodeKind.LeavesBy]
  | value hkind =>
      cases hnode : node.kind <;> simp_all
        [NodeKind.producesValue, NodeKind.LeavesBy]
  | choice hkind hbranch =>
      rcases hbranch with rfl | rfl <;> simp [hkind, NodeKind.LeavesBy]
  | body hkind _ => simp [hkind, NodeKind.LeavesBy]
  | exit hkind => simp [hkind, NodeKind.LeavesBy]

theorem exit?_eq_ok {graph : Graph} {id : String} {branch : Option Branch}
    {edge : Edge} (hexit : graph.Exit id branch edge) :
    exit? graph id branch = .ok edge := by
  cases branch with
  | none => simp [exit?, hexit.soleEdge?_eq]
  | some branch => simp [exit?, hexit.branchEdge?_eq]

variable {refusal? : Json → Option String}

theorem goes_leave {leg : Leg} {move : leg.Move} {context after : Context}
    {node : Node} {output : Json} {branch : Option Branch}
    (hgraph : plan.graph.WellFormed refusal?)
    (hnode : node ∈ plan.graph.nodes) (hvisits : Visits leg context node)
    (hleaves : Leaves plan context node after output branch) :
    Goes plan leg move (leave plan after node.id output branch).1
      (leave plan after node.id output branch).2 := by
  obtain ⟨edge, hexit⟩ := hgraph.exists_exit hnode hleaves.leavesBy
  have hleave : leave plan after node.id output branch =
      (.between (after.traverse edge.id) edge.target,
        [⟨node.id, .output, output⟩]) := by
    simp [leave, exit?_eq_ok hexit]
  rw [hleave]
  exact .leaves hvisits hleaves hexit

/-! ## The case analysis of a step -/

theorem goes_enter {context : Context} {node : Node}
    (hgraph : plan.graph.WellFormed refusal?)
    (hnode : node ∈ plan.graph.nodes) :
    Goes plan (.between context node.id) false (enter plan context node.id).1
      (enter plan context node.id).2 := by
  by_cases hbudget : plan.limits.maxSteps < context.steps + 1
  · have henter : enter plan context node.id =
        fail node.id
          (.loopSafety node.id (min (context.steps + 1) maxReported)) := by
      simp [enter, hbudget]
    rw [henter]
    exact .fails (.exhausted (Nat.le_of_lt_succ hbudget))
  · have henter : enter plan context node.id =
        (.entered { context with steps := context.steps + 1 } node,
          [startedEvent node]) := by
      simp [enter, hbudget, hgraph.node?_eq_some_iff.mpr hnode, startedEvent]
    rw [henter]
    exact .enters hnode (by omega)

theorem goes_dispatch {context : Context} {node : Node} {now : Instant}
    (hgraph : plan.graph.WellFormed refusal?)
    (hnode : node ∈ plan.graph.nodes) :
    Goes plan (.entered context node) (some now)
      (dispatch plan context node now).1
      (dispatch plan context node now).2 := by
  unfold dispatch
  cases hkind : node.kind with
  | start declared => exact goes_leave hgraph hnode .entered (.start hkind)
  | finish => exact .completes hkind
  | agent config => exact .works (.agent hkind)
  | transform config => exact .works (.transform hkind)
  | ifElse condition => exact .works (.choice hkind)
  | loop config =>
      dsimp only
      split
      next => exact goes_leave hgraph hnode .entered (.exit hkind)
      next hlimit => exact .works (.iteration hkind (Nat.lt_of_not_le hlimit))
  | approval config => exact .parks hkind
  | tool config => exact .works (.tool hkind)

theorem goes_finish {context : Context} {node : Node} {work : Work}
    {result : Except Error work.Result}
    (hgraph : plan.graph.WellFormed refusal?)
    (hnode : node ∈ plan.graph.nodes) (hwork : Asks plan context node work) :
    Goes plan (.working context node work) (some result)
      (finish plan context node.id work result).1
      (finish plan context node.id work result).2 := by
  cases hwork with
  | agent hkind =>
      cases result with
      | error error => exact .fails .agent
      | ok output =>
          exact goes_leave hgraph hnode .working
            (.value (by simp [hkind, NodeKind.producesValue]))
  | transform hkind =>
      cases result with
      | error error => exact .fails .transform
      | ok output =>
          exact goes_leave hgraph hnode .working
            (.value (by simp [hkind, NodeKind.producesValue]))
  | choice hkind =>
      cases result with
      | error error => exact .fails .choice
      | ok truth =>
          refine goes_leave hgraph hnode .working (.choice hkind ?_)
          cases truth <;> simp
  | iteration hkind hlimit =>
      match result with
      | .error error => exact .fails .iteration
      | .ok true =>
          exact goes_leave hgraph hnode .working (.body hkind hlimit)
      | .ok false => exact goes_leave hgraph hnode .working (.exit hkind)
  | tool hkind =>
      cases result with
      | error error => exact .fails .tool
      | ok output =>
          by_cases hreport : ToolOutput.isError output = true
          · simp only [finish, hreport, if_true]
            exact .fails (.toolReport hreport)
          · simp only [finish, hreport]
            exact goes_leave hgraph hnode .working
              (.value (by simp [hkind, NodeKind.producesValue]))

/-- Every step from a sound stage is one of the steps that `Goes` lists. -/
theorem goes_step {leg : Leg} (hgraph : plan.graph.WellFormed refusal?)
    (hsound : Sound plan leg) (move : leg.Move) :
    Goes plan leg move (leg.step plan move).1 (leg.step plan move).2 := by
  cases hsound with
  | between hnode =>
      match move with
      | true => exact .fails .cancelledBetween
      | false => exact goes_enter hgraph hnode
  | entered hnode =>
      match move with
      | none => exact .fails .cancelledEntered
      | some now => exact goes_dispatch hgraph hnode
  | working hnode hwork =>
      match move with
      | none => exact .fails .cancelledWorking
      | some result => exact goes_finish hgraph hnode hwork
  | parking hawaits =>
      match move with
      | none => exact .keeps
      | some error => exact .fails .refused
  | parked hawaits => exact .suspends
  | completed output => exact move.elim
  | failed node error => exact move.elim
  | suspended hawaits => exact move.elim

theorem sound_between {context : Context} {id : String}
    (hid : id ∈ plan.graph.nodes.map (·.id)) :
    Sound plan (.between context id) := by
  obtain ⟨node, hnode, rfl⟩ := List.mem_map.mp hid
  exact .between hnode

/-- A step from a sound stage leads to a sound stage. -/
theorem Goes.sound {leg next : Leg} {move : leg.Move} {events : List Event}
    (hgraph : plan.graph.WellFormed refusal?) (hsound : Sound plan leg)
    (hgoes : Goes plan leg move next events) : Sound plan next := by
  cases hgoes with
  | fails _ => exact .failed _ _
  | enters hnode _ => exact .entered hnode
  | works hwork =>
      cases hsound with
      | entered hnode => exact .working hnode hwork
  | leaves _ _ hexit => exact sound_between (hgraph.targets _ hexit.mem)
  | completes _ => exact .completed _
  | parks hkind =>
      cases hsound with
      | entered hnode => exact .parking (.intro hnode hkind)
  | keeps =>
      cases hsound with
      | parking hawaits => exact .parked hawaits
  | suspends =>
      cases hsound with
      | parked hawaits => exact .suspended hawaits

end Leg

end Workflow
