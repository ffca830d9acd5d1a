import Workflow.Config.Basic
import Workflow.Graph.Validity
import Workflow.Inputs
import Workflow.Run.Suspension
import Workflow.Schema.Document
import Workflow.Template
import Workflow.Width

/-!
# Legs of a run

A run goes from node to node until it completes, fails or is suspended; what it does between being
started or resumed and one of these ends is a leg.  A `Leg` is a stage on this way.  It does nothing
by itself that takes time: where a node has to run a script, ask an agent or call a tool, the leg
asks for that as `Work` and goes on when the result is there.

What may happen at a stage is its `Move`, so `step` is total: it gives the next stage and the events
that the run reports on the way there.
-/

namespace Workflow

/-- What a node asks for before it can go on. -/
inductive Work where
  /-- The answer of an agent. -/
  | agent (request : AgentConfig)
  /-- The value of a script. -/
  | transform (script : String) (bindings : Assoc Json) (millis : Nat)
  /-- The truth of a condition, by which a branch is taken. -/
  | choice (condition : String) (bindings : Assoc Json) (millis : Nat)
  /-- The truth of a condition, by which a loop enters its body for the time after `completed`. -/
  | iteration (condition : String) (bindings : Assoc Json) (millis completed : Nat)
  /-- The output of a tool. -/
  | tool (server tool : String) (arguments : Json)
deriving DecidableEq, Repr

/-- What a piece of work results in. -/
def Work.Result : Work → Type
  | agent _ => Json
  | transform .. => Json
  | choice .. => Bool
  | iteration .. => Bool
  | tool .. => ToolOutput

/-- How a leg ends. -/
inductive Outcome where
  | completed (output : Json)
  | failed (node : String) (error : Error)
  | suspended (run : SuspendedRun)
deriving DecidableEq, Repr

/-- What stays the same during a leg. -/
structure Plan where
  limits : EngineConfig
  run : RunId
  graph : Graph
deriving DecidableEq, Repr

/-- A stage of a leg. -/
inductive Leg where
  /-- Between two nodes: the node with an id comes next. -/
  | between (context : Context) (next : String)
  /-- A node has been started. -/
  | entered (context : Context) (node : Node)
  /-- A node waits for its work to be done. -/
  | working (context : Context) (node : Node) (work : Work)
  /-- The run is to be put aside. -/
  | parking (suspended : SuspendedRun)
  /-- The run has been put aside and is to report it. -/
  | parked (suspended : SuspendedRun)
  | ended (outcome : Outcome)
deriving DecidableEq, Repr

namespace Leg

/-- What can happen at a stage: between two nodes and after a start it matters whether the run has
been cancelled; work is done, or fails, or is given up because the run has been cancelled; and a run
can be refused where it is to be put aside. -/
def Move : Leg → Type
  | between .. => Bool
  | entered .. => Option Instant
  | working _ _ work => Option (Except Error work.Result)
  | parking _ => Option Error
  | parked _ => Unit
  | ended _ => Empty

/-- The end of a leg at a failure, and the event that reports it. -/
def fail (node : String) (error : Error) : Leg × List Event :=
  (ended (.failed node error), [⟨node, .error, error.payload⟩])

/-- The edge by which a node is left: its only one, or the one that stands for a branch. -/
def exit? (graph : Graph) (node : String) : Option Branch → Except Error Edge
  | none =>
    match graph.soleEdge? node with
    | some edge => .ok edge
    | none => .error (.invalidGraph "node has no outgoing edge" (some node))
  | some branch =>
    match graph.branchEdge? node branch with
    | some edge => .ok edge
    | none => .error (.invalidGraph s!"node has no {branch.label} edge" (some node))

/-- Report a node's output and leave the node. -/
def leave (plan : Plan) (context : Context) (node : String) (output : Json)
    (branch : Option Branch) : Leg × List Event :=
  match exit? plan.graph node branch with
  | .ok edge => (between (context.traverse edge.id) edge.target, [⟨node, .output, output⟩])
  | .error error => fail node error

/-- Leave a node that produces a value. -/
def produce (plan : Plan) (context : Context) (node : String) (output : Json) : Leg × List Event :=
  leave plan (context.recordOutput node output) node output none

/-- Leave a node that directs the run. -/
def direct (plan : Plan) (context : Context) (node : String) (output : Json)
    (branch : Option Branch) : Leg × List Event :=
  leave plan (context.recordControl node output) node output branch

/-- Leave a branching node. -/
def choose (plan : Plan) (context : Context) (node : String) (truth : Bool) : Leg × List Event :=
  let branch := if truth then Branch.whenTrue else .whenFalse
  direct plan context node (Json.ofMembers [("branch", .text branch.label)]) (some branch)

/-- What a loop reports. -/
def loopOutput (branch : Branch) (iteration : Nat) : Json :=
  Json.ofMembers [("branch", .text branch.label), ("iteration", .nat iteration)]

/-- Enter the body of a loop after so many completed entries. -/
def enterBody (plan : Plan) (context : Context) (node : String) (completed : Nat) :
    Leg × List Event :=
  direct plan (context.setCounter node (completed + 1)) node (loopOutput .body (completed + 1))
    (some .body)

/-- Leave a loop after so many completed entries. -/
def exitLoop (plan : Plan) (context : Context) (node : String) (completed : Nat) :
    Leg × List Event :=
  direct plan (context.clearCounter node) node (loopOutput .exit completed) (some .exit)

/-- How often a loop may enter its body. -/
def loopLimit (limits : EngineConfig) (config : WhileConfig) : Nat :=
  min config.maxIterations limits.loopCeiling

/-- The arguments of a tool node; none at all stand for no arguments. -/
def toolArguments (context : Context) (config : ToolCallConfig) : Json :=
  match Template.resolveJson context config.arguments with
  | .null => .empty
  | arguments => arguments

/-- Put a run aside at an approval node. -/
def suspend (plan : Plan) (context : Context) (node : String) (config : ApprovalConfig)
    (now : Instant) : SuspendedRun :=
  { run := plan.run
    graph := plan.graph
    context
    cursor := node
    prompt := (Template.resolve config.prompt context).text
    suspendedAt := now
    expiresAt := config.timeoutSecs.bind now.deadline?
    onTimeout := config.onTimeout }

/-- Do what a node is there for, as far as that needs no work from outside. -/
def dispatch (plan : Plan) (context : Context) (node : Node) (now : Instant) : Leg × List Event :=
  match node.kind with
  | .start _ => direct plan context node.id (.record context.inputs) none
  | .finish =>
    let output := Json.orNull context.lastOutput
    (ended (.completed output), [⟨node.id, .output, output⟩])
  | .agent config =>
    let instructions := (Template.resolve config.instructions context).text
    (working context node (.agent { config with instructions }), [])
  | .transform config =>
    let millis := config.timeoutMs.getD plan.limits.scriptTimeout
    (working context node (.transform config.script context.bindings millis), [])
  | .ifElse condition =>
    (working context node (.choice condition context.bindings plan.limits.scriptTimeout), [])
  | .loop config =>
    let completed := context.iteration node.id
    if loopLimit plan.limits config ≤ completed then exitLoop plan context node.id completed
    else
      let bindings := Assoc.insert context.bindings "iteration" (.nat (completed + 1))
      (working context node
        (.iteration config.condition bindings plan.limits.scriptTimeout completed), [])
  | .approval config => (parking (suspend plan context node.id config now), [])
  | .tool config =>
    (working context node (.tool config.server config.tool (toolArguments context config)), [])

/-- The failure of a tool node. -/
def toolFailure : Error → Error
  | .cancelled => .cancelled
  | error => .agent .toolFailed error.message none

/-- Go on with a node whose work is done. -/
def finish (plan : Plan) (context : Context) (node : String) :
    (work : Work) → Except Error work.Result → Leg × List Event
  | .agent _, .ok output => produce plan context node output
  | .agent _, .error error => fail node error
  | .transform .., .ok output => produce plan context node output
  | .transform .., .error error => fail node error
  | .choice .., .ok truth => choose plan context node truth
  | .choice .., .error error => fail node error
  | .iteration _ _ _ completed, .ok true => enterBody plan context node completed
  | .iteration _ _ _ completed, .ok false => exitLoop plan context node completed
  | .iteration .., .error error => fail node error
  | .tool server tool _, .ok output =>
    let output : ToolOutput := output
    if output.isError then
      fail node (.agent .toolFailed s!"{server}.{tool} returned an error: {output.content}" none)
    else produce plan context node output.value
  | .tool .., .error error => fail node (toolFailure error)

/-- The greatest number of steps that an error can report. -/
def maxReported : Nat := Width.span 32 - 1

/-- Start a node, unless the budget of steps is used up. -/
def enter (plan : Plan) (context : Context) (next : String) : Leg × List Event :=
  let context := { context with steps := context.steps + 1 }
  if plan.limits.maxSteps < context.steps then
    fail next (.loopSafety next (min context.steps maxReported))
  else
    match plan.graph.node? next with
    | none => fail next (.invalidGraph "edge leads to unknown node" (some next))
    | some node =>
      let payload := Json.ofMembers [("kind", .text node.kind.label)]
      (entered context node, [⟨node.id, .started, payload⟩])

/-- What is told about a suspension. -/
def suspendedPayload (suspended : SuspendedRun) : Json :=
  Json.ofMembers [("prompt", .text suspended.prompt),
    ("expiresAt", Json.orNull (suspended.expiresAt.map Instant.toJson)),
    ("onTimeout", .text suspended.onTimeout.label)]

/-- The stage after something has happened, and what the run reports. -/
def step (plan : Plan) : (leg : Leg) → leg.Move → Leg × List Event
  | between _ next, true => fail next .cancelled
  | between context next, false => enter plan context next
  | entered _ node, none => fail node.id .cancelled
  | entered context node, some now => dispatch plan context node now
  | working _ node _, none => fail node.id .cancelled
  | working context node work, some result => finish plan context node.id work result
  | parking suspended, none => (parked suspended, [])
  | parking suspended, some error => fail suspended.cursor error
  | parked suspended, () =>
    (ended (.suspended suspended), [⟨suspended.cursor, .suspended, suspendedPayload suspended⟩])

/-- The inputs that a run begins with at its start node. -/
def boundInputs (node : Node) (inputs : Assoc Json) : Except Error (Assoc Json) :=
  match node.kind with
  | .start declared => Inputs.bind declared inputs
  | _ => .ok inputs

/-- The first stage of a run at its start node. -/
def first (node : String) : Except Error (Assoc Json) → Leg × List Event
  | .error error => fail node error
  | .ok inputs => (between (.ofInputs inputs) node, [])

/-- Start a run.  Only a graph that may not run at all is refused; bad inputs are a failure of the
run at its start node. -/
def start (plan : Plan) (inputs : Assoc Json) : Except Error (Leg × List Event) :=
  match plan.graph.defect? Schema.refusal? with
  | some defect => .error defect.toError
  | none =>
    match plan.graph.start? with
    | none => .error (.invalidGraph "graph has no start node" none)
    | some node => .ok (first node.id (boundInputs node inputs))

/-- What stays the same during the leg of a run that is resumed. -/
def planOf (limits : EngineConfig) (suspended : SuspendedRun) : Plan :=
  ⟨limits, suspended.run, suspended.graph⟩

/-- Resume a run.  A rejection ends it at its approval node. -/
def resume (limits : EngineConfig) (suspended : SuspendedRun) (signal : ResumeSignal) :
    Except Error (Leg × List Event) :=
  if signal.run ≠ suspended.run then .error (.runNotFound signal.run)
  else
    let node := suspended.cursor
    let (leg, events) := match signal.decision with
      | .reject => fail node (.rejected node signal.note)
      | .approve => direct (planOf limits suspended) suspended.context node signal.payload none
    .ok (leg, ⟨node, .resumed, signal.payload⟩ :: events)

end Leg

end Workflow
