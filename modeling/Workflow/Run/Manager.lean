import Workflow.Run.Summary
import Workflow.Run.Suspension

/-!
# The run manager

A manager knows the runs that are executing, each with a token by which it can be told that it has
been cancelled, and a store with the runs that are suspended.  Each operation is one step: nothing
else happens in between.  Resuming takes two of them, since a run is first taken out of the store
(`claim`) and then entered into the table of executing runs (`adopt`).

A `Task` is a run that executes.  `Manager.advance` lets it do one step; where a run is to be put
aside it is the manager that does so, and when a leg has ended the manager strikes the run off its
table.
-/

namespace Workflow

/-- The number of a token. -/
abbrev Token := Nat

/-- The shared state of a manager. -/
structure Manager (σ : Type) where
  limits : EngineConfig
  store : σ
  /-- The tokens of the runs that are executing. -/
  live : Assoc Token
  /-- How many tokens have been given out. -/
  issued : Nat
  /-- The tokens whose runs have been cancelled. -/
  cancelled : List Token

/-- How far an executing run has come. -/
inductive Stage where
  /-- The run has not started yet. -/
  | submitted (graph : Graph) (inputs : Assoc Json)
  /-- The run has not gone on yet. -/
  | claimed (suspended : SuspendedRun) (signal : ResumeSignal)
  | running (plan : Plan) (leg : Leg)
  | settled (result : Except Error Outcome)

/-- A run that executes. -/
structure Task where
  run : RunId
  token : Token
  stage : Stage

namespace Task

/-- The last word on the leg of a task that has ended. -/
def summary? (task : Task) : Option RunSummary :=
  match task.stage with
  | .settled result => some (.ofResult task.run result)
  | _ => none

/-- What can happen to a task: its work is done, or it looks up because it may have been cancelled;
where it only has to go on, it needs to know the time at most. -/
def Move (task : Task) : Type :=
  match task.stage with
  | .submitted .. => Unit
  | .claimed .. => Unit
  | .running _ (.entered ..) => Instant
  | .running _ (.working _ _ work) => Option (Except Error work.Result)
  | .running .. => Unit
  | .settled _ => Empty

end Task

/-- What became of a request to cancel a run. -/
inductive Cancellation where
  /-- The run is executing and has been told; it reports its own end. -/
  | signalled
  /-- The run was suspended and is suspended no longer; this is its last event. -/
  | discarded (event : Event)
  | notFound
deriving DecidableEq, Repr

/-- Whether there was a run to cancel. -/
def Cancellation.found : Cancellation → Bool
  | notFound => false
  | _ => true

namespace Manager

variable {σ : Type}

/-- A manager without any runs of its own. -/
def create (limits : EngineConfig) (store : σ) : Manager σ :=
  ⟨limits, store, [], 0, []⟩

/-- Whether a run is executing. -/
def isLive (manager : Manager σ) (run : RunId) : Bool :=
  Assoc.has manager.live run

/-- Whether the runs of a token have been cancelled. -/
def isCancelled (manager : Manager σ) (token : Token) : Bool :=
  manager.cancelled.contains token

/-- Enter a run into the table under a new token. -/
def register (manager : Manager σ) (run : RunId) : Token × Manager σ :=
  (manager.issued,
    { manager with
      live := Assoc.insert manager.live run manager.issued
      issued := manager.issued + 1 })

/-- Strike a run off the table. -/
def release (manager : Manager σ) (run : RunId) : Manager σ :=
  { manager with live := Assoc.erase manager.live run }

/-- Take on a new run under an id of its own.  Only a graph that may not run is refused. -/
def submit (manager : Manager σ) (run : RunId) (graph : Graph) (inputs : Assoc Json) :
    Except Error (Task × Manager σ) :=
  match graph.defect? Schema.refusal? with
  | some defect => .error defect.toError
  | none =>
    let (token, manager) := manager.register run
    .ok (⟨run, token, .submitted graph inputs⟩, manager)

section

variable [SuspensionStore σ]

/-- Take a suspended run out of the store. -/
def claim (manager : Manager σ) (run : RunId) : Except Error SuspendedRun × Manager σ :=
  let (taken, store) := SuspensionStore.take manager.store run
  (taken, { manager with store })

/-- Take on a run that has been taken out of the store. -/
def adopt (manager : Manager σ) (suspended : SuspendedRun) (signal : ResumeSignal) :
    Task × Manager σ :=
  let (token, manager) := manager.register suspended.run
  (⟨suspended.run, token, .claimed suspended signal⟩, manager)

/-- Go on with a suspended run. -/
def resume (manager : Manager σ) (signal : ResumeSignal) : Except Error Task × Manager σ :=
  match manager.claim signal.run with
  | (.error error, manager) => (.error error, manager)
  | (.ok suspended, manager) =>
    let (task, manager) := manager.adopt suspended signal
    (.ok task, manager)

/-- Cancel a run, whether it is executing or suspended. -/
def cancel (manager : Manager σ) (run : RunId) : Except Error Cancellation × Manager σ :=
  match Assoc.get? manager.live run with
  | some token => (.ok .signalled, { manager with cancelled := token :: manager.cancelled })
  | none =>
    match manager.claim run with
    | (.ok suspended, manager) =>
      (.ok (.discarded ⟨suspended.cursor, .error, Error.cancelled.payload⟩), manager)
    | (.error (.runNotFound _), manager) => (.ok .notFound, manager)
    | (.error error, manager) => (.error error, manager)

/-- Keep a run that is to be put aside.  A run that has been cancelled, or that the store does not
keep, is refused. -/
def keep (manager : Manager σ) (suspended : SuspendedRun) : Option Error × Manager σ :=
  if (Assoc.get? manager.live suspended.run).any manager.isCancelled then
    (some .cancelled, manager)
  else
    match SuspensionStore.save manager.store suspended with
    | .error error => (some error, manager)
    | .ok store => (none, { manager with store })

/-- Put a run aside: keep it, and strike it off the table unless it is refused. -/
def park (manager : Manager σ) (suspended : SuspendedRun) : Option Error × Manager σ :=
  match manager.keep suspended with
  | (some error, manager) => (some error, manager)
  | (none, manager) => (none, manager.release suspended.run)

/-- All suspended runs. -/
def suspendedRuns (manager : Manager σ) : Except Error (List SuspendedRun) :=
  SuspensionStore.list manager.store

/-- What is decided about a run when nobody has answered in time. -/
def timeoutSignal (suspended : SuspendedRun) : ResumeSignal :=
  ⟨suspended.run, suspended.onTimeout, some "approval timed out"⟩

/-- Resume runs one after the other by their decisions for the end of the time.  Runs that are
suspended no longer are skipped, any other failure ends the sweep. -/
def resumeAll (manager : Manager σ) (tasks : List Task) :
    List SuspendedRun → Option Error × List Task × Manager σ
  | [] => (none, tasks, manager)
  | suspended :: rest =>
    match manager.resume (timeoutSignal suspended) with
    | (.ok task, manager) => manager.resumeAll (tasks ++ [task]) rest
    | (.error (.runNotFound _), manager) => manager.resumeAll tasks rest
    | (.error error, manager) => (some error, tasks, manager)

/-- Resume all runs whose time for an answer is over. -/
def sweep (manager : Manager σ) (now : Instant) : Option Error × List Task × Manager σ :=
  match SuspensionStore.expired manager.store now with
  | .error error => (some error, [], manager)
  | .ok overdue => manager.resumeAll [] overdue

/-- Note how a leg ended.  A run that was put aside left the table then, and its id may belong to a
resumed leg by now. -/
def settle (manager : Manager σ) (task : Task) (result : Except Error Outcome) :
    Manager σ × Task × List Event :=
  let manager := match result with
    | .ok (.suspended _) => manager
    | _ => manager.release task.run
  (manager, { task with stage := .settled result }, [])

/-- The task after the start of its leg. -/
def launch (manager : Manager σ) (task : Task) (plan : Plan)
    (started : Except Error (Leg × List Event)) : Manager σ × Task × List Event :=
  match started with
  | .ok (leg, events) => (manager, { task with stage := .running plan leg }, events)
  | .error error => manager.settle task (.error error)

/-- One step of a leg of a task, told what happened. -/
def carryOn (manager : Manager σ) (task : Task) (plan : Plan) (leg : Leg) (move : leg.Move) :
    Manager σ × Task × List Event :=
  let (leg, events) := leg.step plan move
  (manager, { task with stage := .running plan leg }, events)

/-- One step of a task: what the manager and the task are afterwards, and what the run reports. -/
def advance (manager : Manager σ) : (task : Task) → task.Move → Manager σ × Task × List Event
  | ⟨run, token, .submitted graph inputs⟩, () =>
    let plan : Plan := ⟨manager.limits, run, graph⟩
    manager.launch ⟨run, token, .submitted graph inputs⟩ plan (Leg.start plan inputs)
  | ⟨run, token, .claimed suspended signal⟩, () =>
    manager.launch ⟨run, token, .claimed suspended signal⟩
      (Leg.planOf manager.limits suspended) (Leg.resume manager.limits suspended signal)
  | ⟨run, token, .running plan (.between context next)⟩, () =>
    manager.carryOn ⟨run, token, .running plan (.between context next)⟩ plan
      (.between context next) (manager.isCancelled token)
  | ⟨run, token, .running plan (.entered context node)⟩, now =>
    manager.carryOn ⟨run, token, .running plan (.entered context node)⟩ plan
      (.entered context node) (if manager.isCancelled token then none else some now)
  | ⟨run, token, .running plan (.working context node work)⟩, result =>
    let task : Task := ⟨run, token, .running plan (.working context node work)⟩
    if manager.isCancelled token then
      manager.carryOn task plan (.working context node work) none
    else
      match result with
      | some result => manager.carryOn task plan (.working context node work) (some result)
      | none => (manager, task, [])
  | ⟨run, token, .running plan (.parking suspended)⟩, () =>
    let (refusal, manager) := manager.park suspended
    manager.carryOn ⟨run, token, .running plan (.parking suspended)⟩ plan
      (.parking suspended) refusal
  | ⟨run, token, .running plan (.parked suspended)⟩, () =>
    manager.carryOn ⟨run, token, .running plan (.parked suspended)⟩ plan (.parked suspended) ()
  | ⟨run, token, .running plan (.ended outcome)⟩, () =>
    manager.settle ⟨run, token, .running plan (.ended outcome)⟩ (.ok outcome)

end

end Manager

end Workflow
