import Workflow.Proofs.Manager.Store
import Workflow.Proofs.Run.Shape
import Workflow.Run.Manager

/-!
# A manager at work

Many clients use one manager at the same time, and every leg that it has
registered runs on its own.  An `Office` is the whole of this: the manager, the
runs that a client has taken out of the store and not registered yet, and all
legs so far.  What the lock on the table of live runs protects is one step, and
so is each use of the store; the two halves of a resumption are two steps, and
where a leg is put aside the lock is held from one step to the next.

A leg reads its token at one moment and acts on what it has read at a later
one, so that a cancellation may fall in between.  A sweep is a client that
resumes what the store has listed for it before.

Nothing is said about how long a step takes or who comes next: an office is
reachable if some order of steps leads to it.
-/

namespace Workflow

/-- Put aside in a graph without a defect, at a node with one way on. -/
structure SuspendedRun.Fit (suspended : SuspendedRun) : Prop where
  wellFormed : suspended.graph.WellFormed Schema.refusal?
  exits : ∃ edge, suspended.graph.Exit suspended.cursor none edge

theorem SuspendedRun.Restored.fit {drops : Prop}
    {suspended restored : SuspendedRun}
    (hrestored : suspended.Restored drops restored) (hfit : suspended.Fit) :
    restored.Fit := by
  refine ⟨?_, ?_⟩
  · rw [hrestored.graph_eq]
    exact hfit.wellFormed
  · rw [hrestored.graph_eq, hrestored.cursor_eq]
    exact hfit.exits

namespace Leg

/-! ## Looking at the token -/

/-- The moves of a leg that has found its token cancelled. -/
inductive Yields : (leg : Leg) → leg.Move → Prop
  | between {context : Context} {next : String} :
      Yields (.between context next) true
  | entered {context : Context} {node : Node} :
      Yields (.entered context node) none
  | working {context : Context} {node : Node} {work : Work} :
      Yields (.working context node work) none

/-- The moves of a leg that has not found its token cancelled. -/
inductive Proceeds : (leg : Leg) → leg.Move → Prop
  | between {context : Context} {next : String} :
      Proceeds (.between context next) false
  | entered {context : Context} {node : Node} (now : Instant) :
      Proceeds (.entered context node) (some now)
  | working {context : Context} {node : Node} {work : Work}
      (result : Except Error work.Result) :
      Proceeds (.working context node work) (some result)

/-- Whether a leg looks at its token before it goes on. -/
def watches : Leg → Bool
  | .between .. | .entered .. | .working .. => true
  | _ => false

/-- The node that a move sets to work. -/
def dispatched : (leg : Leg) → leg.Move → List String
  | .entered _ node, some _ => [node.id]
  | _, _ => []

/-- Whether a leg waits for work. -/
def isWorking : Leg → Bool
  | .working .. => true
  | _ => false

end Leg

/-! ## Legs under a manager -/

/-- What a leg takes along from one of its steps to the next. -/
inductive Grasp where
  | nothing
  /-- It has found its token not cancelled, and is to act on that. -/
  | clear
  /-- It holds the lock and has saved its run. -/
  | lock
deriving DecidableEq

/-- A leg that a manager has registered, with all that it has reported. -/
structure Worker where
  task : Task
  grasp : Grasp
  graph : Graph
  beginning : Beginning
  told : List Event
  /-- The nodes that it has set to work. -/
  dispatched : List String
  /-- How many steps it has made. -/
  turns : Nat

namespace Worker

/-- A leg that has just been registered. -/
def begin (task : Task) (graph : Graph) (beginning : Beginning) : Worker :=
  ⟨task, .nothing, graph, beginning, [], [], 0⟩

/-- The leg after a step. -/
def after (worker : Worker) (stage : Stage) (grasp : Grasp)
    (events : List Event) : Worker :=
  { worker with
    task := { worker.task with stage }
    grasp
    told := worker.told ++ events
    turns := worker.turns + 1 }

/-- The leg after a step that is a move of the run. -/
def goesOn (worker : Worker) (plan : Plan) (leg : Leg) (move : leg.Move)
    (grasp : Grasp) : Worker :=
  { worker.after (.running plan (leg.step plan move).1) grasp
      (leg.step plan move).2 with
    dispatched := worker.dispatched ++ leg.dispatched move }

section after

variable {worker : Worker} {plan : Plan} {leg : Leg} {move : leg.Move}
variable {stage : Stage} {grasp : Grasp} {events : List Event}

@[simp] theorem after_stage :
    (worker.after stage grasp events).task.stage = stage := rfl

@[simp] theorem after_run :
    (worker.after stage grasp events).task.run = worker.task.run := rfl

@[simp] theorem after_grasp :
    (worker.after stage grasp events).grasp = grasp := rfl

@[simp] theorem after_told :
    (worker.after stage grasp events).told = worker.told ++ events := rfl

@[simp] theorem after_graph :
    (worker.after stage grasp events).graph = worker.graph := rfl

@[simp] theorem after_beginning :
    (worker.after stage grasp events).beginning = worker.beginning := rfl

@[simp] theorem after_dispatched :
    (worker.after stage grasp events).dispatched = worker.dispatched := rfl

@[simp] theorem goesOn_stage :
    (worker.goesOn plan leg move grasp).task.stage =
      .running plan (leg.step plan move).1 := rfl

@[simp] theorem goesOn_grasp :
    (worker.goesOn plan leg move grasp).grasp = grasp := rfl

end after

end Worker

/-- How a leg is to begin that has been registered only. -/
def Task.opening? (limits : EngineConfig) (task : Task) :
    Option (Plan × Except Error (Leg × List Event)) :=
  match task.stage with
  | .submitted graph inputs =>
    some (⟨limits, task.run, graph⟩, Leg.start ⟨limits, task.run, graph⟩ inputs)
  | .claimed suspended signal =>
    some (Leg.planOf limits suspended, Leg.resume limits suspended signal)
  | _ => none

/-- What an office puts down about its store. -/
inductive Entry where
  | saved (run : RunId)
  | taken (run : RunId)
deriving DecidableEq

/-- The run that is put down. -/
def Entry.run : Entry → RunId
  | saved run => run
  | taken run => run

/-- The steps of a leg: the manager and the leg afterwards, and what is put
down.  `free` tells that nobody holds the lock.  A store is taken to be faithful
to the runs that it keeps. -/
inductive Turn {σ : Type} [SuspensionStore σ] [LawfulStore σ] (free : Prop)
    (manager : Manager σ) (worker : Worker) :
    Manager σ → Worker → List Entry → Prop
  | launch {plan : Plan} {leg : Leg} {events : List Event}
      (hopening : worker.task.opening? manager.limits =
        some (plan, .ok (leg, events))) :
      Turn free manager worker manager
        (worker.after (.running plan leg) .nothing events) []
  | refused {plan : Plan} {error : Error} (hfree : free)
      (hopening : worker.task.opening? manager.limits =
        some (plan, .error error)) :
      Turn free manager worker (manager.settle worker.task (.error error)).1
        (worker.after (.settled (.error error)) .nothing []) []
  | look {plan : Plan} {leg : Leg}
      (hstage : worker.task.stage = .running plan leg)
      (hgrasp : worker.grasp = .nothing) (hwatches : leg.watches = true)
      (htoken : manager.isCancelled worker.task.token = false) :
      Turn free manager worker manager
        (worker.after (.running plan leg) .clear []) []
  | yield {plan : Plan} {leg : Leg} {move : leg.Move}
      (hstage : worker.task.stage = .running plan leg)
      (hgrasp : worker.grasp = .nothing) (hmove : leg.Yields move)
      (htoken : manager.isCancelled worker.task.token = true) :
      Turn free manager worker manager
        (worker.goesOn plan leg move .nothing) []
  -- A node that asks for work has its result without another look.
  | proceed {plan : Plan} {leg : Leg} {move : leg.Move}
      (hstage : worker.task.stage = .running plan leg)
      (hgrasp : worker.grasp = .clear) (hmove : leg.Proceeds move) :
      Turn free manager worker manager
        (worker.goesOn plan leg move
          (if (leg.step plan move).1.isWorking then .clear else .nothing)) []
  | wait {plan : Plan} {leg : Leg}
      (hstage : worker.task.stage = .running plan leg)
      (hgrasp : worker.grasp = .clear) (hworking : leg.isWorking = true) :
      Turn free manager worker manager
        (worker.after (.running plan leg) .nothing []) []
  | keep {plan : Plan} {suspended : SuspendedRun} {next : Manager σ}
      (hfree : free)
      (hstage : worker.task.stage = .running plan (.parking suspended))
      (hkeep : manager.keep suspended = (none, next))
      (hfaithful : LawfulStore.Faithful manager.store suspended) :
      Turn free manager worker next
        (worker.after (.running plan (.parking suspended)) .lock [])
        [.saved suspended.run]
  | refuse {plan : Plan} {suspended : SuspendedRun} {error : Error}
      (hfree : free)
      (hstage : worker.task.stage = .running plan (.parking suspended))
      (hkeep : (manager.keep suspended).1 = some error) :
      Turn free manager worker (manager.keep suspended).2
        (worker.goesOn plan (.parking suspended) (some error) .nothing) []
  | release {plan : Plan} {suspended : SuspendedRun}
      (hgrasp : worker.grasp = .lock)
      (hstage : worker.task.stage = .running plan (.parking suspended)) :
      Turn free manager worker (manager.release suspended.run)
        (worker.goesOn plan (.parking suspended) none .nothing) []
  | report {plan : Plan} {suspended : SuspendedRun}
      (hstage : worker.task.stage = .running plan (.parked suspended)) :
      Turn free manager worker manager
        (worker.goesOn plan (.parked suspended) () .nothing) []
  -- A run that was put aside left the table then.
  | settle {plan : Plan} {outcome : Outcome}
      (hfree : free ∨ ∃ suspended, outcome = .suspended suspended)
      (hstage : worker.task.stage = .running plan (.ended outcome)) :
      Turn free manager worker (manager.settle worker.task (.ok outcome)).1
        (worker.after (.settled (.ok outcome)) .nothing []) []

/-! ## Lists of legs -/

theorem getElem?_concat_iff {α : Type} {items : List α} {last item : α}
    {n : Nat} : (items ++ [last])[n]? = some item ↔
      items[n]? = some item ∨ n = items.length ∧ last = item := by
  rw [List.getElem?_append]
  split
  next hlt => simp [Nat.ne_of_lt hlt]
  next hle =>
    have hnone : items[n]? = none := List.getElem?_eq_none (by omega)
    rw [hnone, List.getElem?_singleton]
    by_cases hn : n = items.length
    · simp [hn]
    · simp [hn, show ¬ n - items.length = 0 by omega]

theorem getElem?_set_iff {α : Type} {items : List α} {item new found : α}
    {n m : Nat} (hn : items[n]? = some item) :
    (items.set n new)[m]? = some found ↔
      m = n ∧ new = found ∨ m ≠ n ∧ items[m]? = some found := by
  obtain ⟨hlt, -⟩ := List.getElem?_eq_some_iff.mp hn
  rw [List.getElem?_set]
  by_cases hm : n = m
  · simp [hm, hm ▸ hlt]
  · simp [hm, Ne.symm hm]

theorem getElem?_set_self_of_getElem? {α : Type} {items : List α}
    {item new : α} {n : Nat} (hn : items[n]? = some item) :
    (items.set n new)[n]? = some new :=
  (getElem?_set_iff hn).mpr (.inl ⟨rfl, rfl⟩)

theorem countP_set_of_getElem? {α : Type} {items : List α} {item : α} {n : Nat}
    (hn : items[n]? = some item) (new : α) (p : α → Bool) :
    (items.set n new).countP p + (p item).toNat =
      items.countP p + (p new).toNat := by
  obtain ⟨hlt, rfl⟩ := List.getElem?_eq_some_iff.mp hn
  have hpos : p items[n] = true → 0 < items.countP p := fun h =>
    List.countP_pos_iff.mpr ⟨_, List.getElem_mem hlt, h⟩
  rw [List.countP_set hlt]
  cases hitem : p items[n] <;> cases p new <;> simp_all

/-! ## Offices -/

variable {σ : Type} [SuspensionStore σ]

/-- A manager and all that goes on around it. -/
structure Office (σ : Type) where
  manager : Manager σ
  /-- What has been taken out of the store to be resumed. -/
  claims : List (SuspendedRun × ResumeSignal)
  /-- All legs so far, each in the place that its token tells. -/
  workers : List Worker
  /-- The ids that are not to be given out any more. -/
  used : List RunId
  /-- What has been put into the store and taken out of it, the latest first. -/
  ledger : List Entry

namespace Office

/-- An office that has just been opened. -/
def opened (limits : EngineConfig) (store : σ) (used : List RunId) :
    Office σ :=
  ⟨.create limits store, [], [], used, []⟩

/-- Nobody holds the lock. -/
def Free (office : Office σ) : Prop :=
  ∀ worker ∈ office.workers, worker.grasp ≠ .lock

/-- A run is cancelled. -/
def cancel (office : Office σ) (run : RunId) : Office σ :=
  { office with
    manager := (office.manager.cancel run).2
    ledger := match (office.manager.cancel run).1 with
      | .ok (.discarded _) => .taken run :: office.ledger
      | _ => office.ledger }

variable [LawfulStore σ]

/-- What can happen next in an office. -/
inductive Step (office : Office σ) : Office σ → Prop
  | submit {run : RunId} {graph : Graph} {inputs : Assoc Json} {task : Task}
      {manager : Manager σ} (hfree : office.Free) (hfresh : run ∉ office.used)
      (hsubmit : office.manager.submit run graph inputs =
        .ok (task, manager)) :
      Step office { office with
        manager
        workers := office.workers ++ [.begin task graph .start]
        used := run :: office.used }
  | claim {signal : ResumeSignal} {suspended : SuspendedRun}
      (hclaim : (office.manager.claim signal.run).1 = .ok suspended) :
      Step office { office with
        manager := (office.manager.claim signal.run).2
        claims := (suspended, signal) :: office.claims
        ledger := .taken signal.run :: office.ledger }
  | miss {run : RunId} {error : Error}
      (hclaim : (office.manager.claim run).1 = .error error) :
      Step office { office with manager := (office.manager.claim run).2 }
  | adopt {suspended : SuspendedRun} {signal : ResumeSignal}
      (hfree : office.Free) (hclaim : (suspended, signal) ∈ office.claims) :
      Step office { office with
        manager := (office.manager.adopt suspended signal).2
        claims := office.claims.erase (suspended, signal)
        workers := office.workers ++
          [.begin (office.manager.adopt suspended signal).1
            suspended.graph (.resume suspended signal)] }
  | cancel (run : RunId) (hfree : office.Free) : Step office (office.cancel run)
  | turn {token : Token} {worker next : Worker} {manager : Manager σ}
      {entries : List Entry} (hworker : office.workers[token]? = some worker)
      (hturn : Turn office.Free office.manager worker manager next entries) :
      Step office { office with
        manager
        workers := office.workers.set token next
        ledger := entries ++ office.ledger }

/-- One office comes from another by any number of steps. -/
inductive Steps (office : Office σ) : Office σ → Prop
  | refl : Steps office office
  | step {later last : Office σ} (hsteps : Steps office later)
      (hstep : Step later last) : Steps office last

variable {office later : Office σ}

theorem Steps.trans {last : Office σ} (hsteps : Steps office later)
    (hmore : Steps later last) : Steps office last := by
  induction hmore with
  | refl => exact hsteps
  | step _ hstep ih => exact ih.step hstep

/-- A step lets a leg be, or is a step of it. -/
theorem Step.worker {token : Token} {worker : Worker}
    (hstep : Step office later)
    (hworker : office.workers[token]? = some worker) :
    later.workers[token]? = some worker ∨
      ∃ manager next entries,
        Turn office.Free office.manager worker manager next entries ∧
        later = { office with
          manager
          workers := office.workers.set token next
          ledger := entries ++ office.ledger } := by
  have hconcat : ∀ last, (office.workers ++ [last])[token]? = some worker :=
    fun last => getElem?_concat_iff.mpr (.inl hworker)
  cases hstep with
  | submit _ _ _ => exact .inl (hconcat _)
  | claim _ => exact .inl hworker
  | miss _ => exact .inl hworker
  | adopt _ _ => exact .inl (hconcat _)
  | cancel run _ => exact .inl hworker
  | @turn moved other next manager entries hother hturn =>
      by_cases hmoved : token = moved
      · subst hmoved
        obtain rfl := Option.some.inj (hother.symm.trans hworker)
        exact .inr ⟨manager, next, entries, hturn, rfl⟩
      · exact .inl ((getElem?_set_iff hother).mpr (.inr ⟨hmoved, hworker⟩))

/-- The offices of managers whose store is used by nobody else.  What the store
holds when an office is opened was put aside by a manager before, and its ids
are not given out again. -/
inductive Reachable : Office σ → Prop
  | opened {limits : EngineConfig} {store : σ} {used : List RunId}
      (hused : ∀ run, LawfulStore.keeps store run = true → run ∈ used)
      (hfit : ∀ run offered, LawfulStore.Offers store run offered →
        offered.run = run ∧ offered.Fit) :
      Reachable (.opened limits store used)
  | step {office later : Office σ} (hreach : Reachable office)
      (hstep : Step office later) : Reachable later

theorem Reachable.steps (hreach : Reachable office)
    (hsteps : Steps office later) : Reachable later := by
  induction hsteps with
  | refl => exact hreach
  | step _ hstep ih => exact ih.step hstep

end Office

end Workflow
