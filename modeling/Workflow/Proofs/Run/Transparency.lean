import Workflow.Proofs.Run.Budget

/-!
# Suspension is transparent

A run that waits for an approval is put aside with its graph and its state, and
a later leg goes on with it.  `Replies.reference` is an interpreter without
this: it treats an approval node as a node that directs the run, reports the
decision as its output and goes on.

Both interpreters are given the same results of work and the same approvals.
The engine, whose legs follow one another, then reports what the reference
reports but for the events about suspensions, and comes to the same end in the
same state.  The simulation turns on `Replies.engine_play_approval`: where the
reference does one step at an approval node, the engine does four, and the
state and the graph that it has handed over are those it goes on with.

`Replies.engine_run_steady` says that what the engine plays is a run in the
sense of `History.Steady`.
-/

namespace Workflow

/-! ## Interpreters -/

/-- Where a run stands, whichever leg it is in. -/
structure Course where
  plan : Plan
  /-- How many approvals the run has been given. -/
  approvals : ℕ
  leg : Leg

/-- How many moves are left to the leg of a course at most. -/
def Course.remaining (course : Course) : ℕ :=
  Leg.remaining course.plan course.leg

/-- What becomes of a run: what it reports, the last state that it is in, and
the stage at which it stops. -/
structure Report where
  events : List Event
  context : Option Context
  leg : Leg

/-- The report of a run that was at another stage before. -/
def Report.after (report : Report) (leg : Leg) (events : List Event) : Report :=
  ⟨events ++ report.events, report.context.or leg.context?, report.leg⟩

/-- A way to go on with runs that does not go on for ever. -/
structure Interpreter where
  next : Course → Option (Course × List Event)
  remaining_lt : ∀ {course after : Course} {events : List Event},
    next course = some (after, events) → after.remaining < course.remaining

namespace Interpreter

variable {interpreter : Interpreter} {course after : Course}
variable {events : List Event}

/-- Go on with a run until it stops. -/
def play (interpreter : Interpreter) (course : Course) : Report :=
  match _hnext : interpreter.next course with
  | none => ⟨[], course.leg.context?, course.leg⟩
  | some (after, events) => (interpreter.play after).after course.leg events
termination_by course.remaining
decreasing_by exact interpreter.remaining_lt _hnext

theorem play_of_none (hnext : interpreter.next course = none) :
    interpreter.play course = ⟨[], course.leg.context?, course.leg⟩ := by
  rw [play]
  split
  next => rfl
  next heq => simp [hnext] at heq

theorem play_of_some (hnext : interpreter.next course = some (after, events)) :
    interpreter.play course =
      (interpreter.play after).after course.leg events := by
  rw [play]
  split
  next heq => simp [hnext] at heq
  next heq =>
    obtain ⟨rfl, rfl⟩ := Prod.mk.inj (Option.some.inj (hnext.symm.trans heq))
    rfl

/-- What holds where a run stops, and of every stage if it holds of the next
one, holds everywhere. -/
theorem induct (interpreter : Interpreter) {motive : Course → Prop}
    (stops : ∀ {course}, interpreter.next course = none → motive course)
    (goes : ∀ {course after events},
      interpreter.next course = some (after, events) → motive after →
      motive course)
    (course : Course) : motive course := by
  induction hmeasure : course.remaining using Nat.strong_induction_on
    generalizing course with
  | _ measure ih =>
      subst hmeasure
      cases hnext : interpreter.next course with
      | none => exact stops hnext
      | some step =>
          exact goes hnext (ih _ (interpreter.remaining_lt hnext) step.1 rfl)

/-- Start a run and go on with it until it stops. -/
def run (interpreter : Interpreter) (plan : Plan) (inputs : Assoc Json) :
    Except Error Report :=
  (Leg.start plan inputs).map fun (leg, told) =>
    (interpreter.play ⟨plan, 0, leg⟩).after leg told

end Interpreter

/-! ## The engine and the reference -/

/-- What a run that is not cancelled is told: the results of work and the time,
both by the number of nodes that have been dispatched, and the notes of the
approvals in their order. -/
structure Replies where
  result : ℕ → (work : Work) → Except Error work.Result
  now : ℕ → Instant
  note : ℕ → Option String

/-- What an approval puts out. -/
def approval (note : Option String) : Json :=
  Json.ofMembers [("decision", .text "approve"),
    ("note", Json.orNull (note.map .text))]

/-- A signal that approves goes on at the approval node, whatever the limits of
the new leg are. -/
theorem Leg.resume_approve (limits : EngineConfig) (suspended : SuspendedRun)
    (note : Option String) :
    resume limits suspended ⟨suspended.run, .approve, note⟩ =
      .ok ((direct (planOf limits suspended) suspended.context suspended.cursor
          (approval note) none).1,
        ⟨suspended.cursor, .resumed, approval note⟩ ::
          (direct (planOf limits suspended) suspended.context suspended.cursor
            (approval note) none).2) := by
  simp only [resume, ne_eq, not_true_eq_false, if_false]
  rfl

namespace Replies

variable {replies : Replies}

/-- What happens at a stage of a leg. -/
def move? (replies : Replies) : (leg : Leg) → Option leg.Move
  | .between _ _ => some false
  | .entered context _ => some (some (replies.now context.steps))
  | .working context _ work => some (some (replies.result context.steps work))
  | .parking _ => some none
  | .parked _ => some ()
  | .ended _ => none

/-- Go on with a leg, and with the next one after a suspension. -/
def proceed (replies : Replies) (course : Course) :
    Option (Course × List Event) :=
  match replies.move? course.leg with
  | some move =>
    let (leg, events) := course.leg.step course.plan move
    some (⟨course.plan, course.approvals, leg⟩, events)
  | none =>
    match course.leg with
    | .ended (.suspended suspended) =>
      let signal : ResumeSignal :=
        ⟨suspended.run, .approve, replies.note course.approvals⟩
      match Leg.resume course.plan.limits suspended signal with
      | .ok (leg, events) =>
        some (⟨Leg.planOf course.plan.limits suspended, course.approvals + 1,
          leg⟩, events)
      | .error _ => none
    | _ => none

/-- Go on without ever suspending the run. -/
def proceedDirectly (replies : Replies) (course : Course) :
    Option (Course × List Event) :=
  match course.leg with
  | .entered context node =>
    match node.kind with
    | .approval _ =>
      let (leg, events) := Leg.direct course.plan context node.id
        (approval (replies.note course.approvals)) none
      some (⟨course.plan, course.approvals + 1, leg⟩, events)
    | _ => replies.proceed course
  | _ => replies.proceed course

theorem proceed_suspended {plan : Plan} {approvals : ℕ}
    {suspended : SuspendedRun} :
    replies.proceed ⟨plan, approvals, .ended (.suspended suspended)⟩ =
      some (⟨Leg.planOf plan.limits suspended, approvals + 1,
        (Leg.direct (Leg.planOf plan.limits suspended) suspended.context
          suspended.cursor (approval (replies.note approvals)) none).1⟩,
        ⟨suspended.cursor, .resumed, approval (replies.note approvals)⟩ ::
          (Leg.direct (Leg.planOf plan.limits suspended) suspended.context
            suspended.cursor (approval (replies.note approvals)) none).2) := by
  simp [proceed, move?, Leg.resume_approve]

/-- The engine makes a step of the leg, or begins the next one. -/
theorem proceed_inv {course after : Course} {events : List Event}
    (hnext : replies.proceed course = some (after, events)) :
    (∃ move, replies.move? course.leg = some move ∧
      course.leg.step course.plan move = (after.leg, events) ∧
      after.plan = course.plan) ∨
    ∃ suspended signal, course.leg = .ended (.suspended suspended) ∧
      Leg.resume course.plan.limits suspended signal =
        .ok (after.leg, events) ∧
      after.plan = Leg.planOf course.plan.limits suspended := by
  obtain ⟨plan, approvals, leg⟩ := course
  cases hmove : replies.move? leg with
  | some move =>
      simp only [proceed, hmove, Option.some.injEq, Prod.mk.injEq] at hnext
      obtain ⟨rfl, rfl⟩ := hnext
      exact .inl ⟨move, rfl, rfl, rfl⟩
  | none =>
      cases leg with
      | ended outcome =>
          cases outcome with
          | suspended suspended =>
              rw [proceed_suspended] at hnext
              obtain ⟨rfl, rfl⟩ := Prod.mk.inj (Option.some.inj hnext)
              exact .inr ⟨suspended, _, rfl, Leg.resume_approve .., rfl⟩
          | _ => simp [proceed, move?] at hnext
      | _ => simp [move?] at hmove

/-- The engine stops only where a run completes or fails. -/
theorem proceed_eq_none {course : Course}
    (hnext : replies.proceed course = none) :
    ∃ outcome, course.leg = .ended outcome ∧
      ∀ suspended, outcome ≠ .suspended suspended := by
  obtain ⟨plan, approvals, leg⟩ := course
  cases leg with
  | ended outcome =>
      refine ⟨outcome, rfl, ?_⟩
      rintro suspended rfl
      simp [proceed_suspended] at hnext
  | _ => simp [proceed, move?] at hnext

/-- The engine. -/
def engine (replies : Replies) : Interpreter where
  next := replies.proceed
  remaining_lt := by
    intro course after events hnext
    obtain ⟨move, -, hstep, hplan⟩ | ⟨suspended, -, hleg, -, -⟩ :=
      proceed_inv hnext
    · have hlower := Leg.remaining_step_lt course.plan course.leg move
      rw [hstep] at hlower
      rwa [Course.remaining, hplan]
    · obtain ⟨plan, approvals, leg⟩ := course
      obtain rfl : leg = .ended (.suspended suspended) := hleg
      rw [proceed_suspended] at hnext
      obtain ⟨rfl, -⟩ := Prod.mk.inj (Option.some.inj hnext)
      exact (Leg.remaining_leave_le rfl ..).trans_lt (Nat.lt_succ_self _)

/-- The interpreter that never suspends a run. -/
def reference (replies : Replies) : Interpreter where
  next := replies.proceedDirectly
  remaining_lt := by
    intro course after events hnext
    unfold proceedDirectly at hnext
    split at hnext
    next context node hleg =>
      split at hnext
      next =>
        obtain ⟨rfl, -⟩ := Prod.mk.inj (Option.some.inj hnext)
        have hmore : 5 * Leg.room course.plan context + 1 <
            course.remaining := by
          simp [Course.remaining, hleg, Leg.remaining]
        exact (Leg.remaining_leave_le rfl ..).trans_lt hmore
      next => exact replies.engine.remaining_lt hnext
    next => exact replies.engine.remaining_lt hnext

end Replies

/-! ## Stages without suspensions -/

/-- Whether an event is about something else than a suspension. -/
def EventKind.isPlain : EventKind → Bool
  | .suspended | .resumed => false
  | _ => true

/-- The events that are about something else than suspensions. -/
def plainEvents (events : List Event) : List Event :=
  events.filter fun event => event.kind.isPlain

@[simp] theorem plainEvents_append (before events : List Event) :
    plainEvents (before ++ events) =
      plainEvents before ++ plainEvents events :=
  List.filter_append ..

@[simp] theorem plainEvents_suspended (node : String) (payload : Json)
    (events : List Event) :
    plainEvents (⟨node, .suspended, payload⟩ :: events) = plainEvents events :=
  rfl

@[simp] theorem plainEvents_resumed (node : String) (payload : Json)
    (events : List Event) :
    plainEvents (⟨node, .resumed, payload⟩ :: events) = plainEvents events :=
  rfl

/-- A report without the events about suspensions. -/
def Report.plain (report : Report) : Report :=
  { report with events := plainEvents report.events }

theorem Report.plain_after (report : Report) (leg : Leg)
    (events : List Event) :
    (report.after leg events).plain =
      report.plain.after leg (plainEvents events) := by
  simp [Report.plain, Report.after]

namespace Leg

variable {plan : Plan}

/-- A stage at which a run is not about to be suspended. -/
def isPlain : Leg → Bool
  | .parking _ | .parked _ | .ended (.suspended _) => false
  | _ => true

/-- What a step comes to if suspensions have no part in it. -/
structure Plain (result : Leg × List Event) : Prop where
  leg : result.1.isPlain = true
  events : plainEvents result.2 = result.2

theorem plain_leave (context : Context) (node : String) (output : Json)
    (branch : Option Branch) : Plain (leave plan context node output branch) := by
  unfold leave
  split
  · exact ⟨rfl, rfl⟩
  · exact ⟨rfl, rfl⟩

theorem plain_enter (context : Context) (next : String) :
    Plain (enter plan context next) := by
  fun_cases enter plan context next <;> exact ⟨rfl, rfl⟩

theorem plain_dispatch {context : Context} {node : Node} {now : Instant}
    (hkind : ∀ config, node.kind ≠ .approval config) :
    Plain (dispatch plan context node now) := by
  unfold dispatch
  cases hnode : node.kind with
  | start declared => exact plain_leave ..
  | approval config => exact absurd hnode (hkind config)
  | loop config =>
      dsimp only
      split
      · exact plain_leave ..
      · exact ⟨rfl, rfl⟩
  | _ => exact ⟨rfl, rfl⟩

theorem plain_finish (context : Context) (node : String) (work : Work)
    (result : Except Error work.Result) :
    Plain (finish plan context node work result) := by
  fun_cases finish plan context node work result with
  | case1 | case3 | case5 | case7 | case8 | case11 => exact plain_leave ..
  | case2 | case4 | case6 | case9 | case10 | case12 => exact ⟨rfl, rfl⟩

/-- An approval node has been started. -/
def AtApproval (leg : Leg) : Prop :=
  ∃ context node config,
    leg = .entered context node ∧ node.kind = .approval config

/-- Only at an approval node a step has to do with suspensions. -/
theorem plain_step {leg : Leg} (hleg : leg.isPlain = true)
    (happroval : ¬ leg.AtApproval) (move : leg.Move) :
    Plain (leg.step plan move) := by
  cases leg with
  | between context next =>
      match move with
      | true => exact ⟨rfl, rfl⟩
      | false => exact plain_enter context next
  | entered context node =>
      match move with
      | none => exact ⟨rfl, rfl⟩
      | some now =>
          exact plain_dispatch fun config hkind =>
            happroval ⟨context, node, config, rfl, hkind⟩
  | working context node work =>
      match move with
      | none => exact ⟨rfl, rfl⟩
      | some result => exact plain_finish context node.id work result
  | parking suspended => simp [isPlain] at hleg
  | parked suspended => simp [isPlain] at hleg
  | ended outcome => exact move.elim

end Leg

/-! ## The simulation -/

namespace Replies

variable {replies : Replies} {course after : Course} {events : List Event}

/-- Where no approval node has been started, there is no difference. -/
theorem proceedDirectly_eq (happroval : ¬ course.leg.AtApproval) :
    replies.proceedDirectly course = replies.proceed course := by
  unfold proceedDirectly
  split
  next context node hleg =>
    split
    next config hkind =>
      exact absurd ⟨context, node, config, hleg, hkind⟩ happroval
    next => rfl
  next => rfl

theorem proceedDirectly_approval {plan : Plan} {approvals : ℕ}
    {context : Context} {node : Node} {config : ApprovalConfig}
    (hkind : node.kind = .approval config) :
    replies.reference.next ⟨plan, approvals, .entered context node⟩ =
      some (⟨plan, approvals + 1, (Leg.direct plan context node.id
          (approval (replies.note approvals)) none).1⟩,
        (Leg.direct plan context node.id
          (approval (replies.note approvals)) none).2) := by
  simp only [reference, proceedDirectly, hkind]

theorem not_atApproval_of_stops
    (hnext : replies.reference.next course = none) :
    ¬ course.leg.AtApproval := by
  rintro ⟨context, node, config, hentered, hkind⟩
  obtain ⟨plan, approvals, leg⟩ := course
  obtain rfl : leg = .entered context node := hentered
  simp [proceedDirectly_approval hkind] at hnext

/-- Where no approval node has been started, the engine stays clear of
suspensions. -/
theorem proceed_plain (hleg : course.leg.isPlain = true)
    (happroval : ¬ course.leg.AtApproval)
    (hnext : replies.proceed course = some (after, events)) :
    Leg.Plain (after.leg, events) := by
  obtain ⟨move, -, hstep, -⟩ | ⟨suspended, -, hsuspended, -, -⟩ :=
    proceed_inv hnext
  · exact hstep ▸ Leg.plain_step hleg happroval move
  · simp [hsuspended, Leg.isPlain] at hleg

/-- At an approval node the engine does four steps: the run is to be put aside,
it is, it reports that, and it is resumed. -/
theorem engine_play_approval {plan : Plan} {approvals : ℕ} {context : Context}
    {node : Node} {config : ApprovalConfig}
    (hkind : node.kind = .approval config) :
    let result := Leg.direct plan context node.id
      (approval (replies.note approvals)) none
    (replies.engine.play ⟨plan, approvals, .entered context node⟩).plain =
      (replies.engine.play ⟨plan, approvals + 1, result.1⟩).plain.after
        (.entered context node) result.2 := by
  intro result
  let suspended := Leg.suspend plan context node.id config
    (replies.now context.steps)
  have hparking : replies.engine.next ⟨plan, approvals, .entered context node⟩ =
      some (⟨plan, approvals, .parking suspended⟩, []) := by
    simp [engine, proceed, move?, Leg.step, Leg.dispatch, hkind, suspended]
  have hparked : replies.engine.next ⟨plan, approvals, .parking suspended⟩ =
      some (⟨plan, approvals, .parked suspended⟩, []) := rfl
  have hended : replies.engine.next ⟨plan, approvals, .parked suspended⟩ =
      some (⟨plan, approvals, .ended (.suspended suspended)⟩,
        [⟨node.id, .suspended, Leg.suspendedPayload suspended⟩]) := rfl
  have hresumed : replies.engine.next
      ⟨plan, approvals, .ended (.suspended suspended)⟩ =
      some (⟨plan, approvals + 1, result.1⟩,
        ⟨node.id, .resumed, approval (replies.note approvals)⟩ :: result.2) :=
    proceed_suspended
  have hplain : plainEvents result.2 = result.2 := (Leg.plain_leave ..).events
  rw [Interpreter.play_of_some hparking, Interpreter.play_of_some hparked,
    Interpreter.play_of_some hended, Interpreter.play_of_some hresumed]
  simp [Report.plain, Report.after, Leg.context?, suspended, Leg.suspend, hplain]

/-- From a stage that has nothing to do with a suspension, the engine does what
the reference does. -/
theorem engine_play_plain (hleg : course.leg.isPlain = true) :
    (replies.engine.play course).plain = replies.reference.play course := by
  induction course using replies.reference.induct with
  | stops hnext =>
      have happroval := not_atApproval_of_stops hnext
      have hstops : replies.engine.next _ = none :=
        (proceedDirectly_eq happroval).symm.trans hnext
      rw [Interpreter.play_of_none hnext, Interpreter.play_of_none hstops]
      rfl
  | @goes course after events hnext ih =>
      rw [Interpreter.play_of_some hnext]
      by_cases happroval : course.leg.AtApproval
      · obtain ⟨context, node, config, hentered, hkind⟩ := happroval
        obtain ⟨plan, approvals, leg⟩ := course
        obtain rfl : leg = .entered context node := hentered
        rw [proceedDirectly_approval hkind] at hnext
        obtain ⟨rfl, rfl⟩ := Prod.mk.inj (Option.some.inj hnext)
        rw [engine_play_approval hkind, ih (Leg.plain_leave ..).leg]
      · have hsame : replies.engine.next course = some (after, events) :=
          (proceedDirectly_eq happroval).symm.trans hnext
        obtain ⟨hafter, hevents⟩ := proceed_plain hleg happroval hsame
        rw [Interpreter.play_of_some hsame, Report.plain_after, hevents,
          ih hafter]

/-- The engine, over all legs of a run whose suspensions are all approved,
reports what an interpreter reports that never suspends a run, but for the
events about suspensions; and it comes to the same end in the same state.  This
holds of every graph and all inputs, results of work and approvals; where the
run does not start at all, it does so for neither. -/
theorem engine_run_plain (replies : Replies) (plan : Plan)
    (inputs : Assoc Json) :
    (replies.engine.run plan inputs).map Report.plain =
      replies.reference.run plan inputs := by
  unfold Interpreter.run
  cases hstart : Leg.start plan inputs with
  | error error => rfl
  | ok begun =>
      obtain ⟨leg, told⟩ := begun
      obtain ⟨-, hstarts⟩ := Leg.starts_of_start hstart
      have hplain : leg.isPlain = true ∧ plainEvents told = told := by
        cases hstarts <;> exact ⟨rfl, rfl⟩
      simp only [Except.map, Report.plain_after, hplain.2]
      rw [engine_play_plain hplain.1]

/-! ## The runs of the engine -/

/-- Surroundings that let a run go on as it is told. -/
def around (replies : Replies) : Surroundings := fun leg move =>
  replies.move? leg = some move

variable {limits : EngineConfig} {run : RunId} {graph : Graph}
variable {inputs : Assoc Json} {history : History}

/-- What the engine does next continues a run. -/
theorem exists_longer {approvals : ℕ} {after : Course} {events : List Event}
    (hsteady : History.Steady limits replies.around run graph inputs history)
    (hnext : replies.engine.next ⟨history.plan, approvals, history.leg⟩ =
      some (after, events)) :
    ∃ longer, History.Steady limits replies.around run graph inputs longer ∧
      longer.plan = after.plan ∧ longer.leg = after.leg ∧
      longer.events = history.events ++ events := by
  obtain ⟨plan, approvals', leg⟩ := after
  obtain ⟨move, hmove, hstep, rfl⟩ | ⟨suspended, signal, hleg, hresume, rfl⟩ :=
    proceed_inv hnext
  · exact ⟨_, hsteady.step_to move hmove hstep, rfl, rfl,
      (List.append_assoc ..).symm⟩
  · have hplan := hsteady.plan_eq
    simp only [hplan] at hresume ⊢
    exact ⟨_, hsteady.resume hleg hresume, rfl, rfl, rfl⟩

/-- What the engine plays from a stage of a run continues the run. -/
theorem exists_steady (course : Course) (hplan : history.plan = course.plan)
    (hleg : history.leg = course.leg)
    (hsteady : History.Steady limits replies.around run graph inputs history) :
    ∃ final, History.Steady limits replies.around run graph inputs final ∧
      final.leg = (replies.engine.play course).leg ∧
      final.events = history.events ++ (replies.engine.play course).events := by
  induction course using replies.engine.induct generalizing history with
  | stops hnext =>
      refine ⟨history, hsteady, ?_⟩
      simp [Interpreter.play_of_none hnext, hleg]
  | @goes course after events hnext ih =>
      obtain ⟨plan, approvals, leg⟩ := course
      obtain rfl : history.plan = plan := hplan
      obtain rfl : history.leg = leg := hleg
      obtain ⟨longer, hlonger, hplan, hleg, hevents⟩ :=
        exists_longer hsteady hnext
      obtain ⟨final, hfinal, hend, hall⟩ := ih hplan hleg hlonger
      rw [Interpreter.play_of_some hnext]
      refine ⟨final, hfinal, hend, ?_⟩
      rw [hall, hevents, Report.after, List.append_assoc]

/-- The engine goes on until a run completes or fails. -/
theorem engine_play_ended (course : Course) :
    ∃ outcome, (replies.engine.play course).leg = .ended outcome ∧
      ∀ suspended, outcome ≠ .suspended suspended := by
  induction course using replies.engine.induct with
  | stops hnext =>
      rw [Interpreter.play_of_none hnext]
      exact proceed_eq_none hnext
  | goes hnext ih =>
      rw [Interpreter.play_of_some hnext]
      exact ih

/-- The engine goes through one of the runs that nobody cancels, over all of
its legs, until it completes or fails. -/
theorem engine_run_steady {plan : Plan} {report : Report}
    (hrun : replies.engine.run plan inputs = .ok report) :
    (∃ history, History.Steady plan.limits replies.around plan.run plan.graph
        inputs history ∧
      history.leg = report.leg ∧ history.events = report.events) ∧
    ∃ outcome, report.leg = .ended outcome ∧
      ∀ suspended, outcome ≠ .suspended suspended := by
  cases hstart : Leg.start plan inputs with
  | error error => simp [Interpreter.run, hstart, Except.map] at hrun
  | ok begun =>
      obtain ⟨leg, told⟩ := begun
      simp only [Interpreter.run, hstart, Except.map, Except.ok.injEq] at hrun
      subst hrun
      have hbegun : History.Steady plan.limits replies.around plan.run
        plan.graph inputs _ := .start hstart
      obtain ⟨history, hsteady, hleg, hevents⟩ :=
        exists_steady ⟨plan, 0, leg⟩ rfl rfl hbegun
      exact ⟨⟨history, hsteady, hleg, hevents⟩, engine_play_ended _⟩

end Replies

end Workflow
