import Workflow.Proofs.Manager.Office

/-!
# Whole calls

The steps of an office are smaller than the calls of a manager.  A call that
nothing comes between is some of these steps after each other, so that what is
proved of every reachable office holds of what the calls lead to.
-/

namespace Workflow

namespace Office

variable {σ : Type} [SuspensionStore σ] [LawfulStore σ] {office : Office σ}
variable {token : Token} {worker next : Worker}

/-! ## A leg -/

/-- A leg comes to an answer with nothing in between, and takes nothing
along. -/
def Performs (office : Office σ) (token : Token) (worker : Worker)
    (answer : Manager σ × Task × List Event) : Prop :=
  ∃ later next, Steps office later ∧ later.manager = answer.1 ∧
    later.workers = office.workers.set token next ∧
    next.task = answer.2.1 ∧ next.told = worker.told ++ answer.2.2 ∧
    next.grasp = .nothing

theorem performs_of_turn {answer : Manager σ × Task × List Event}
    {entries : List Entry} (hworker : office.workers[token]? = some worker)
    (hturn : Turn office.Free office.manager worker answer.1 next entries)
    (htask : next.task = answer.2.1)
    (htold : next.told = worker.told ++ answer.2.2)
    (hgrasp : next.grasp = .nothing) :
    office.Performs token worker answer :=
  ⟨_, next, .step .refl (.turn hworker hturn), rfl, rfl, htask, htold, hgrasp⟩

theorem performs_of_stays (hworker : office.workers[token]? = some worker)
    (hgrasp : worker.grasp = .nothing) :
    office.Performs token worker (office.manager, worker.task, []) := by
  obtain ⟨hlt, hitem⟩ := List.getElem?_eq_some_iff.mp hworker
  refine ⟨office, worker, .refl, rfl, ?_, rfl, by simp, hgrasp⟩
  rw [← hitem, List.set_getElem_self]

theorem performs_launch {plan : Plan}
    {started : Except Error (Leg × List Event)} (hfree : office.Free)
    (hworker : office.workers[token]? = some worker)
    (hopening : worker.task.opening? office.manager.limits =
      some (plan, started)) :
    office.Performs token worker
      (office.manager.launch worker.task plan started) := by
  cases started with
  | ok opened =>
      exact performs_of_turn hworker (.launch hopening) rfl rfl rfl
  | error error =>
      exact performs_of_turn hworker (.refused hfree hopening) rfl rfl rfl

theorem performs_park {plan : Plan} {suspended : SuspendedRun}
    (hfree : office.Free) (hworker : office.workers[token]? = some worker)
    (hstage : worker.task.stage = .running plan (.parking suspended))
    (hfaithful : LawfulStore.Faithful office.manager.store suspended) :
    office.Performs token worker
      ((office.manager.park suspended).2.carryOn worker.task plan
        (.parking suspended) (office.manager.park suspended).1) := by
  rcases hkeep : office.manager.keep suspended with ⟨refusal, kept⟩
  cases refusal with
  | some error =>
      have hpark : office.manager.park suspended = (some error, kept) := by
        simp [Manager.park, hkeep]
      have hturn : Turn office.Free office.manager worker _ _ _ :=
        .refuse hfree hstage (congrArg Prod.fst hkeep)
      rw [hpark]
      exact performs_of_turn hworker (hkeep ▸ hturn) rfl rfl rfl
  | none =>
      have hpark : office.manager.park suspended =
          (none, kept.release suspended.run) := by
        simp [Manager.park, hkeep]
      have hstep := Steps.refl.step
        (.turn hworker (.keep hfree hstage hkeep hfaithful))
      have hreleased := hstep.step (.turn
        (getElem?_set_self_of_getElem? hworker) (.release rfl rfl))
      rw [hpark]
      refine ⟨_, _, hreleased, rfl, List.set_set .., rfl, ?_, rfl⟩
      exact congrArg (· ++ _) (List.append_nil worker.told)

section running

variable {plan : Plan} {leg : Leg}

theorem performs_of_yields {move : leg.Move}
    (hworker : office.workers[token]? = some worker)
    (hstage : worker.task.stage = .running plan leg)
    (hgrasp : worker.grasp = .nothing) (hmove : leg.Yields move)
    (htoken : office.manager.isCancelled worker.task.token = true) :
    office.Performs token worker
      (office.manager.carryOn worker.task plan leg move) :=
  performs_of_turn hworker (.yield hstage hgrasp hmove htoken) rfl rfl rfl

/-- What a leg takes along from its step, it drops with the next. -/
theorem performs_of_proceeds {move : leg.Move}
    (hworker : office.workers[token]? = some worker)
    (hstage : worker.task.stage = .running plan leg)
    (hgrasp : worker.grasp = .nothing) (hmove : leg.Proceeds move)
    (hwatches : leg.watches = true)
    (htoken : office.manager.isCancelled worker.task.token = false) :
    office.Performs token worker
      (office.manager.carryOn worker.task plan leg move) := by
  have hlook : Steps office _ :=
    .step .refl (.turn hworker (.look hstage hgrasp hwatches htoken))
  have hlooked :
      (office.workers.set token
        (worker.after (.running plan leg) .clear []))[token]? = some _ :=
    getElem?_set_self_of_getElem? hworker
  have hproceed := hlook.step (.turn hlooked (.proceed rfl rfl hmove))
  cases hworking : (leg.step plan move).1.isWorking with
  | false =>
      refine ⟨_, _, hproceed, rfl, List.set_set .., rfl, ?_, ?_⟩
      · exact congrArg (· ++ _) (List.append_nil worker.told)
      · simp [hworking]
  | true =>
      have hwaits := hproceed.step (.turn
        (getElem?_set_self_of_getElem? hlooked)
        (.wait rfl (by simp [hworking]) hworking))
      refine ⟨_, _, hwaits, rfl, (List.set_set ..).trans (List.set_set ..),
        rfl, ?_, rfl⟩
      exact (List.append_nil _).trans
        (congrArg (· ++ _) (List.append_nil worker.told))

end running

/-- Where nobody holds the lock, a call that lets a leg go on is some steps of
the leg. -/
theorem performs_advance (hfree : office.Free)
    (hworker : office.workers[token]? = some worker)
    (hgrasp : worker.grasp = .nothing)
    (hfaithful : ∀ {plan suspended},
      worker.task.stage = .running plan (.parking suspended) →
        LawfulStore.Faithful office.manager.store suspended)
    (move : worker.task.Move) :
    office.Performs token worker
      (office.manager.advance worker.task move) := by
  obtain ⟨⟨run, own, stage⟩, _, _, _, _, _, _⟩ := worker
  cases stage with
  | submitted graph inputs =>
      exact performs_launch hfree hworker rfl
  | claimed suspended signal =>
      exact performs_launch hfree hworker rfl
  | running plan leg =>
    cases leg with
    | between context next =>
        show office.Performs token _ (office.manager.carryOn _ plan
          (.between context next) (office.manager.isCancelled own))
        cases htoken : office.manager.isCancelled own with
        | true => exact performs_of_yields hworker rfl hgrasp .between htoken
        | false =>
            exact performs_of_proceeds hworker rfl hgrasp .between rfl htoken
    | entered context node =>
        simp only [Manager.advance]
        cases htoken : office.manager.isCancelled own with
        | true => exact performs_of_yields hworker rfl hgrasp .entered htoken
        | false =>
            exact performs_of_proceeds hworker rfl hgrasp (.entered move) rfl
              htoken
    | working context node work =>
        simp only [Manager.advance]
        cases htoken : office.manager.isCancelled own with
        | true => exact performs_of_yields hworker rfl hgrasp .working htoken
        | false =>
            cases move with
            | some result =>
                exact performs_of_proceeds hworker rfl hgrasp (.working result)
                  rfl htoken
            | none =>
                exact performs_of_stays hworker hgrasp
    | parking suspended => exact performs_park hfree hworker rfl (hfaithful rfl)
    | parked suspended =>
        exact performs_of_turn hworker (.report rfl) rfl rfl rfl
    | ended outcome =>
        exact performs_of_turn hworker (.settle (.inl hfree) rfl) rfl rfl rfl
  | settled result => cases move

/-! ## Resumptions -/

/-- The tasks of all legs so far. -/
def tasks (office : Office σ) : List Task :=
  office.workers.map (·.task)

/-- A call comes to a manager and to some new legs, with nothing in between. -/
def Resumes (office : Office σ) (manager : Manager σ) (new : List Task) :
    Prop :=
  ∃ later, Steps office later ∧ later.Free ∧ later.manager = manager ∧
    later.tasks = office.tasks ++ new

theorem resumes_resume (hfree : office.Free) (signal : ResumeSignal) :
    office.Resumes (office.manager.resume signal).2
      (office.manager.resume signal).1.toOption.toList := by
  rcases hclaim : office.manager.claim signal.run with ⟨taken, manager⟩
  cases taken with
  | error error =>
      have hmiss : Steps office _ :=
        .step .refl (.miss (congrArg Prod.fst hclaim))
      refine ⟨_, hmiss, hfree, ?_, ?_⟩
      · simp [Manager.resume, hclaim]
      · simp [Manager.resume, hclaim, Except.toOption, tasks]
  | ok suspended =>
      have htaken : Steps office _ :=
        .step .refl (.claim (congrArg Prod.fst hclaim))
      have hadopted := htaken.step (.adopt hfree List.mem_cons_self)
      refine ⟨_, hadopted, ?_, ?_, ?_⟩
      · intro worker hworker
        rcases List.mem_append.mp hworker with hworker | hworker
        · exact hfree worker hworker
        · rw [List.mem_singleton.mp hworker]
          exact (by decide : Grasp.nothing ≠ .lock)
      · simp [Manager.resume, hclaim]
      · simp [Manager.resume, hclaim, Except.toOption, tasks, Worker.begin]

theorem Resumes.trans {later : Office σ} {manager : Manager σ}
    {first new : List Task} (hsteps : Steps office later)
    (htasks : later.tasks = office.tasks ++ first)
    (hresumes : later.Resumes manager new) :
    office.Resumes manager (first ++ new) := by
  obtain ⟨last, hmore, hfree, hmanager, hlast⟩ := hresumes
  refine ⟨last, hsteps.trans hmore, hfree, hmanager, ?_⟩
  rw [hlast, htasks, List.append_assoc]

theorem resumes_resumeAll (hfree : office.Free) (before : List Task)
    (overdue : List SuspendedRun) :
    ∃ new, (office.manager.resumeAll before overdue).2.1 = before ++ new ∧
      office.Resumes (office.manager.resumeAll before overdue).2.2 new := by
  induction overdue generalizing office before with
  | nil =>
      refine ⟨[], ?_, office, .refl, hfree, rfl, ?_⟩ <;>
        simp [Manager.resumeAll]
  | cons suspended rest ih =>
      obtain ⟨later, hsteps, hlater, hmanager, htasks⟩ :=
        resumes_resume hfree (Manager.timeoutSignal suspended)
      rcases hresume : office.manager.resume
        (Manager.timeoutSignal suspended) with ⟨answer, manager⟩
      rw [hresume] at hmanager htasks
      obtain rfl : later.manager = manager := hmanager
      cases answer with
      | ok task =>
          have hall : office.manager.resumeAll before (suspended :: rest) =
              later.manager.resumeAll (before ++ [task]) rest := by
            simp [Manager.resumeAll, hresume]
          obtain ⟨new, hnew, hresumes⟩ := ih hlater (before ++ [task])
          rw [hall]
          exact ⟨[task] ++ new, by rw [hnew, List.append_assoc],
            hresumes.trans hsteps htasks⟩
      | error error =>
          cases error with
          | runNotFound missing =>
              have hall : office.manager.resumeAll before (suspended :: rest) =
                  later.manager.resumeAll before rest := by
                simp [Manager.resumeAll, hresume]
              obtain ⟨new, hnew, hresumes⟩ := ih hlater before
              rw [hall]
              exact ⟨[] ++ new, hnew, hresumes.trans hsteps htasks⟩
          | _ =>
              refine ⟨[], ?_, later, hsteps, hlater, ?_, htasks⟩ <;>
                simp [Manager.resumeAll, hresume]

/-- A sweep lists what is overdue and resumes it. -/
theorem resumes_sweep (hfree : office.Free) (now : Instant) :
    office.Resumes (office.manager.sweep now).2.2
      (office.manager.sweep now).2.1 := by
  cases hexpired : SuspensionStore.expired office.manager.store now with
  | error error =>
      refine ⟨office, .refl, hfree, ?_, ?_⟩ <;>
        simp [Manager.sweep, hexpired]
  | ok overdue =>
      have hsweep : office.manager.sweep now =
          office.manager.resumeAll [] overdue := by
        simp [Manager.sweep, hexpired]
      obtain ⟨new, hnew, hresumes⟩ := resumes_resumeAll hfree [] overdue
      rw [hsweep, hnew]
      exact hresumes

end Office

end Workflow
