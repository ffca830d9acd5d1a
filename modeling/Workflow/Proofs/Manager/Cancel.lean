import Workflow.Proofs.Manager.Exclusive
import Workflow.Proofs.Manager.Gone
import Workflow.Proofs.Manager.Stopping

/-!
# Cancellation is effective

A request to cancel a run finds it with the leg that has it in hand, or in the
store, or not at all.  In the first case the leg is told and winds down,
whatever happens around it; in the second case the run is gone for good.
-/

namespace Workflow

variable {σ : Type} [SuspensionStore σ] [LawfulStore σ]

/-! ## Tokens stay cancelled -/

theorem Turn.cancelled_eq {free : Prop} {manager later : Manager σ}
    {worker next : Worker} {entries : List Entry}
    (hturn : Turn free manager worker later next entries) :
    later.cancelled = manager.cancelled := by
  cases hturn with
  | keep _ _ hkeep _ =>
      obtain ⟨-, store, -, rfl⟩ := manager.keep_eq_none hkeep
      rfl
  | refuse _ _ hkeep => rw [manager.keep_of_error hkeep]
  | @settle plan outcome _ _ => cases outcome <;> rfl
  | _ => rfl

/-- A leg that has settled makes no step any more. -/
theorem Turn.stage_ne_settled {free : Prop} {manager later : Manager σ}
    {worker next : Worker} {entries : List Entry}
    {result : Except Error Outcome}
    (hturn : Turn free manager worker later next entries) :
    worker.task.stage ≠ .settled result := by
  intro hsettled
  cases hturn with
  | launch hopening => simp [Task.opening?, hsettled] at hopening
  | refused _ hopening => simp [Task.opening?, hsettled] at hopening
  | look hstage _ _ _ => simp [hsettled] at hstage
  | yield hstage _ _ _ => simp [hsettled] at hstage
  | proceed hstage _ _ => simp [hsettled] at hstage
  | wait hstage _ _ => simp [hsettled] at hstage
  | keep _ hstage _ _ => simp [hsettled] at hstage
  | refuse _ hstage _ => simp [hsettled] at hstage
  | release _ hstage => simp [hsettled] at hstage
  | report hstage => simp [hsettled] at hstage
  | settle _ hstage => simp [hsettled] at hstage

namespace Office

variable {office later last : Office σ} {run : RunId} {token : Token}

theorem Step.isCancelled (hstep : Step office later)
    (hcancelled : office.manager.isCancelled token = true) :
    later.manager.isCancelled token = true := by
  cases hstep with
  | submit _ _ hsubmit =>
      obtain ⟨-, -, rfl⟩ := Manager.submit_eq_ok hsubmit
      exact hcancelled
  | claim _ => exact hcancelled
  | miss _ => exact hcancelled
  | adopt _ _ => exact hcancelled
  | cancel run _ =>
      rcases office.cancel_cases run with ⟨other, heq⟩ | ⟨_, -, heq⟩ | heq
      · rw [heq]
        exact (List.contains_cons ..).trans
          (Bool.or_eq_true_iff.mpr (.inr hcancelled))
      · rwa [heq]
      · rwa [heq]
  | turn _ hturn =>
      simpa only [Manager.isCancelled, hturn.cancelled_eq] using hcancelled

theorem Steps.isCancelled (hsteps : Steps office later)
    (hcancelled : office.manager.isCancelled token = true) :
    later.manager.isCancelled token = true := by
  induction hsteps with
  | refl => exact hcancelled
  | step _ hstep ih => exact hstep.isCancelled ih

/-! ## A leg can always go on -/

/-- A lock that is held can be given back, and nothing else has to happen for
that. -/
theorem Orderly.exists_free (horderly : office.Orderly) :
    ∃ later, Steps office later ∧ later.Free ∧
      ∀ {token : Token} {worker : Worker},
        office.workers[token]? = some worker → worker.grasp ≠ .lock →
          later.workers[token]? = some worker := by
  -- One lock is given back after the other.
  induction hlocks : office.workers.countP (fun worker => worker.grasp = .lock)
    generalizing office with
  | zero =>
      refine ⟨office, .refl, fun worker hworker hlock => ?_, fun h _ => h⟩
      exact List.countP_eq_zero.mp hlocks worker hworker (by simp [hlock])
  | succ n ih =>
      have hpos : 0 < office.workers.countP fun worker =>
        worker.grasp = .lock := by omega
      obtain ⟨holder, hmem, hlock⟩ := List.countP_pos_iff.mp hpos
      have hlock : holder.grasp = .lock := of_decide_eq_true hlock
      obtain ⟨place, hholder⟩ := List.mem_iff_getElem?.mp hmem
      obtain ⟨plan, suspended, hstage⟩ :=
        (horderly.sound holder hmem).parking hlock
      have hturn : Turn office.Free office.manager holder _ _ _ :=
        .release hlock hstage
      have hcount := countP_set_of_getElem? hholder
        (holder.goesOn plan (.parking suspended) none .nothing)
        fun worker => worker.grasp = .lock
      have hgrasp : decide ((holder.goesOn plan (.parking suspended) none
        .nothing).grasp = .lock) = false := rfl
      simp only [hlock, hgrasp, decide_true, Bool.toNat_true,
        Bool.toNat_false] at hcount
      obtain ⟨later, hsteps, hfree, hkept⟩ :=
        ih (horderly.turn hholder hturn) (by dsimp only; omega)
      refine ⟨later, Steps.trans (.step .refl (.turn hholder hturn)) hsteps,
        hfree, fun {token worker} hworker hunlocked => ?_⟩
      refine hkept ((getElem?_set_iff hholder).mpr (.inr ⟨?_, hworker⟩))
        hunlocked
      rintro rfl
      obtain rfl := Option.some.inj (hworker.symm.trans hholder)
      exact hunlocked hlock

/-- A leg that is to stop can make its next step as soon as nobody holds the
lock. -/
theorem Orderly.exists_turn (horderly : office.Orderly) (hfree : office.Free)
    {worker : Worker} (hworker : office.workers[token]? = some worker)
    (hactive : worker.isActive = true)
    (hcancelled : office.manager.isCancelled token = true) :
    ∃ manager next entries,
      Turn office.Free office.manager worker manager next entries := by
  have hmem := List.mem_of_getElem? hworker
  have hsound := horderly.sound worker hmem
  obtain ⟨hlisted, -⟩ := Bool.and_eq_true_iff.mp hactive
  have htoken : office.manager.isCancelled worker.task.token = true := by
    rwa [horderly.token_eq hworker]
  cases hopening : worker.task.opening? office.manager.limits with
  | some opening =>
      obtain ⟨plan, started⟩ := opening
      obtain ⟨leg, events, rfl, -⟩ := hsound.opens hopening
      exact ⟨_, _, _, .launch hopening⟩
  | none =>
      obtain ⟨plan, leg, hstage⟩ : ∃ plan leg,
          worker.task.stage = .running plan leg := by
        cases hstage : worker.task.stage with
        | running plan leg => exact ⟨plan, leg, rfl⟩
        | settled _ => simp [Worker.isListed, hstage, Stage.isListed] at hlisted
        | _ => simp [Task.opening?, hstage] at hopening
      have hruns := hsound.runs hstage
      cases hgrasp : worker.grasp with
      | lock => exact absurd hgrasp (hfree worker hmem)
      | clear =>
          have hwatches : leg.watches = true := by
            simpa [hgrasp, Grasp.Fits] using hruns.fits
          cases leg with
          | between _ _ => exact ⟨_, _, _, .proceed hstage hgrasp .between⟩
          | entered _ _ =>
              exact ⟨_, _, _, .proceed hstage hgrasp (.entered ⟨0, 0⟩)⟩
          | working _ _ _ => exact ⟨_, _, _, .wait hstage hgrasp rfl⟩
          | _ => simp [Leg.watches] at hwatches
      | nothing =>
          cases leg with
          | between _ _ =>
              exact ⟨_, _, _, .yield hstage hgrasp .between htoken⟩
          | entered _ _ =>
              exact ⟨_, _, _, .yield hstage hgrasp .entered htoken⟩
          | working _ _ _ =>
              exact ⟨_, _, _, .yield hstage hgrasp .working htoken⟩
          | parking suspended =>
              have hlive := horderly.listed_iff.mpr
                ⟨worker, hworker, rfl, hlisted⟩
              rw [← hruns.awaits.run_eq.trans hruns.run_eq] at hlive
              exact ⟨_, _, _, .refuse hfree hstage
                (office.manager.keep_of_cancelled hlive hcancelled)⟩
          | parked _ =>
              simp [Worker.isListed, hstage, Stage.isListed] at hlisted
          | ended _ => exact ⟨_, _, _, .settle (.inl hfree) hstage⟩

theorem Orderly.stops (horderly : office.Orderly) {worker next : Worker}
    {manager : Manager σ} {entries : List Entry}
    (hworker : office.workers[token]? = some worker)
    (hactive : worker.isActive = true)
    (hcancelled : office.manager.isCancelled token = true)
    (hturn : Turn office.Free office.manager worker manager next entries) :
    worker.Stops next := by
  have htoken := horderly.token_eq hworker
  have hlive := horderly.listed_iff.mpr
    ⟨worker, hworker, rfl, (Bool.and_eq_true_iff.mp hactive).1⟩
  exact hturn.stops (horderly.sound worker (List.mem_of_getElem? hworker))
    hactive (by rwa [htoken]) (by rwa [htoken])

theorem Orderly.exists_settled (horderly : office.Orderly) {worker : Worker}
    (hworker : office.workers[token]? = some worker)
    (hactive : worker.isActive = true)
    (hcancelled : office.manager.isCancelled token = true) :
    ∃ later settled outcome, Steps office later ∧
      later.workers[token]? = some settled ∧
      settled.task.stage = .settled (.ok outcome) := by
  induction hahead : worker.ahead using Nat.strong_induction_on
    generalizing office worker with
  | _ n ih =>
      subst hahead
      have hunlocked : worker.grasp ≠ .lock := by
        simpa using (Bool.and_eq_true_iff.mp hactive).2
      obtain ⟨free, hreleases, hfree, hkept⟩ := horderly.exists_free
      have hstill := hkept hworker hunlocked
      have hordered := horderly.steps hreleases
      have htold := hreleases.isCancelled hcancelled
      obtain ⟨manager, next, entries, hturn⟩ :=
        hordered.exists_turn hfree hstill hactive htold
      have hsound := hordered.sound worker (List.mem_of_getElem? hstill)
      have hstops := hordered.stops hstill hactive htold hturn
      have hsteps := hreleases.step (.turn hstill hturn)
      have hnext : (free.workers.set token next)[token]? = some next :=
        getElem?_set_self_of_getElem? hstill
      rcases hstops.active hsound hactive with hworks | ⟨outcome, hsettled, -⟩
      · obtain ⟨later, settled, outcome, hmore, hlater⟩ :=
          ih _ (hstops.ahead_lt hsound) (horderly.steps hsteps) hnext hworks
            (hsteps.isCancelled hcancelled) rfl
        exact ⟨later, settled, outcome, hsteps.trans hmore, hlater⟩
      · exact ⟨_, next, outcome, hsteps, hnext, hsettled⟩

/-! ## What a leg comes to that is told to stop -/

/-- Whatever else happens, a leg whose token is cancelled winds down, and with
its end its run is over. -/
theorem Orderly.winding_step (horderly : office.Orderly) {first worker : Worker}
    (hworker : office.workers[token]? = some worker)
    (hwinding : first.Winding worker)
    (hleft : worker.isActive = true ∨ office.Gone first.task.run)
    (hcancelled : office.manager.isCancelled token = true)
    (hstep : Step office later) :
    ∃ next, later.workers[token]? = some next ∧ first.Winding next ∧
      (next.isActive = true ∨ later.Gone first.task.run) := by
  have hmem := List.mem_of_getElem? hworker
  have hsound := horderly.sound worker hmem
  rcases hstep.worker hworker with hstays | ⟨_, next, _, hturn, rfl⟩
  · exact ⟨worker, hstays, hwinding,
      hleft.imp_right fun hgone => hgone.step horderly hstep⟩
  · -- A leg that has settled makes no step, so this is one of an active leg.
    rcases hwinding.kept with hactive | ⟨outcome, hsettled, -⟩
    · have hstops := horderly.stops hworker hactive hcancelled hturn
      refine ⟨next, getElem?_set_self_of_getElem? hworker,
        hwinding.step hsound hactive hstops, ?_⟩
      rw [← hwinding.run_eq]
      refine (hstops.active hsound hactive).imp_right ?_
      rintro ⟨outcome, hsettled, -⟩
      refine horderly.gone_of_settled hworker hactive hturn ?_
      simp [Worker.isListed, hsettled, Stage.isListed]
    · exact absurd hsettled hturn.stage_ne_settled

theorem Orderly.winding (horderly : office.Orderly) {first : Worker}
    (hfirst : office.workers[token]? = some first)
    (hactive : first.isActive = true)
    (hcancelled : office.manager.isCancelled token = true)
    (hsteps : Steps office later) :
    ∃ worker, later.workers[token]? = some worker ∧ first.Winding worker ∧
      (worker.isActive = true ∨ later.Gone first.task.run) := by
  induction hsteps with
  | refl => exact ⟨first, hfirst, .refl hactive, .inl hactive⟩
  | step hsteps hstep ih =>
      obtain ⟨worker, hworker, hwinding, hleft⟩ := ih
      exact (horderly.steps hsteps).winding_step hworker hwinding hleft
        (hsteps.isCancelled hcancelled) hstep

/-- What has come of a cancellation of the token of a leg, which was `first`
at that time. -/
structure Heeded (later : Office σ) (token : Token) (first worker : Worker) :
    Prop where
  worker_eq : later.workers[token]? = some worker
  started : ∃ events, worker.told = first.told ++ events ∧
    placesOf .started events <+: first.coming
  dispatched : ∃ nodes, worker.dispatched = first.dispatched ++ nodes ∧
    nodes <+: first.inFlight
  unkept : LawfulStore.keeps later.manager.store first.task.run = false
  settles : worker.isActive = true ∨
    ∃ outcome, worker.task.stage = .settled (.ok outcome) ∧
      first.Stopped worker outcome
  /-- Few steps are left to the leg, whatever comes between them, -/
  turns_le : worker.turns ≤ first.turns + 4
  /-- and it is not kept from its end. -/
  ends : ∃ last settled outcome, Steps later last ∧
    last.workers[token]? = some settled ∧
    settled.task.stage = .settled (.ok outcome)

theorem Orderly.heeded (horderly : office.Orderly) {first : Worker}
    (hfirst : office.workers[token]? = some first)
    (hactive : first.isActive = true)
    (hcancelled : office.manager.isCancelled token = true)
    (hsteps : Steps office later) :
    ∃ worker, later.Heeded token first worker := by
  have hlater := horderly.steps hsteps
  have hsound := horderly.sound first (List.mem_of_getElem? hfirst)
  obtain ⟨worker, hworker, hwinding, hleft⟩ :=
    horderly.winding hfirst hactive hcancelled hsteps
  have hmem := List.mem_of_getElem? hworker
  refine ⟨worker, ?_⟩
  exact {
    worker_eq := hworker
    started := by
      obtain ⟨events, htold, hcoming⟩ := hwinding.told
      exact ⟨events, htold, (List.prefix_append _ _).trans hcoming⟩
    dispatched := by
      obtain ⟨nodes, hdispatched, hflight⟩ := hwinding.dispatched
      exact ⟨nodes, hdispatched, (List.prefix_append _ _).trans hflight⟩
    unkept := by
      rcases hleft with hworks | hgone
      · rw [← hwinding.run_eq]
        exact (hlater.alone hmem hworks).1
      · exact hgone.unkept
    settles := by
      refine hwinding.kept.imp_right ?_
      rintro ⟨outcome, hsettled, -⟩
      exact ⟨outcome, hsettled, .of_winding hsound hactive
        (hlater.sound worker hmem) hwinding hsettled⟩
    turns_le := by
      have hle := hwinding.turns_le
      have hahead := first.ahead_le
      omega
    ends := by
      rcases hwinding.kept with hworks | ⟨outcome, hsettled, -⟩
      · exact hlater.exists_settled hworker hworks
          (hsteps.isCancelled hcancelled)
      · exact ⟨later, worker, outcome, .refl, hworker, hsettled⟩ }

/-! ## What becomes of a run that is discarded -/

/-- What has come of a cancellation that took a run out of the store. -/
structure Discarded (office later : Office σ) (run : RunId) (event : Event) :
    Prop where
  event_eq : ∃ suspended,
    LawfulStore.Offers office.manager.store run suspended ∧
      event = ⟨suspended.cursor, .error, Error.cancelled.payload⟩
  unkept : LawfulStore.keeps later.manager.store run = false
  /-- All legs of the run are old, and go through no node any more. -/
  legs : ∀ {token : Token} {worker : Worker},
    later.workers[token]? = some worker → worker.task.run = run →
      worker.isActive = false ∧
        ∃ first, office.workers[token]? = some first ∧ first.Rests worker
  resumed : ∀ signal : ResumeSignal, signal.run = run →
    (later.manager.resume signal).1 = .error (.runNotFound run)
  cancelled : (later.manager.cancel run).1 = .ok .notFound

theorem Orderly.gone_of_discarded (horderly : office.Orderly)
    {suspended : SuspendedRun}
    (hlive : Assoc.get? office.manager.live run = none)
    (hclaim : (office.manager.claim run).1 = .ok suspended)
    (hlater : (office.manager.cancel run).2 = (office.manager.claim run).2) :
    (office.cancel run).Gone run := by
  have hkept := (LawfulStore.keeps_of_take hclaim).1
  have honce := horderly.once run
  have hpending : office.pending run = 0 := by
    simp only [places, held, hkept, Bool.toNat_true] at honce
    omega
  refine ⟨?_, ?_, ?_, ?_⟩
  · rw [Office.cancel, hlater]
    exact LawfulStore.not_keeps_take hclaim
  · intro claim hmem
    simpa using List.countP_eq_zero.mp hpending claim hmem
  · intro worker hworker hrun
    obtain ⟨place, hplace⟩ := List.mem_iff_getElem?.mp hworker
    by_contra hlisted
    have hfound := horderly.listed_iff.mpr
      ⟨worker, hplace, hrun, by simpa using hlisted⟩
    simp [hlive] at hfound
  · show run ∈ office.used
    by_contra hunused
    simp [(horderly.unused run hunused).1] at hkept

theorem Orderly.discarded (horderly : office.Orderly) {event : Event}
    (hanswer : (office.manager.cancel run).1 = .ok (.discarded event))
    (hsteps : Steps (office.cancel run) later) :
    Discarded office later run event := by
  have hcancels := office.manager.cancels run
  rw [hanswer] at hcancels
  obtain ⟨suspended, hlive, hclaim, rfl, hlater⟩ := hcancels.of_discarded
  have hafter := horderly.cancel run
  have hgone := horderly.gone_of_discarded hlive hclaim hlater
  have hgoneLater := hgone.steps hafter hsteps
  exact {
    event_eq := ⟨suspended, (LawfulStore.keeps_of_take hclaim).2, rfl⟩
    unkept := hgoneLater.unkept
    legs := fun {token worker} hworker hrun => by
      have hmem := List.mem_of_getElem? hworker
      obtain ⟨first, hfirst, -, hrests⟩ :=
        hgone.before_steps hafter hsteps hworker hrun
      refine ⟨?_, first, hfirst, hrests⟩
      simp [Worker.isActive, hgoneLater.unlisted worker hmem hrun]
    resumed := by
      rintro signal rfl
      exact later.manager.resume_of_claim_error hgoneLater.claim
    cancelled := hgoneLater.cancel (hafter.steps hsteps) }

/-- Cancellation is effective, whatever comes after it. -/
theorem Reachable.cancel_effective (hreach : Reachable office)
    (hfree : office.Free) (run : RunId)
    (hsteps : Steps (office.cancel run) later) :
    ((office.manager.cancel run).1 = .ok .signalled →
      ∃ token first worker,
        Assoc.get? office.manager.live run = some token ∧
        office.workers[token]? = some first ∧ first.task.run = run ∧
        first.isActive = true ∧ later.Heeded token first worker) ∧
    ∀ event, (office.manager.cancel run).1 = .ok (.discarded event) →
      Discarded office later run event := by
  have horderly := hreach.orderly
  refine ⟨fun hanswer => ?_, fun event hanswer =>
    horderly.discarded hanswer hsteps⟩
  have hcancels := office.manager.cancels run
  rw [hanswer] at hcancels
  obtain ⟨token, hlive, hlater⟩ := hcancels.of_signalled
  obtain ⟨first, hfirst, hrun, -, hactive | hlock⟩ := horderly.current hlive
  · have hcancelled : (office.cancel run).manager.isCancelled token = true := by
      rw [Office.cancel, hlater]
      simp [Manager.isCancelled]
    obtain ⟨worker, hheeded⟩ :=
      (horderly.cancel run).heeded hfirst hactive hcancelled hsteps
    exact ⟨token, first, worker, hlive, hfirst, hrun, hactive, hheeded⟩
  · exact absurd hlock (hfree first (List.mem_of_getElem? hfirst))

end Office

/-! ## A run that is cancelled before it begins -/

namespace Review

/-- The leg of the run when it has been registered. -/
def begun : Worker :=
  .begin ⟨"run", 0, .submitted graph []⟩ graph .start

/-- An office that has registered the run. -/
def submitted : Office MemoryStore where
  manager := ((Manager.create .standard (MemoryStore.mk [])).register "run").2
  claims := []
  workers := [begun]
  used := ["run"]
  ledger := []

theorem submitted_reachable : submitted.Reachable := by
  have hopened :
      (Office.opened .standard (MemoryStore.mk []) []).Reachable := by
    refine .opened ?_ ?_
    · intro run hkeeps
      obtain ⟨_, hkept, -⟩ := Layout.keeps_iff.mp hkeeps
      cases hkept
    · rintro run offered ⟨_, hkept, -⟩
      cases hkept
  have hsubmit : (Manager.create .standard (MemoryStore.mk [])).submit "run"
      graph [] = .ok (begun.task, submitted.manager) := by
    simp only [Manager.submit, graph_wellFormed.defect?_eq_none]
    rfl
  exact hopened.step (.submit (by simp [Office.Free, Office.opened])
    (by simp [Office.opened]) hsubmit)

/-- The leg when it is about to start its first node. -/
def launched : Worker :=
  begun.after (.running plan (.between (.ofInputs []) "begin")) .nothing []

/-- The leg when it has found its token cancelled. -/
def failed : Worker :=
  launched.goesOn plan (.between (.ofInputs []) "begin") true .nothing

/-- The office after the cancellation, with the leg at some stage. -/
def cancelledWith (worker : Worker) : Office MemoryStore :=
  { submitted.cancel "run" with workers := [worker] }

theorem cancel_effective_submitted :
    (∃ later first worker, Office.Steps (submitted.cancel "run") later ∧
      later.Heeded 0 first worker ∧
      worker.task.stage = .settled (.ok (.failed "begin" .cancelled))) ∧
    Office.Discarded stored (stored.cancel "run") "run"
      ⟨"ask", .error, Error.cancelled.payload⟩ := by
  have hopening : begun.task.opening? EngineConfig.standard =
      some (plan, .ok (.between (.ofInputs []) "begin", [])) :=
    congrArg some (congrArg (Prod.mk plan) start_eq)
  have hbegun : (submitted.cancel "run").workers[0]? = some begun := rfl
  have hlaunch : Office.Step (submitted.cancel "run")
      (cancelledWith launched) := .turn hbegun (.launch hopening)
  have hlaunched : (cancelledWith launched).workers[0]? = some launched := rfl
  have hyield : Office.Step (cancelledWith launched) (cancelledWith failed) :=
    .turn hlaunched (.yield rfl rfl .between rfl)
  have hfailed : (cancelledWith failed).workers[0]? = some failed := rfl
  have hfree : (cancelledWith failed).Free := by
    intro worker hworker
    obtain rfl : worker = failed := List.mem_singleton.mp hworker
    exact (by decide : Grasp.nothing ≠ .lock)
  have hsteps := ((Office.Steps.refl.step hlaunch).step hyield).step
    (.turn hfailed (.settle (.inl hfree) rfl))
  refine ⟨?_, ?_⟩
  · have hsubmitted : submitted.Free := by
      simp [Office.Free, submitted, begun, Worker.begin]
    obtain ⟨token, first, worker, hlive, -, -, -, hheeded⟩ :=
      (submitted_reachable.cancel_effective hsubmitted "run" hsteps).1 rfl
    obtain rfl : 0 = token := Option.some.inj hlive
    have hworker := Option.some.inj hheeded.worker_eq
    exact ⟨_, first, worker, hsteps, hheeded, hworker ▸ rfl⟩
  · exact (stored_reachable.cancel_effective
      (by simp [Office.Free, stored, Office.opened]) "run" .refl).2 _ rfl

end Review

end Workflow
