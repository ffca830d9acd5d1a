import Workflow.Proofs.Manager.Cancel
import Workflow.Proofs.Manager.Progress
import Workflow.Proofs.Store.Take

/-!
# A run that is found

From its submission to its end a run is in the hands of a leg, in the hands of
a client that resumes it, or in the store.  Where a leg puts it aside the lock
is held from the store to the table, so that a request to cancel it sees it in
one of the two (`Office.Alive.cancel_finds`).  Two things are not seen: a run
between the two steps of a resumption, and a run whose row could not be read
when it was taken (`Twice.cancel_misses`).
-/

namespace Workflow

theorem Manager.cancel_of_stored {σ : Type} [SuspensionStore σ]
    (manager : Manager σ) {run : RunId} {suspended : SuspendedRun}
    (hlive : Assoc.get? manager.live run = none)
    (hclaim : (manager.claim run).1 = .ok suspended) :
    (manager.cancel run).1 =
      .ok (.discarded ⟨suspended.cursor, .error, Error.cancelled.payload⟩) := by
  have hcancels := manager.cancels run
  generalize (manager.cancel run).1 = answer at hcancels ⊢
  generalize (manager.cancel run).2 = later at hcancels
  cases hcancels with
  | signalled hfound => simp [hlive] at hfound
  | discarded _ hdone =>
      obtain rfl := Except.ok.inj (hclaim.symm.trans hdone)
      rfl
  | notFound _ hfailed => simp [hclaim] at hfailed
  | failed _ hfailed _ => simp [hclaim] at hfailed

theorem Manager.claim_eq {σ : Type} [SuspensionStore σ] (manager : Manager σ)
    {run : RunId} {answer : Except Error SuspendedRun} {store : σ}
    (htake : SuspensionStore.take manager.store run = (answer, store)) :
    manager.claim run = (answer, { manager with store }) := by
  simp only [claim, htake]

/-- A leg has settled with a run that completed or failed. -/
def Worker.Finishes (worker : Worker) : Prop :=
  ∃ result, worker.task.stage = .settled result ∧
    ∀ suspended, result ≠ .ok (.suspended suspended)

section turn

variable {σ : Type} [SuspensionStore σ] [LawfulStore σ]

/-- A leg that lets go of its run without putting it aside finishes it. -/
theorem Turn.finishes {free : Prop} {manager later : Manager σ}
    {worker next : Worker} {entries : List Entry} (hsound : worker.Sound)
    (hactive : worker.isActive = true) (hstruck : next.isListed = false)
    (hturn : Turn free manager worker later next entries) : next.Finishes := by
  obtain ⟨hlisted, hgrasp⟩ : worker.isListed = true ∧ worker.grasp ≠ .lock := by
    simpa [Worker.isActive] using hactive
  have hgoes : ∀ {plan leg move grasp}, worker.task.stage = .running plan leg →
      leg.watches = true →
        (worker.goesOn plan leg move grasp).isListed ≠ false := by
    intro plan leg move grasp hstage hwatches
    have hnext := ((hsound.runs hstage).step move).isListed hwatches
    simpa [Worker.isListed] using hnext
  have hstays : ∀ {plan leg grasp events}, leg.watches = true →
      (worker.after (.running plan leg) grasp events).isListed ≠ false := by
    intro plan leg grasp events hwatches
    simp [Worker.isListed_of_watches Worker.after_stage hwatches]
  cases hturn with
  | launch hopening =>
      have hopens := (hsound.opens_of_ok hopening).1
      simp [Worker.isListed, hopens.leg_isListed] at hstruck
  | refused _ _ => exact ⟨_, rfl, by simp⟩
  | look _ _ hwatches _ => exact absurd hstruck (hstays hwatches)
  | yield hstage _ hmove _ => exact absurd hstruck (hgoes hstage hmove.watches)
  | proceed hstage _ hmove =>
      exact absurd hstruck (hgoes hstage hmove.watches)
  | wait _ _ hworking =>
      exact absurd hstruck (hstays (Leg.watches_of_isWorking hworking))
  | keep _ _ _ _ => cases hstruck
  | refuse _ _ _ => cases hstruck
  | release hlock _ => exact absurd hlock hgrasp
  | report hstage => simp [Worker.isListed, hstage, Stage.isListed] at hlisted
  | @settle plan outcome _ hstage =>
      refine ⟨.ok outcome, rfl, ?_⟩
      rintro suspended ⟨⟩
      simp [Worker.isListed, hstage, Stage.isListed] at hlisted

end turn

namespace Office

section places

variable {σ : Type} {office later : Office σ} {run : RunId}

/-- A run has completed or failed. -/
def Finished (office : Office σ) (run : RunId) : Prop :=
  ∃ worker ∈ office.workers, worker.task.run = run ∧ worker.Finishes

theorem last?_of_ledger {entry : Entry}
    (hledger : later.ledger = entry :: office.ledger) (hne : entry.run ≠ run) :
    later.last? run = office.last? run := by
  simp [last?, hledger, hne]

/-- Where a run is that has been submitted and not been discarded. -/
inductive Located (office : Office σ) (run : RunId) : Prop
  | active (hactive : 0 < office.active run)
  | pending (hpending : 0 < office.pending run)
  | saved (hsaved : office.last? run = some (.saved run))
  | finished (hfinished : office.Finished run)

/-- What the run is in is still there. -/
theorem Located.of_le (hlocated : office.Located run)
    (hactive : office.active run ≤ later.active run)
    (hpending : office.pending run ≤ later.pending run)
    (hlast : later.last? run = office.last? run)
    (hworkers : office.workers ⊆ later.workers) : later.Located run := by
  cases hlocated with
  | active hpos => exact .active (hpos.trans_le hactive)
  | pending hpos => exact .pending (hpos.trans_le hpending)
  | saved hsaved => exact .saved (hlast.trans hsaved)
  | finished hfinished =>
      obtain ⟨worker, hworker, hof⟩ := hfinished
      exact .finished ⟨worker, hworkers hworker, hof⟩

theorem active_le_concat (worker : Worker) (run : RunId) :
    office.active run ≤
      active { office with workers := office.workers ++ [worker] } run := by
  simp [active, List.countP_append]

theorem active_concat_pos {worker : Worker} (hactive : worker.isActive = true)
    (hrun : worker.task.run = run) :
    0 < active { office with workers := office.workers ++ [worker] } run := by
  simp [active, List.countP_append, hactive, hrun]

end places

variable {σ : Type} [SuspensionStore σ]

/-- A request to cancel a run takes it out of the store for good. -/
def Discards (office later : Office σ) (run : RunId) : Prop :=
  later = office.cancel run ∧
    ∃ event, (office.manager.cancel run).1 = .ok (.discarded event)

theorem cancel_ledger {office : Office σ} {run : RunId}
    (hkept : ¬ office.Discards (office.cancel run) run) :
    (office.cancel run).ledger = office.ledger := by
  have hnone : ∀ event,
      (office.manager.cancel run).1 ≠ .ok (.discarded event) :=
    fun event hevent => hkept ⟨rfl, event, hevent⟩
  unfold cancel
  split
  next event hevent => exact absurd hevent (hnone event)
  next => rfl

theorem Discards.taken {office later : Office σ} {run : RunId}
    (hdiscards : office.Discards later run) : .taken run ∈ later.ledger := by
  obtain ⟨rfl, event, hanswer⟩ := hdiscards
  simp [cancel, hanswer]

variable [LawfulStore σ]

/-- The offices in which a run has been submitted and not been discarded. -/
inductive Alive (run : RunId) : Office σ → Prop
  | submitted {office : Office σ} {graph : Graph} {inputs : Assoc Json}
      {task : Task} {manager : Manager σ} (hreach : office.Reachable)
      (hfree : office.Free) (hfresh : run ∉ office.used)
      (hsubmit : office.manager.submit run graph inputs =
        .ok (task, manager)) :
      Alive run { office with
        manager
        workers := office.workers ++ [.begin task graph .start]
        used := run :: office.used }
  | step {office later : Office σ} (halive : Alive run office)
      (hstep : Step office later) (hkept : ¬ office.Discards later run) :
      Alive run later

variable {office later : Office σ} {run : RunId}

theorem Alive.reachable (halive : Alive run office) : office.Reachable := by
  induction halive with
  | submitted hreach hfree hfresh hsubmit =>
      exact hreach.step (.submit hfree hfresh hsubmit)
  | step _ hstep _ ih => exact ih.step hstep

theorem Step.ledger (hstep : Step office later) :
    office.ledger <:+ later.ledger := by
  cases hstep with
  | claim _ => exact List.suffix_cons _ _
  | cancel run _ =>
      rcases office.cancel_cases run with ⟨_, heq⟩ | ⟨_, -, heq⟩ | heq
      · exact heq ▸ List.suffix_rfl
      · exact heq ▸ List.suffix_cons _ _
      · exact heq ▸ List.suffix_rfl
  | turn _ _ => exact List.suffix_append _ _
  | _ => exact List.suffix_rfl

/-- A run that nobody has taken out of the store has not been discarded. -/
theorem Alive.of_untaken (halive : Alive run office)
    (hsteps : Steps office later) (huntaken : .taken run ∉ later.ledger) :
    Alive run later := by
  induction hsteps with
  | refl => exact halive
  | step _ hstep ih =>
      refine .step (ih fun htaken => huntaken ?_) hstep fun hdiscards =>
        huntaken hdiscards.taken
      exact hstep.ledger.subset htaken

namespace Located

theorem turn (hlocated : office.Located run) (horderly : office.Orderly)
    {token : Token} {worker next : Worker} {manager : Manager σ}
    {entries : List Entry} (hworker : office.workers[token]? = some worker)
    (hturn : Turn office.Free office.manager worker manager next entries) :
    Located { office with
      manager
      workers := office.workers.set token next
      ledger := entries ++ office.ledger } run := by
  have hmem := List.mem_of_getElem? hworker
  have hsound := horderly.sound worker hmem
  have hof := hturn.same.1
  have hcount := active_set hworker hof run
  have hnext : next ∈ office.workers.set token next :=
    List.mem_of_getElem? (getElem?_set_self_of_getElem? hworker)
  -- A run that this leg has in hand is there, put aside or finished.
  by_cases hhand : worker.task.run = run ∧ worker.isActive = true
  · obtain ⟨rfl, hactive⟩ := hhand
    cases hturn.effect (fun hfree => hfree worker hmem) hsound with
    | quiet _ hsame =>
        have hpos : 0 < office.active worker.task.run :=
          List.countP_pos_iff.mpr ⟨worker, hmem, by simp [hactive]⟩
        rw [hsame, Nat.add_right_cancel_iff] at hcount
        exact .active (hpos.trans_eq hcount.symm)
    | strikes _ hstruck =>
        exact .finished ⟨next, hnext, hof, hturn.finishes hsound hactive hstruck⟩
    | saves _ _ _ _ _ _ _ => exact .saved (by simp [last?, Entry.run])
  · have hhand : (decide (worker.task.run = run) && worker.isActive) = false := by
      simpa using hhand
    simp only [hhand, Bool.toNat_false, Nat.add_zero] at hcount
    cases hlocated with
    | active hpos =>
        refine .active ?_
        simp only [Office.active] at hpos hcount ⊢
        omega
    | pending hpos => exact .pending hpos
    | finished hfinished =>
        obtain ⟨other, hother, hrun, result, hsettled, hresult⟩ := hfinished
        refine .finished ⟨other, ?_, hrun, result, hsettled, hresult⟩
        obtain ⟨place, hplace⟩ := List.mem_iff_getElem?.mp hother
        refine List.mem_of_getElem? ((getElem?_set_iff hworker).mpr
          (.inr ⟨?_, hplace⟩))
        rintro rfl
        obtain rfl := Option.some.inj (hworker.symm.trans hplace)
        exact hturn.stage_ne_settled hsettled
    | saved hsaved =>
        refine .saved ?_
        cases hturn.effect (fun hfree => hfree worker hmem) hsound with
        | quiet _ _ => exact hsaved
        | strikes _ _ => exact hsaved
        | saves _ _ _ _ hactive _ _ =>
            have hne : (Entry.saved worker.task.run).run ≠ run := by
              simpa [hactive, Entry.run] using hhand
            exact (last?_of_ledger rfl hne).trans hsaved

theorem step (hlocated : office.Located run) (horderly : office.Orderly)
    (hstep : Step office later) (hkept : ¬ office.Discards later run) :
    later.Located run := by
  cases hstep with
  | submit _ _ hsubmit =>
      exact hlocated.of_le (active_le_concat _ run) le_rfl rfl
        (List.subset_append_left _ _)
  | @claim signal suspended hclaim =>
      by_cases hrun : signal.run = run
      · have hof := (horderly.offers_fit (LawfulStore.keeps_of_take hclaim).2).1
        refine .pending (List.countP_pos_iff.mpr
          ⟨_, List.mem_cons_self, ?_⟩)
        simpa using hof.trans hrun
      · refine hlocated.of_le le_rfl ?_ (last?_of_ledger rfl hrun)
          (List.Subset.refl _)
        simp [Office.pending, List.countP_cons]
  | miss _ => exact hlocated.of_le le_rfl le_rfl rfl (List.Subset.refl _)
  | @adopt suspended signal hfree hclaim =>
      by_cases hrun : suspended.run = run
      · exact .active (active_concat_pos rfl hrun)
      · have hcount := (List.perm_cons_erase hclaim).countP_eq
          fun claim => decide (claim.1.run = run)
        refine hlocated.of_le (active_le_concat _ run) ?_ rfl
          (List.subset_append_left _ _)
        simpa [Office.pending, List.countP_cons, hrun] using hcount.le
  | cancel other _ =>
      refine hlocated.of_le le_rfl le_rfl ?_ (List.Subset.refl _)
      by_cases hrun : other = run
      · subst hrun
        rw [last?, cancel_ledger hkept]
        rfl
      · rcases office.cancel_cases other with ⟨_, heq⟩ | ⟨_, -, heq⟩ | heq
        · rw [heq]
          rfl
        · rw [heq]
          exact last?_of_ledger rfl hrun
        · rw [heq]
          rfl
  | turn hworker hturn => exact hlocated.turn horderly hworker hturn

end Located

theorem Alive.located (halive : Alive run office) : office.Located run := by
  induction halive with
  | submitted _ _ _ hsubmit =>
      obtain ⟨-, rfl, -⟩ := Manager.submit_eq_ok hsubmit
      exact .active (active_concat_pos rfl rfl)
  | step halive hstep hkept ih =>
      exact ih.step halive.reachable.orderly hstep hkept

/-- However clients, sweeps and legs come between each other: a request to
cancel a run that has been submitted, has neither finished nor been discarded
and is not just being registered by a client finds it, if the store hands out
what was put into it. -/
theorem Alive.cancel_finds (halive : Alive run office)
    (hunfinished : ¬ office.Finished run) (hregistered : office.pending run = 0)
    (hkept : office.last? run = some (.saved run) →
      ∃ suspended, (office.manager.claim run).1 = .ok suspended) :
    (office.manager.cancel run).1 = .ok .signalled ∨
      ∃ event, (office.manager.cancel run).1 = .ok (.discarded event) := by
  have horderly := halive.reachable.orderly
  cases hlive : Assoc.get? office.manager.live run with
  | some token =>
      exact .inl (congrArg Prod.fst (office.manager.cancel_of_live hlive))
  | none =>
      cases halive.located with
      | pending hpos => exact absurd hregistered hpos.ne'
      | finished hfinished => exact absurd hfinished hunfinished
      | active hpos =>
          obtain ⟨worker, hworker, hof⟩ := List.countP_pos_iff.mp hpos
          obtain ⟨hrun, hactive⟩ : worker.task.run = run ∧
              worker.isActive = true := by
            simpa using hof
          obtain ⟨token, htoken⟩ := List.mem_iff_getElem?.mp hworker
          have hlisted := (Bool.and_eq_true_iff.mp hactive).1
          have hfound := horderly.listed_iff.mpr ⟨worker, htoken, hrun, hlisted⟩
          simp [hlive] at hfound
      | saved hsaved =>
          obtain ⟨suspended, hclaim⟩ := hkept hsaved
          exact .inr ⟨_, office.manager.cancel_of_stored hlive hclaim⟩

end Office

/-! ## A run between two places -/

/-- A store of rows cannot change a run that it cannot read. -/
theorem RowStore.faithful_of_unreadable {store : RowStore}
    {suspended : SuspendedRun} {error : Error}
    (hread : (StoredRow.ofRun suspended).read = .error error) :
    LawfulStore.Faithful store suspended := by
  intro offered hoffered
  simp [RowStore.layout, hread] at hoffered

namespace Twice

theorem alive_submitted {σ : Type} [SuspensionStore σ] [LawfulStore σ]
    {store : σ} {inputs : Assoc Json}
    (hreach : (Office.opened .standard store []).Reachable) :
    Office.Alive "run" (submitted store inputs) :=
  .submitted hreach (by simp [Office.Free, Office.opened])
    (by simp [Office.opened]) (submit_eq store inputs)

theorem unfinished_parked {σ : Type} (store : σ) (inputs : Assoc Json) :
    ¬ (parked store inputs).Finished "run" := by
  rintro ⟨worker, hworker, -, result, hsettled, -⟩
  obtain rfl := List.mem_singleton.mp hworker
  cases hsettled

theorem alive_stored : Office.Alive "run" stored :=
  (alive_submitted opened_reachable_memory).of_untaken steps_stored (by decide)

/-- The run that has just been put aside is found in the store. -/
theorem cancel_finds_stored :
    Office.Alive "run" stored ∧ ¬ stored.Finished "run" ∧
      ((stored.manager.cancel "run").1 = .ok .signalled ∨
        ∃ event, (stored.manager.cancel "run").1 = .ok (.discarded event)) := by
  have hunfinished := unfinished_parked (MemoryStore.mk [first []]) []
  exact ⟨alive_stored, hunfinished,
    alive_stored.cancel_finds hunfinished rfl fun _ => ⟨first [], rfl⟩⟩

/-- Inputs that nest deeper than texts may. -/
def nested : Assoc Json :=
  [("item", Draft.nest 130)]

theorem read_nested : (StoredRow.ofRun (first nested)).read =
    .error (.json Wire.Fault.unreadable.message) := by
  have hnumbers : (first nested).toJson.numbers = [.int 2, .int 60] := by
    decide +kernel
  have hlegible : (first nested).toJson.Legible := by
    rw [Json.Legible, hnumbers]
    simpa using ⟨Number.readsBack_int (by decide) (by decide),
      Number.readsBack_int (by decide) (by decide)⟩
  exact StoredRow.read_of_fault hlegible (by decide +kernel)

/-- A client has asked for the run, and its row could not be read. -/
def lost : Office RowStore :=
  parked .empty nested

theorem alive_lost : Office.Alive "run" lost := by
  have hopened : (Office.opened .standard RowStore.empty []).Reachable := by
    refine opened_reachable (fun _ => rfl) ?_
    rintro run offered ⟨_, hkept, -⟩
    cases hkept
  have hsteps : Office.Steps (submitted RowStore.empty nested)
      (parked (RowStore.empty.save (first nested)) nested) :=
    steps_parked nested rfl
      (@RowStore.faithful_of_unreadable .empty _ _ read_nested)
  have halive := (alive_submitted hopened).of_untaken hsteps (by decide)
  have htake : SuspensionStore.take (RowStore.empty.save (first nested)) "run" =
      (.error (.json Wire.Fault.unreadable.message), RowStore.empty) :=
    RowStore.take_save_of_unreadable read_nested
  have hclaim : (parked (RowStore.empty.save (first nested)) nested).manager.claim
      "run" = (.error (.json Wire.Fault.unreadable.message), lost.manager) :=
    Manager.claim_eq _ htake
  have hmiss := Office.Step.miss (congrArg Prod.fst hclaim)
  rw [hclaim] at hmiss
  refine halive.step hmiss fun hdiscards => ?_
  simpa [lost, parked] using hdiscards.taken

/-- In between the two steps of a resumption the run is in neither place, and a
run whose row cannot be read is gone once it is asked for. -/
theorem cancel_misses :
    (Office.Alive "run" claimed ∧ ¬ claimed.Finished "run" ∧ claimed.Free ∧
      (claimed.manager.cancel "run").1 = .ok .notFound) ∧
    Office.Alive "run" lost ∧ ¬ lost.Finished "run" ∧ lost.Free ∧
      lost.pending "run" = 0 ∧ (lost.manager.cancel "run").1 = .ok .notFound := by
  refine ⟨⟨alive_stored.step claim_stored ?_, ?_, free_of_workers rfl, rfl⟩,
    alive_lost, unfinished_parked _ _, free_of_workers rfl, rfl, rfl⟩
  · rintro ⟨heq, -⟩
    cases congrArg Office.claims heq
  · exact unfinished_parked (MemoryStore.mk [first []]) []

end Twice

end Workflow
