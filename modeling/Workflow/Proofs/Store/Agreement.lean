import Workflow.Proofs.Clock.Instant
import Workflow.Proofs.Manager.Store
import Workflow.Proofs.Store.Restart

/-!
# Two stores and the time

A store of rows selects and sorts by texts, a store of the runs themselves by
instants.  After the same calls the rows are those of the runs
(`performAll_ofRuns`), whatever the calls are, so the two can only differ in
how they compare times and in rows that cannot be read back.  The texts have
six digits after the second and four for the year; within these limits the
stores agree (`stores_agree`), beyond them they do not (`Far.stores_differ`).
-/

namespace Workflow

/-- A call that changes what a store keeps. -/
inductive StoreCall where
  | save (suspended : SuspendedRun)
  | take (run : RunId)
  | remove (run : RunId)

namespace StoreCall

section Perform

variable {σ : Type} [SuspensionStore σ]

/-- The store after a call. -/
def perform (store : σ) : StoreCall → σ
  | save suspended =>
    match SuspensionStore.save store suspended with
    | .ok next => next
    | .error _ => store
  | take run => (SuspensionStore.take store run).2
  | remove run => (SuspensionStore.remove store run).2

def performAll (calls : List StoreCall) (store : σ) : σ :=
  calls.foldl perform store

end Perform

end StoreCall

/-! ## The rows of a store of runs -/

namespace RowStore

/-- The rows of a store of runs. -/
def ofRuns (memory : MemoryStore) : RowStore :=
  ⟨memory.runs.map StoredRow.ofRun⟩

variable {memory : MemoryStore} {run : RunId} {suspended : SuspendedRun}

theorem erase_ofRuns :
    (ofRuns memory).erase run = ofRuns (memory.erase run) := by
  simp only [ofRuns, erase, MemoryStore.erase, List.filter_map]
  rfl

theorem save_ofRuns :
    (ofRuns memory).save suspended = ofRuns (memory.save suspended) := by
  rw [save, erase_ofRuns]
  simp [ofRuns, MemoryStore.save]

end RowStore

namespace StoreCall

variable {memory : MemoryStore}

/-- A call changes the rows as it changes the runs. -/
theorem perform_ofRuns (call : StoreCall) :
    perform (RowStore.ofRuns memory) call =
      RowStore.ofRuns (perform memory call) := by
  cases call with
  | save suspended => exact RowStore.save_ofRuns
  | take run =>
      have hrows : ((RowStore.ofRuns memory).take run).2 =
          (RowStore.ofRuns memory).erase run :=
        congrArg Prod.snd RowStore.take_eq
      have hruns : (memory.take run).2 = memory.erase run :=
        congrArg Prod.snd MemoryStore.take_eq
      exact hrows.trans (RowStore.erase_ofRuns.trans
        (congrArg RowStore.ofRuns hruns.symm))
  | remove run => exact RowStore.erase_ofRuns

theorem performAll_ofRuns (calls : List StoreCall) :
    performAll calls (RowStore.ofRuns memory) =
      RowStore.ofRuns (performAll calls memory) := by
  induction calls generalizing memory with
  | nil => rfl
  | cons call calls ih =>
      simp only [performAll, List.foldl_cons] at ih ⊢
      rw [perform_ofRuns, ih]

end StoreCall

/-! ## Rows that can be read -/

/-- What the row of a run is read as, up to a last output that is `null`. -/
def SuspendedRun.ReadsBack (suspended : SuspendedRun) : Prop :=
  ∃ restored, (StoredRow.ofRun suspended).read = .ok restored ∧
    suspended.Restored True restored

theorem SuspendedRun.readsBack {suspended : SuspendedRun}
    (hstorable : suspended.Storable)
    (hsteps : suspended.context.steps < Width.span 64)
    (hreadable : suspended.Readable) : suspended.ReadsBack :=
  ⟨suspended.restored, StoredRow.read_ofRun hstorable hsteps hreadable,
    suspended.restored_restored⟩

/-- What the row of a run is read as. -/
def SuspendedRun.ReadAs (suspended restored : SuspendedRun) : Prop :=
  (StoredRow.ofRun suspended).read = .ok restored ∧
    suspended.Restored True restored

/-- Rows that can be read are read one after the other. -/
theorem RowStore.exists_readAll (runs : List SuspendedRun)
    (hreads : ∀ suspended ∈ runs, suspended.ReadsBack) :
    ∃ restored, readAll (runs.map StoredRow.ofRun) = .ok restored ∧
      List.Forall₂ SuspendedRun.ReadAs runs restored := by
  induction runs with
  | nil => exact ⟨[], rfl, .nil⟩
  | cons suspended runs ih =>
      obtain ⟨hread, hreads⟩ := List.forall_mem_cons.mp hreads
      obtain ⟨first, hfirst, hrestored⟩ := hread
      obtain ⟨rest, hrest, hall⟩ := ih hreads
      refine ⟨first :: rest, ?_, .cons ⟨hfirst, hrestored⟩ hall⟩
      simp [readAll, hfirst, hrest, Except.map]

theorem RowStore.readAll_ofRun (runs : List SuspendedRun)
    (hreads : ∀ suspended ∈ runs, suspended.ReadsBack) :
    ∃ restored, readAll (runs.map StoredRow.ofRun) = .ok restored ∧
      List.Forall₂ (SuspendedRun.Restored True) runs restored := by
  obtain ⟨restored, hread, hall⟩ := exists_readAll runs hreads
  exact ⟨restored, hread, hall.imp fun _ _ hreadAs => hreadAs.2⟩

/-! ## Times within the limits of their texts -/

namespace Instant

/-- A time that its text can tell: a year of four digits. -/
structure Datable (at_ : Instant) : Prop where
  valid : at_.Valid
  fourDigits : at_.FourDigits

theorem renderMicros_le_iff {at_ later : Instant} (hat : at_.Datable)
    (hlater : later.Datable) :
    at_.renderMicros ≤ later.renderMicros ↔ ¬ later.MicrosBefore at_ :=
  not_congr (renderMicros_lt_iff hlater.valid hat.valid hlater.fourDigits
    hat.fourDigits)

theorem not_microsBefore_of_le {at_ later : Instant}
    (hle : at_.le later = true) : ¬ later.MicrosBefore at_ := by
  simp only [le, Bool.or_eq_true, Bool.and_eq_true, decide_eq_true_eq] at hle
  unfold MicrosBefore
  omega

/-- Texts tell whether one time is after another. -/
def Apart (at_ other : Instant) : Prop :=
  ¬ other.MicrosBefore at_ → at_.le other = true

end Instant

/-- A run whose times its row can tell. -/
structure SuspendedRun.Datable (suspended : SuspendedRun) : Prop where
  suspendedAt : suspended.suspendedAt.Datable
  expiresAt : ∀ deadline ∈ suspended.expiresAt, deadline.Datable

namespace RowStore

variable {runs : List SuspendedRun} {now : Instant}

/-- A row is due once its deadline is not after the instant up to the
microsecond. -/
theorem isDue_ofRun_iff {suspended : SuspendedRun} (hnow : now.Datable)
    (hdeadline : ∀ deadline ∈ suspended.expiresAt, deadline.Datable) :
    isDue now.renderMicros (StoredRow.ofRun suspended) = true ↔
      ∃ deadline ∈ suspended.expiresAt, ¬ now.MicrosBefore deadline := by
  simp only [isDue, StoredRow.ofRun, Option.any_map, Option.any_eq_true,
    decide_eq_true_eq]
  refine exists_congr fun deadline => and_congr_right fun hmem => ?_
  exact Instant.renderMicros_le_iff (hdeadline deadline hmem) hnow

/-- Texts that tell the deadlines and the instant apart select the runs whose
time is over. -/
theorem filter_isDue (hnow : now.Datable)
    (hdatable : ∀ suspended ∈ runs, suspended.Datable)
    (hapart : ∀ suspended ∈ runs, ∀ deadline ∈ suspended.expiresAt,
      deadline.Apart now) :
    (runs.map StoredRow.ofRun).filter (isDue now.renderMicros) =
      (runs.filter (·.isExpired now)).map StoredRow.ofRun := by
  rw [List.filter_map]
  refine congrArg (List.map StoredRow.ofRun) (List.filter_congr ?_)
  intro suspended hmem
  rw [Bool.eq_iff_iff, Function.comp_apply,
    isDue_ofRun_iff hnow (hdatable suspended hmem).expiresAt]
  simp only [SuspendedRun.isExpired, Option.any_eq_true]
  refine exists_congr fun deadline => and_congr_right fun hdeadline => ?_
  exact ⟨hapart suspended hmem deadline hdeadline,
    Instant.not_microsBefore_of_le⟩

/-- The due rows are those of the runs whose time is over, in some order. -/
theorem expired_ofRuns (hnow : now.Datable)
    (hdatable : ∀ suspended ∈ runs, suspended.Datable)
    (hapart : ∀ suspended ∈ runs, ∀ deadline ∈ suspended.expiresAt,
      deadline.Apart now) :
    ∃ due : List SuspendedRun,
      due.Perm (runs.filter (·.isExpired now)) ∧
        (ofRuns ⟨runs⟩).expired now = readAll (due.map StoredRow.ofRun) := by
  let byDeadline (a b : SuspendedRun) : Bool :=
    (StoredRow.ofRun a).expiresAt.getD "" ≤ (StoredRow.ofRun b).expiresAt.getD ""
  refine ⟨(runs.filter (·.isExpired now)).mergeSort byDeadline,
    List.mergeSort_perm _ _, ?_⟩
  -- Sorting the runs by the texts of their deadlines sorts their rows.
  unfold expired
  rw [ofRuns, filter_isDue hnow hdatable hapart]
  refine congrArg readAll (List.map_mergeSort ?_).symm
  intro _ _ _ _
  rfl

/-- Texts that tell the times of suspension apart sort the rows as the runs
are sorted. -/
theorem list_ofRuns (hdatable : ∀ suspended ∈ runs, suspended.Datable)
    (hapart : ∀ suspended ∈ runs, ∀ other ∈ runs,
      suspended.suspendedAt.Apart other.suspendedAt) :
    (ofRuns ⟨runs⟩).list =
      readAll ((MemoryStore.mk runs).list.map StoredRow.ofRun) := by
  unfold list MemoryStore.list
  rw [ofRuns]
  refine congrArg readAll (List.map_mergeSort ?_).symm
  intro suspended hmem other hother
  rw [Bool.eq_iff_iff, decide_eq_true_eq]
  simp only [StoredRow.ofRun]
  rw [Instant.renderMicros_le_iff (hdatable _ hmem).suspendedAt
    (hdatable _ hother).suspendedAt]
  exact ⟨Instant.not_microsBefore_of_le, hapart _ hmem _ hother⟩

end RowStore

namespace MemoryStore

/-- The runs are listed in the order of their suspension. -/
theorem list_sorted (store : MemoryStore) :
    store.list.Perm store.runs ∧
      store.list.Pairwise (·.suspendedAt.le ·.suspendedAt) := by
  refine ⟨List.mergeSort_perm _ _, List.pairwise_mergeSort ?_ ?_ _⟩
  · intro a b c
    simp only [Instant.le, Bool.or_eq_true, Bool.and_eq_true,
      decide_eq_true_eq]
    omega
  · intro a b
    simp only [Instant.le, Bool.or_eq_true, Bool.and_eq_true,
      decide_eq_true_eq]
    omega

end MemoryStore

/-- After the same calls a store of rows and a store of the runs themselves
agree: on the runs whose time is over, and on all runs in the order of their
suspension.  Every row has to be readable, every time needs a year of four
digits, and no two times that are compared may differ by less than the
microseconds of their texts. -/
theorem StoreCall.stores_agree {calls : List StoreCall} {now : Instant}
    {memory : MemoryStore} {rows : RowStore}
    (hmemory : memory = performAll calls MemoryStore.empty)
    (hrows : rows = performAll calls RowStore.empty)
    (hreads : ∀ suspended ∈ memory.runs, suspended.ReadsBack)
    (hdatable : ∀ suspended ∈ memory.runs, suspended.Datable)
    (hnow : now.Datable)
    (hdeadlines : ∀ suspended ∈ memory.runs,
      ∀ deadline ∈ suspended.expiresAt, deadline.Apart now)
    (hsuspensions : ∀ suspended ∈ memory.runs, ∀ other ∈ memory.runs,
      suspended.suspendedAt.Apart other.suspendedAt) :
    (∃ due expired,
      due.Perm (memory.runs.filter (·.isExpired now)) ∧
        SuspensionStore.expired memory now =
          .ok (memory.list.filter (·.isExpired now)) ∧
        SuspensionStore.expired rows now = .ok expired ∧
        List.Forall₂ (SuspendedRun.Restored True) due expired) ∧
      memory.list.Perm memory.runs ∧
      memory.list.Pairwise (·.suspendedAt.le ·.suspendedAt) ∧
      ∃ listed,
        SuspensionStore.list memory = .ok memory.list ∧
          SuspensionStore.list rows = .ok listed ∧
          List.Forall₂ (SuspendedRun.Restored True) memory.list listed := by
  obtain rfl : rows = RowStore.ofRuns memory := by
    rw [hrows, hmemory, ← performAll_ofRuns]
    rfl
  obtain ⟨hperm, hsorted⟩ := memory.list_sorted
  obtain ⟨due, hdue, hexpired⟩ :=
    RowStore.expired_ofRuns hnow hdatable hdeadlines
  obtain ⟨expired, hread, hall⟩ := RowStore.readAll_ofRun due
    fun suspended hmem =>
      hreads suspended (List.mem_of_mem_filter (hdue.subset hmem))
  obtain ⟨listed, hlisted, hforall⟩ := RowStore.readAll_ofRun
    memory.list fun suspended hmem =>
      hreads suspended (hperm.subset hmem)
  exact ⟨⟨due, expired, hdue, rfl, hexpired.trans hread, hall⟩, hperm, hsorted,
    listed, rfl,
    (RowStore.list_ofRuns hdatable hsuspensions).trans hlisted, hforall⟩

/-! ## Near and far deadlines -/

namespace Far

/-- A run that waits until a deadline. -/
def waitingUntil (deadline : Instant) : SuspendedRun where
  run := "run"
  graph := Draft.graph
  context := .ofInputs []
  cursor := "ask"
  prompt := "Go on?"
  suspendedAt := ⟨0, 0⟩
  expiresAt := some deadline
  onTimeout := .reject

/-- One minute into 1970. -/
def soon : Instant := ⟨60, 0⟩

/-- The start of the year 10000. -/
def late : Instant := ⟨253402300800, 0⟩

theorem datable_suspendedAt : Instant.Datable ⟨0, 0⟩ where
  valid := ⟨by decide, by decide, .inl (by decide)⟩
  fourDigits := ⟨by decide, by decide⟩

theorem datable_soon : soon.Datable where
  valid := ⟨by decide, by decide, .inl (by decide)⟩
  fourDigits := ⟨by decide, by decide⟩

theorem valid_late : late.Valid :=
  ⟨by decide, by decide, .inl (by decide)⟩

theorem storable {deadline : Instant} (hvalid : deadline.Valid) :
    (waitingUntil deadline).Storable where
  graph := Draft.graph_storable
  context := .ofInputs (Json.canonical_record.mpr (by simp))
  suspendedAt := datable_suspendedAt.valid
  expiresAt := by
    intro later hmem
    exact Option.some.inj hmem ▸ hvalid

theorem readable_soon : (waitingUntil soon).Readable :=
  ⟨SuspendedRun.legible_of_numbers (by decide +kernel) (by decide),
    by decide +kernel⟩

theorem readable_late : (waitingUntil late).Readable :=
  ⟨SuspendedRun.legible_of_numbers (by decide +kernel) (by decide),
    by decide +kernel⟩

/-- The run is saved, and another one is asked for. -/
def memory : MemoryStore :=
  StoreCall.performAll [.save (waitingUntil soon), .take "other"] .empty

def rows : RowStore :=
  StoreCall.performAll [.save (waitingUntil soon), .take "other"] .empty

theorem forall_runs {P : SuspendedRun → Prop} (hrun : P (waitingUntil soon)) :
    ∀ suspended ∈ memory.runs, P suspended := by
  have hruns : memory.runs = [waitingUntil soon] := by decide +kernel
  simpa [hruns] using hrun

/-- At the deadline both stores list the run, once as due and once at all. -/
theorem stores_agree_soon :
    (∃ due expired,
      due.Perm (memory.runs.filter (·.isExpired soon)) ∧
        SuspensionStore.expired memory soon =
          .ok (memory.list.filter (·.isExpired soon)) ∧
        SuspensionStore.expired rows soon = .ok expired ∧
        List.Forall₂ (SuspendedRun.Restored True) due expired) ∧
      memory.list.Perm memory.runs ∧
      memory.list.Pairwise (·.suspendedAt.le ·.suspendedAt) ∧
      ∃ listed,
        SuspensionStore.list memory = .ok memory.list ∧
          SuspensionStore.list rows = .ok listed ∧
          List.Forall₂ (SuspendedRun.Restored True) memory.list listed := by
  have hreads : (waitingUntil soon).ReadsBack :=
    SuspendedRun.readsBack (storable datable_soon.valid) (by decide) readable_soon
  have hdeadline {P : Instant → Prop} (hsoon : P soon) :
      ∀ deadline ∈ (waitingUntil soon).expiresAt, P deadline := by
    intro deadline hmem
    exact Option.some.inj hmem ▸ hsoon
  have hapart (at_ : Instant) : at_.Apart at_ := by
    simp [Instant.Apart, Instant.le]
  exact StoreCall.stores_agree rfl rfl (forall_runs hreads)
    (forall_runs ⟨datable_suspendedAt, hdeadline datable_soon⟩) datable_soon
    (forall_runs (hdeadline (hapart soon)))
    (forall_runs (forall_runs (hapart _)))

/-- At the start of 1970 a deadline in the year 10000 has passed for the rows,
whose texts order `+` before the digits, and not for the runs. -/
theorem stores_differ :
    (waitingUntil late).isExpired ⟨0, 0⟩ = false ∧
      SuspensionStore.expired
        (StoreCall.performAll [.save (waitingUntil late)] MemoryStore.empty) ⟨0, 0⟩ =
          .ok [] ∧
      SuspensionStore.expired
        (StoreCall.performAll [.save (waitingUntil late)] RowStore.empty) ⟨0, 0⟩ =
          .ok [waitingUntil late] := by
  have hread : (StoredRow.ofRun (waitingUntil late)).read = .ok (waitingUntil late) :=
    StoredRow.read_ofRun (storable valid_late) (by decide) readable_late
  have hdue : RowStore.isDue (Instant.renderMicros ⟨0, 0⟩)
      (StoredRow.ofRun (waitingUntil late)) = true := by
    decide +kernel
  refine ⟨by decide, by decide +kernel, ?_⟩
  change RowStore.readAll
    ((List.filter _ [StoredRow.ofRun (waitingUntil late)]).mergeSort _) = _
  rw [List.filter_cons_of_pos hdue, List.filter_nil, List.mergeSort_singleton,
    RowStore.readAll, hread]
  rfl

end Far

end Workflow
