import Workflow.Proofs.Store.Listing
import Workflow.Proofs.Store.Take
import Workflow.Run.Manager

/-!
# Sweeps over rows

A sweep lists the runs whose time for an answer is over and resumes one after
the other.  Where the rows of all of them can be read, each is resumed by a leg
of its own and by what was decided for that case, and all other rows stay as
they are, readable or not.  The listing reads every overdue row before the
first run is resumed, so a single one that cannot be read keeps the sweep from
doing anything (`StoreCall.sweep_resumes_overdue`).  It stays in the store, and
so the next sweep comes to the same (`Overdue.sweep_blocked`).
-/

namespace Workflow

theorem SuspendedRun.Restored.timeoutSignal_eq {drops : Prop}
    {suspended restored : SuspendedRun}
    (hrestored : suspended.Restored drops restored) :
    Manager.timeoutSignal restored = Manager.timeoutSignal suspended := by
  cases hrestored <;> rfl

/-- A leg that resumes a run by what is decided when nobody answers in time. -/
structure Task.TimesOut (task : Task) (suspended : SuspendedRun) : Prop where
  run_eq : task.run = suspended.run
  claimed : ∃ restored, suspended.Restored True restored ∧
    task.stage = .claimed restored (Manager.timeoutSignal suspended)

/-! ## Resuming what was listed -/

namespace Manager

variable {manager : Manager RowStore} {memory : MemoryStore}
variable {suspended restored : SuspendedRun}

theorem resume_ofRuns (hstore : manager.store = .ofRuns memory)
    (hdistinct : memory.Distinct) (hmem : suspended ∈ memory.runs)
    (hread : suspended.ReadAs restored) :
    manager.resume (timeoutSignal suspended) =
      (.ok ⟨suspended.run, manager.issued,
          .claimed restored (timeoutSignal suspended)⟩,
        { manager with
          store := .ofRuns (memory.erase suspended.run)
          live := Assoc.insert manager.live suspended.run manager.issued
          issued := manager.issued + 1 }) := by
  have htake : SuspensionStore.take manager.store suspended.run =
      (.ok restored, .ofRuns (memory.erase suspended.run)) := by
    rw [hstore, ← hread.1]
    exact RowStore.take_ofRuns hdistinct hmem
  simp only [resume, claim, timeoutSignal, htake, adopt, register,
    hread.2.run_eq]

/-- What a manager comes to that resumes overdue runs, each once: their legs
are in the table, and in the store is what is left of the runs. -/
structure Swept (manager : Manager RowStore) (left overdue : List SuspendedRun)
    (tasks : List Task) (later : Manager RowStore) : Prop where
  resumed : List.Forall₂ Task.TimesOut tasks overdue
  once : (tasks.map (·.run)).Nodup
  live : ∀ task ∈ tasks,
    Assoc.get? later.live task.run = some task.token
  others : ∀ run ∉ tasks.map (·.run),
    Assoc.get? later.live run = Assoc.get? manager.live run
  store_eq : later.store = .ofRuns ⟨left⟩

theorem map_run_of_timesOut {tasks : List Task} {overdue : List SuspendedRun}
    (htimes : List.Forall₂ Task.TimesOut tasks overdue) :
    tasks.map (·.run) = overdue.map (·.run) := by
  induction htimes with
  | nil => rfl
  | cons hfirst _ ih => rw [List.map_cons, List.map_cons, hfirst.run_eq, ih]

/-- Where all listed runs are in the store and can be read, they are resumed
one after the other. -/
theorem resumeAll_ofRuns {overdue listed : List SuspendedRun}
    (hlisted : List.Forall₂ SuspendedRun.ReadAs overdue listed)
    (hstore : manager.store = .ofRuns memory) (hdistinct : memory.Distinct)
    (hmem : ∀ suspended ∈ overdue, suspended ∈ memory.runs)
    (honce : (overdue.map (·.run)).Nodup) (before : List Task) :
    ∃ tasks later, manager.resumeAll before listed =
        (none, before ++ tasks, later) ∧
      manager.Swept (memory.runs.filter (·.run ∉ overdue.map (·.run)))
        overdue tasks later := by
  induction hlisted generalizing manager memory before with
  | nil =>
      refine ⟨[], manager, by simp [resumeAll], .nil, by simp, by simp,
        fun _ _ => rfl, ?_⟩
      simpa using hstore
  | @cons suspended restored overdue listed hread _ ih =>
      obtain ⟨hfirst, hmem⟩ := List.forall_mem_cons.mp hmem
      obtain ⟨hfresh, honce⟩ := List.nodup_cons.mp honce
      have hresume := resume_ofRuns hstore hdistinct hfirst hread
      set next : Manager RowStore := { manager with
        store := .ofRuns (memory.erase suspended.run)
        live := Assoc.insert manager.live suspended.run manager.issued
        issued := manager.issued + 1 }
      set task : Task := ⟨suspended.run, manager.issued,
        .claimed restored (timeoutSignal suspended)⟩
      -- The other runs are still there.
      have hothers : ∀ other ∈ overdue,
          other ∈ (memory.erase suspended.run).runs := by
        intro other hother
        refine MemoryStore.mem_erase_iff.mpr ⟨hmem other hother, ?_⟩
        exact fun hrun => hfresh (List.mem_map.mpr ⟨other, hother, hrun⟩)
      have hleft : next.store = .ofRuns (memory.erase suspended.run) := rfl
      obtain ⟨tasks, later, hall, hswept⟩ := ih hleft
        (hdistinct.erase suspended.run) hothers honce (before ++ [task])
      have hruns := map_run_of_timesOut hswept.resumed
      refine ⟨task :: tasks, later, ?_, ?_⟩
      · rw [resumeAll, hread.2.timeoutSignal_eq, hresume]
        simpa using hall
      · exact {
          resumed := .cons ⟨rfl, restored, hread.2, rfl⟩ hswept.resumed
          once := by
            rw [List.map_cons, List.nodup_cons, hruns]
            exact ⟨hfresh, honce⟩
          live := by
            refine List.forall_mem_cons.mpr ⟨?_, hswept.live⟩
            rw [hswept.others _ (hruns ▸ hfresh)]
            exact Assoc.get?_insert_self _ _ _
          others := by
            intro run hrun
            rw [List.map_cons, List.mem_cons, not_or] at hrun
            rw [hswept.others run hrun.2]
            exact Assoc.get?_insert_of_ne _ _ hrun.1
          store_eq := by
            rw [hswept.store_eq]
            simp [MemoryStore.erase, List.filter_filter, Bool.and_comm] }

end Manager

/-! ## What a sweep comes to -/

namespace MemoryStore

variable {memory : MemoryStore} {overdue : List SuspendedRun}

/-- What is left when runs are taken out by their ids. -/
theorem Distinct.filter_not_mem (hdistinct : memory.Distinct)
    {p : SuspendedRun → Bool}
    (hoverdue : overdue.Perm (memory.runs.filter p)) :
    memory.runs.filter (·.run ∉ overdue.map (·.run)) =
      memory.runs.filter (!p ·) := by
  refine List.filter_congr fun suspended hmem => ?_
  rw [Bool.eq_iff_iff, decide_eq_true_eq, Bool.not_eq_true', ← Bool.not_eq_true]
  refine not_congr ⟨fun hrun => ?_, fun hp => ?_⟩
  · obtain ⟨other, hother, hsame⟩ := List.mem_map.mp hrun
    obtain ⟨hkept, hp⟩ := List.mem_filter.mp (hoverdue.subset hother)
    exact List.inj_on_of_nodup_map hdistinct hkept hmem hsame ▸ hp
  · exact List.mem_map_of_mem
      (hoverdue.symm.subset (List.mem_filter.mpr ⟨hmem, hp⟩))

end MemoryStore

namespace Manager

variable {manager : Manager RowStore} {memory : MemoryStore}
variable {now : Instant}

section limits

/-! Every time needs a year of four digits, and no deadline may be after the
sweep by less than the microseconds of their texts. -/

variable (hstore : manager.store = .ofRuns memory)
variable (hdatable : ∀ suspended ∈ memory.runs, suspended.Datable)
variable (hnow : now.Datable)
variable (hdeadlines : ∀ suspended ∈ memory.runs,
  ∀ deadline ∈ suspended.expiresAt, deadline.Apart now)

include hstore hdatable hnow hdeadlines

/-- A sweep goes by the runs whose time is over. -/
theorem exists_listing :
    ∃ overdue : List SuspendedRun,
      overdue.Perm (memory.runs.filter (·.isExpired now)) ∧
        SuspensionStore.expired manager.store now =
          RowStore.readAll (overdue.map StoredRow.ofRun) := by
  rw [hstore]
  exact RowStore.expired_ofRuns hnow hdatable hdeadlines

theorem sweep_of_readable (hdistinct : memory.Distinct)
    (hreads : ∀ suspended ∈ memory.runs, suspended.isExpired now = true →
      suspended.ReadsBack) :
    ∃ overdue tasks later, manager.sweep now = (none, tasks, later) ∧
      overdue.Perm (memory.runs.filter (·.isExpired now)) ∧
      manager.Swept (memory.runs.filter (!·.isExpired now)) overdue tasks
        later := by
  obtain ⟨overdue, hperm, hlisting⟩ :=
    exists_listing hstore hdatable hnow hdeadlines
  have hmem : ∀ suspended ∈ overdue, suspended ∈ memory.runs ∧
      suspended.isExpired now = true := fun suspended hmem =>
    List.mem_filter.mp (hperm.subset hmem)
  obtain ⟨listed, hread, hlisted⟩ := RowStore.exists_readAll overdue
    fun suspended hdue =>
      hreads suspended (hmem suspended hdue).1 (hmem suspended hdue).2
  have honce : (overdue.map (·.run)).Nodup :=
    (hperm.map _).nodup_iff.mpr (hdistinct.sublist (List.filter_sublist.map _))
  obtain ⟨tasks, later, hall, hswept⟩ := resumeAll_ofRuns hlisted hstore
    hdistinct (fun suspended hdue => (hmem suspended hdue).1) honce []
  rw [hdistinct.filter_not_mem hperm] at hswept
  refine ⟨overdue, tasks, later, ?_, hperm, hswept⟩
  simpa [sweep, hlisting, hread] using hall

theorem sweep_of_unreadable {suspended : SuspendedRun} {error : Error}
    (hmem : suspended ∈ memory.runs) (hdue : suspended.isExpired now = true)
    (hread : (StoredRow.ofRun suspended).read = .error error) :
    ∃ error, manager.sweep now = (some error, [], manager) := by
  obtain ⟨overdue, hperm, hlisting⟩ :=
    exists_listing hstore hdatable hnow hdeadlines
  have hoverdue : StoredRow.ofRun suspended ∈ overdue.map StoredRow.ofRun :=
    List.mem_map_of_mem
      (hperm.symm.subset (List.mem_filter.mpr ⟨hmem, hdue⟩))
  obtain ⟨error, hfailed⟩ := RowStore.readAll_of_error hoverdue hread
  exact ⟨error, by simp [sweep, hlisting, hfailed]⟩

end limits

end Manager

/-- After any calls, whatever rows they leave: a sweep resumes every overdue
run once, by what was decided for that case, and lets all other rows be, if
the rows of the overdue runs can be read; and it does nothing at all if one of
these cannot be read. -/
theorem StoreCall.sweep_resumes_overdue {calls : List StoreCall} {now : Instant}
    {memory : MemoryStore} {manager : Manager RowStore}
    (hmemory : memory = performAll calls MemoryStore.empty)
    (hrows : manager.store = performAll calls RowStore.empty)
    (hdatable : ∀ suspended ∈ memory.runs, suspended.Datable)
    (hnow : now.Datable)
    (hdeadlines : ∀ suspended ∈ memory.runs,
      ∀ deadline ∈ suspended.expiresAt, deadline.Apart now) :
    ((∀ suspended ∈ memory.runs, suspended.isExpired now = true →
        suspended.ReadsBack) →
      ∃ overdue tasks later, manager.sweep now = (none, tasks, later) ∧
        overdue.Perm (memory.runs.filter (·.isExpired now)) ∧
        manager.Swept (memory.runs.filter (!·.isExpired now)) overdue tasks
          later) ∧
    ((∃ suspended ∈ memory.runs, suspended.isExpired now = true ∧
        ∃ error, (StoredRow.ofRun suspended).read = .error error) →
      ∃ error, manager.sweep now = (some error, [], manager)) := by
  have hstore : manager.store = .ofRuns memory := by
    rw [hrows, hmemory, ← performAll_ofRuns]
    rfl
  refine ⟨fun hreads => ?_, ?_⟩
  · exact Manager.sweep_of_readable hstore hdatable hnow hdeadlines
      (hmemory ▸ distinct_performAll calls List.nodup_nil) hreads
  · rintro ⟨suspended, hmem, hdue, error, hread⟩
    exact Manager.sweep_of_unreadable hstore hdatable hnow hdeadlines hmem hdue
      hread

/-! ## A row that nests too deep -/

namespace Overdue

open Far (soon waitingUntil)

/-- A run with a value that nests deeper than texts may. -/
def nested (deadline : Option Instant) : SuspendedRun :=
  { Draft.deep with run := "nested", expiresAt := deadline }

theorem read_nested {deadline : Option Instant}
    (hdeadline : deadline = none ∨ deadline = some soon) :
    (StoredRow.ofRun (nested deadline)).read =
      .error (.json Wire.Fault.unreadable.message) := by
  rcases hdeadline with rfl | rfl
  · exact StoredRow.read_of_fault
      (SuspendedRun.legible_of_numbers (by decide +kernel) (by decide))
      (by decide +kernel)
  · exact StoredRow.read_of_fault
      (SuspendedRun.legible_of_numbers (by decide +kernel) (by decide))
      (by decide +kernel)

/-- The deep run and one that waits for a minute are put aside. -/
def calls (deadline : Option Instant) : List StoreCall :=
  [.save (nested deadline), .save (waitingUntil soon)]

def memory (deadline : Option Instant) : MemoryStore :=
  StoreCall.performAll (calls deadline) .empty

def manager (deadline : Option Instant) : Manager RowStore :=
  .create .standard (StoreCall.performAll (calls deadline) .empty)

theorem runs_eq (deadline : Option Instant) :
    (memory deadline).runs = [nested deadline, waitingUntil soon] := rfl

theorem forall_runs {deadline : Option Instant} {P : SuspendedRun → Prop}
    (hnested : P (nested deadline)) (hwaiting : P (waitingUntil soon)) :
    ∀ suspended ∈ (memory deadline).runs, P suspended := by
  simp [runs_eq, hnested, hwaiting]

theorem readsBack_waiting : (waitingUntil soon).ReadsBack :=
  SuspendedRun.readsBack (Far.storable Far.datable_soon.valid) (by decide)
    Far.readable_soon

section limits

variable {deadline : Option Instant}
variable (hdeadline : deadline = none ∨ deadline = some soon)

include hdeadline

theorem eq_soon_of_mem :
    ∀ suspended ∈ (memory deadline).runs,
      ∀ later ∈ suspended.expiresAt, later = soon := by
  refine forall_runs ?_ ?_
  · rcases hdeadline with rfl | rfl <;> simp [nested]
  · simp [waitingUntil]

theorem datable_runs :
    ∀ suspended ∈ (memory deadline).runs, suspended.Datable := by
  intro suspended hmem
  refine ⟨forall_runs (P := (·.suspendedAt.Datable)) ?_ ?_ suspended hmem, ?_⟩
  · exact Far.datable_suspendedAt
  · exact Far.datable_suspendedAt
  · rintro later hlater
    exact eq_soon_of_mem hdeadline suspended hmem later hlater ▸ Far.datable_soon

theorem apart_soon :
    ∀ suspended ∈ (memory deadline).runs,
      ∀ later ∈ suspended.expiresAt, later.Apart soon := by
  intro suspended hmem later hlater
  rw [eq_soon_of_mem hdeadline suspended hmem later hlater]
  simp [Instant.Apart, Instant.le]

end limits

/-- As long as the run that cannot be read is not overdue, it keeps nobody
waiting, and stays where it is. -/
theorem sweep_resumes_waiting :
    ∃ tasks later, (manager none).sweep soon = (none, tasks, later) ∧
      (manager none).Swept [nested none] [waitingUntil soon] tasks later := by
  have hsweep := @StoreCall.sweep_resumes_overdue (calls none) soon
    (memory none) (manager none) rfl rfl
    (datable_runs (.inl rfl)) Far.datable_soon (apart_soon (.inl rfl))
  obtain ⟨overdue, tasks, later, hsweep, hperm, hswept⟩ := hsweep.1
    (forall_runs (fun hdue => absurd hdue (by decide))
      fun _ => readsBack_waiting)
  have hoverdue : overdue = [waitingUntil soon] := List.perm_singleton.mp hperm
  have hleft : (memory none).runs.filter (!·.isExpired soon) = [nested none] :=
    rfl
  rw [hoverdue, hleft] at hswept
  exact ⟨tasks, later, hsweep, hswept⟩

/-- Once it is overdue, no other run is resumed: the sweep fails, nothing is
taken out of the store, and the next sweep finds the same. -/
theorem sweep_blocked :
    waitingUntil soon ∈ (memory (some soon)).runs ∧
      (manager (some soon)).store = .ofRuns (memory (some soon)) ∧
      (waitingUntil soon).isExpired soon = true ∧
      (waitingUntil soon).ReadsBack ∧
      ∃ error, (manager (some soon)).sweep soon =
        (some error, [], manager (some soon)) := by
  have hstore : (manager (some soon)).store = .ofRuns (memory (some soon)) :=
    rfl
  have hnested : nested (some soon) ∈ (memory (some soon)).runs := by
    simp [runs_eq]
  refine ⟨by simp [runs_eq], hstore, by decide, readsBack_waiting, ?_⟩
  exact Manager.sweep_of_unreadable hstore (datable_runs (.inr rfl))
    Far.datable_soon (apart_soon (.inr rfl)) hnested (by decide)
    (read_nested (.inr rfl))

end Overdue

end Workflow
