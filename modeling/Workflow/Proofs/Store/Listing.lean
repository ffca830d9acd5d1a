import Workflow.Proofs.Manager.Store
import Workflow.Proofs.Store.Agreement

/-!
# What a store lists as overdue

A store lists runs that it would hand out, and keeps one for each id.  The
listing is `Punctual` if the time of all that it names is over; a store of the
runs themselves always is, and a store of rows is where the texts of all times
can tell them apart.
-/

namespace Workflow

theorem SuspendedRun.Restored.isExpired_eq {drops : Prop}
    {suspended restored : SuspendedRun}
    (hrestored : suspended.Restored drops restored) (now : Instant) :
    restored.isExpired now = suspended.isExpired now := by
  cases hrestored <;> rfl

namespace LawfulStore

variable {σ : Type} [SuspensionStore σ] [LawfulStore σ] {store : σ}

/-- At most one run may be handed out for each id. -/
def Sole (store : σ) : Prop :=
  ∀ {run : RunId} {offered other : SuspendedRun},
    Offers store run offered → Offers store run other → offered = other

/-- Whatever is listed as overdue is so. -/
def Punctual (store : σ) (now : Instant) : Prop :=
  ∀ {overdue : List SuspendedRun},
    SuspensionStore.expired store now = .ok overdue →
      ∀ suspended ∈ overdue, suspended.isExpired now = true

theorem Sole.take (hsole : Sole store) (run : RunId) :
    Sole (SuspensionStore.take store run).2 :=
  fun hoffered hother =>
    hsole (offers_of_offers_take hoffered) (offers_of_offers_take hother)

end LawfulStore

/-- Stores that keep one run for each id and hand out only what they keep, and
that list what they would hand out. -/
class ListingStore (σ : Type) [SuspensionStore σ] [LawfulStore σ] : Prop where
  keeps_of_offers {store : σ} {run : RunId} {offered : SuspendedRun} :
    LawfulStore.Offers store run offered → LawfulStore.keeps store run = true
  sole_save {store next : σ} {suspended : SuspendedRun} :
    SuspensionStore.save store suspended = .ok next →
      LawfulStore.Sole store → LawfulStore.Sole next
  offers_of_expired {store : σ} {now : Instant} {overdue : List SuspendedRun}
      {suspended : SuspendedRun} :
    SuspensionStore.expired store now = .ok overdue → suspended ∈ overdue →
      ∃ run, LawfulStore.Offers store run suspended

namespace Layout

variable {σ α : Type} [SuspensionStore σ] {layout : Layout σ α}
variable {store next : σ} {suspended : SuspendedRun}

theorem keeps_of_offers {run : RunId} {offered : SuspendedRun}
    (hoffers : layout.Offers store run offered) :
    layout.keeps store run = true := by
  obtain ⟨item, hitem, hkey, -⟩ := hoffers
  exact keeps_iff.mpr ⟨item, hitem, hkey⟩

/-- What is saved takes the place of the run with its id. -/
theorem sole_save
    (hsave : SuspensionStore.save store suspended = .ok next)
    (hsole : ∀ {run offered other}, layout.Offers store run offered →
      layout.Offers store run other → offered = other)
    {run : RunId} {offered other : SuspendedRun}
    (hoffered : layout.Offers next run offered)
    (hother : layout.Offers next run other) : offered = other := by
  obtain ⟨item, hitem, rfl, hread⟩ := hoffered
  obtain ⟨item', hitem', hkey, hread'⟩ := hother
  rcases (layout.mem_save hsave).mp hitem with ⟨hitem, hne⟩ | rfl
  · rcases (layout.mem_save hsave).mp hitem' with ⟨hitem', -⟩ | rfl
    · exact hsole ⟨item, hitem, rfl, hread⟩ ⟨item', hitem', hkey, hread'⟩
    · exact absurd (hkey.symm.trans (layout.key_write suspended)) hne
  · rcases (layout.mem_save hsave).mp hitem' with ⟨hitem', hne⟩ | rfl
    · exact absurd (hkey.trans (layout.key_write suspended)) hne
    · exact Except.ok.inj (hread.symm.trans hread')

end Layout

namespace MemoryStore

variable {store : MemoryStore} {now : Instant}

theorem mem_of_expired {overdue : List SuspendedRun} {suspended : SuspendedRun}
    (hlisted : SuspensionStore.expired store now = .ok overdue)
    (hmem : suspended ∈ overdue) :
    suspended ∈ store.runs ∧ suspended.isExpired now = true := by
  obtain rfl : store.list.filter _ = overdue := Except.ok.inj hlisted
  obtain ⟨hmem, hdue⟩ := List.mem_filter.mp hmem
  exact ⟨(List.mergeSort_perm _ _).subset hmem, hdue⟩

instance : ListingStore MemoryStore where
  keeps_of_offers := Layout.keeps_of_offers
  sole_save := Layout.sole_save
  offers_of_expired hlisted hmem :=
    ⟨_, _, (mem_of_expired hlisted hmem).1, rfl, rfl⟩

theorem punctual (store : MemoryStore) (now : Instant) :
    LawfulStore.Punctual store now :=
  fun hlisted _ hmem => (mem_of_expired hlisted hmem).2

end MemoryStore

namespace RowStore

variable {store : RowStore} {now : Instant}

theorem exists_row_of_readAll {rows : List StoredRow}
    {listed : List SuspendedRun} {suspended : SuspendedRun}
    (hread : readAll rows = .ok listed) (hmem : suspended ∈ listed) :
    ∃ row ∈ rows, row.read = .ok suspended := by
  induction rows generalizing listed with
  | nil =>
      obtain rfl : [] = listed := Except.ok.inj hread
      cases hmem
  | cons row rows ih =>
      rw [readAll] at hread
      split at hread
      next => cases hread
      next first hfirst =>
        cases hrest : readAll rows with
        | error error => simp [hrest, Except.map] at hread
        | ok rest =>
            obtain rfl : first :: rest = listed := by
              simpa [hrest, Except.map] using hread
            rcases List.mem_cons.mp hmem with rfl | hmem
            · exact ⟨row, List.mem_cons_self, hfirst⟩
            · obtain ⟨found, hfound, hread⟩ := ih hrest hmem
              exact ⟨found, List.mem_cons_of_mem _ hfound, hread⟩

instance : ListingStore RowStore where
  keeps_of_offers := Layout.keeps_of_offers
  sole_save := Layout.sole_save
  offers_of_expired hlisted hmem := by
    obtain ⟨row, hrow, hread⟩ := exists_row_of_readAll hlisted hmem
    have hmem := (List.mergeSort_perm _ _).subset hrow
    exact ⟨row.run, row, (List.mem_filter.mp hmem).1, rfl, hread⟩

/-- Rows that can be read and whose texts tell their times apart are listed in
time. -/
theorem punctual_ofRuns {runs : List SuspendedRun} (hnow : now.Datable)
    (hdatable : ∀ suspended ∈ runs, suspended.Datable)
    (hapart : ∀ suspended ∈ runs, ∀ deadline ∈ suspended.expiresAt,
      deadline.Apart now)
    (hreads : ∀ suspended ∈ runs, suspended.isExpired now = true →
      suspended.ReadsBack) :
    LawfulStore.Punctual (ofRuns ⟨runs⟩) now := by
  intro listed hlisted restored hmem
  obtain ⟨due, hperm, hexpired⟩ := expired_ofRuns hnow hdatable hapart
  obtain ⟨row, hrow, hread⟩ :=
    exists_row_of_readAll (hexpired.symm.trans hlisted) hmem
  obtain ⟨suspended, hdue, rfl⟩ := List.mem_map.mp hrow
  obtain ⟨hkept, hover⟩ := List.mem_filter.mp (hperm.subset hdue)
  obtain ⟨found, hfound, hrestored⟩ := hreads suspended hkept hover
  obtain rfl : found = restored := Except.ok.inj (hfound.symm.trans hread)
  rw [hrestored.isExpired_eq, hover]

end RowStore

/-! ## Stores that keep one run for each id -/

namespace MemoryStore

/-- No two runs have the same id. -/
def Distinct (memory : MemoryStore) : Prop :=
  (memory.runs.map (·.run)).Nodup

variable {memory : MemoryStore} {suspended : SuspendedRun} {run : RunId}

theorem Distinct.erase (hdistinct : memory.Distinct) (run : RunId) :
    (memory.erase run).Distinct :=
  hdistinct.sublist (List.filter_sublist.map _)

theorem Distinct.save (hdistinct : memory.Distinct) (suspended : SuspendedRun) :
    (memory.save suspended).Distinct := by
  have hother : ∀ kept ∈ (memory.erase suspended.run).runs,
      kept.run ≠ suspended.run := fun kept hkept => (mem_erase_iff.mp hkept).2
  have hkept : ((memory.erase suspended.run).runs.map (·.run)).Nodup :=
    hdistinct.erase suspended.run
  simpa [Distinct, MemoryStore.save, List.nodup_append, hkept] using hother

theorem Distinct.find?_eq_some (hdistinct : memory.Distinct)
    (hmem : suspended ∈ memory.runs) :
    memory.find? suspended.run = some suspended := by
  cases hfound : memory.find? suspended.run with
  | none =>
      simpa using List.find?_eq_none.mp hfound suspended hmem
  | some found =>
      have hrun : found.run = suspended.run := by
        simpa using List.find?_some hfound
      exact congrArg some (List.inj_on_of_nodup_map hdistinct
        (List.mem_of_find?_eq_some hfound) hmem hrun)

end MemoryStore

namespace StoreCall

theorem distinct_performAll (calls : List StoreCall) {memory : MemoryStore}
    (hdistinct : memory.Distinct) : (performAll calls memory).Distinct := by
  induction calls generalizing memory with
  | nil => exact hdistinct
  | cons call calls ih =>
      refine ih ?_
      cases call with
      | save suspended => exact hdistinct.save suspended
      | take run =>
          have htake : (memory.take run).2 = memory.erase run :=
            congrArg Prod.snd MemoryStore.take_eq
          show (memory.take run).2.Distinct
          exact htake ▸ hdistinct.erase run
      | remove run => exact hdistinct.erase run

end StoreCall

namespace RowStore

variable {memory : MemoryStore} {suspended restored : SuspendedRun}

/-- What is handed out for a run is what its row is read as. -/
theorem take_ofRuns (hdistinct : memory.Distinct)
    (hmem : suspended ∈ memory.runs) :
    (ofRuns memory).take suspended.run =
      ((StoredRow.ofRun suspended).read,
        ofRuns (memory.erase suspended.run)) := by
  have hfound : (ofRuns memory).find? suspended.run =
      (memory.find? suspended.run).map StoredRow.ofRun := by
    simp only [ofRuns, find?, MemoryStore.find?, List.find?_map]
    rfl
  rw [take_eq, hfound, hdistinct.find?_eq_some hmem, erase_ofRuns]
  rfl

/-- A row that cannot be read fails all rows. -/
theorem readAll_of_error {rows : List StoredRow} {row : StoredRow} {error : Error}
    (hmem : row ∈ rows) (hread : row.read = .error error) :
    ∃ error, readAll rows = .error error := by
  induction rows with
  | nil => cases hmem
  | cons first rest ih =>
      cases hfirst : first.read with
      | error error => exact ⟨error, by simp [readAll, hfirst]⟩
      | ok taken =>
          rcases List.mem_cons.mp hmem with rfl | hmem
          · rw [hread] at hfirst
            contradiction
          · obtain ⟨error, hrest⟩ := ih hmem
            exact ⟨error, by simp [readAll, hfirst, hrest, Except.map]⟩

end RowStore

end Workflow
