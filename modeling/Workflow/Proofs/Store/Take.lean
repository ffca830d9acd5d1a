import Workflow.Proofs.Store.Agreement

/-!
# Takes that fail

A take can fail at five stages of its work on the database, or because the row
cannot be read.  A failure of the database changes nothing, whichever stage it
strikes; but the row is read after the deletion was committed, so a row that
cannot be read is gone (`RowStore.takeWith_of_error`).  Where all runs that were
saved can be read back, a take that fails loses nothing
(`StoreCall.failed_take_keeps`); a run that nests deeper than texts may is lost
by the first take (`Draft.failed_take_loses`).
-/

namespace Workflow

theorem MemoryStore.take_of_error {store : MemoryStore} {run : RunId} {error : Error}
    (herror : (store.take run).1 = .error error) : (store.take run).2 = store := by
  unfold take at herror ⊢
  split at herror
  · contradiction
  · rfl

/-- A text whose document is at fault cannot be read. -/
theorem StoredRow.read_of_fault {suspended : SuspendedRun} {fault : Wire.Fault}
    (hlegible : suspended.toJson.Legible)
    (hfault : SuspendedRun.decoder ⟨.text, Json.maxDepth⟩
      (Document.ofJson suspended.toJson) = .error fault) :
    (ofRun suspended).read = .error (.json fault.message) := by
  simp [read, ofRun, Wire.ofText, Document.scan_render hlegible, hfault]

namespace RowStore

variable {rows : RowStore} {run : RunId} {trouble : Option (TakeStage × String)}
variable {error : Error}

/-- A take that fails changes nothing, unless it is the row that fails: then it
is gone. -/
theorem takeWith_of_error (herror : (rows.takeWith run trouble).1 = .error error) :
    (rows.takeWith run trouble).2 = rows ∨
      trouble = none ∧ (rows.takeWith run trouble).2 = rows.erase run ∧
        ∃ row ∈ rows.rows, row.run = run ∧ row.read = .error error := by
  cases trouble with
  | some failure =>
      obtain ⟨stage, cause⟩ := failure
      refine .inl ?_
      simp only [takeWith]
      split <;> rfl
  | none =>
      change (rows.take run).1 = .error error at herror
      cases hfound : rows.find? run with
      | none =>
          refine .inl ?_
          simp [takeWith, take, hfound]
      | some row =>
          have hread : row.read = .error error := by
            simpa [take, hfound] using herror
          have hrun : row.run = run := by simpa using List.find?_some hfound
          exact .inr ⟨rfl, by simp [takeWith, take, hfound], row,
            List.mem_of_find?_eq_some hfound, hrun, hread⟩

/-- A run whose row cannot be read is lost by the first take. -/
theorem take_save_of_unreadable {suspended : SuspendedRun}
    (hread : (StoredRow.ofRun suspended).read = .error error) :
    (empty.save suspended).take suspended.run = (.error error, empty) := by
  rw [take_save, hread]
  rfl

theorem save_ne_empty {suspended : SuspendedRun} : rows.save suspended ≠ empty := by
  simp [save, empty]

theorem takeWith_keeps (hreads : ∀ row ∈ rows.rows, ∃ taken, row.read = .ok taken)
    (herror : (rows.takeWith run trouble).1 = .error error) :
    (rows.takeWith run trouble).2 = rows := by
  rcases takeWith_of_error herror with hsame | ⟨-, -, row, hrow, -, hread⟩
  · exact hsame
  · obtain ⟨taken, htaken⟩ := hreads row hrow
    rw [hread] at htaken
    contradiction

end RowStore

namespace StoreCall

/-- Only runs that were saved are kept. -/
theorem mem_runs_performAll {calls : List StoreCall} {memory : MemoryStore}
    {suspended : SuspendedRun}
    (hmem : suspended ∈ (performAll calls memory).runs) :
    suspended ∈ memory.runs ∨ .save suspended ∈ calls := by
  induction calls generalizing memory with
  | nil => exact .inl hmem
  | cons call calls ih =>
      rcases ih hmem with hmem | hmem
      · cases call with
        | save other =>
            rcases List.mem_append.mp hmem with hmem | hmem
            · exact .inl (MemoryStore.mem_erase_iff.mp hmem).1
            · obtain rfl := List.mem_singleton.mp hmem
              exact .inr List.mem_cons_self
        | take run =>
            have htake : (memory.take run).2 = memory.erase run :=
              congrArg Prod.snd MemoryStore.take_eq
            have hmem : suspended ∈ (memory.take run).2.runs := hmem
            rw [htake] at hmem
            exact .inl (MemoryStore.mem_erase_iff.mp hmem).1
        | remove run => exact .inl (MemoryStore.mem_erase_iff.mp hmem).1
      · exact .inr (List.mem_cons_of_mem _ hmem)

/-- After any calls that save only runs which the engine put aside, with texts
that nest no deeper than texts may, a take that fails leaves either store as it
was, whatever fails at whichever stage. -/
theorem failed_take_keeps {calls : List StoreCall} {memory : MemoryStore}
    {rows : RowStore} {run : RunId}
    {trouble : Option (RowStore.TakeStage × String)}
    (hmemory : memory = performAll calls MemoryStore.empty)
    (hrows : rows = performAll calls RowStore.empty)
    (hcalls : ∀ suspended, .save suspended ∈ calls →
      suspended.graph.Storable ∧ suspended.PutAside ∧ suspended.Readable) :
    (∀ error, (SuspensionStore.take memory run).1 = .error error →
        (SuspensionStore.take memory run).2 = memory) ∧
      ∀ error, (rows.takeWith run trouble).1 = .error error →
        (rows.takeWith run trouble).2 = rows := by
  obtain rfl : rows = RowStore.ofRuns memory := by
    rw [hrows, hmemory, ← performAll_ofRuns]
    rfl
  refine ⟨fun _ => MemoryStore.take_of_error, fun _ => RowStore.takeWith_keeps ?_⟩
  intro row hrow
  obtain ⟨suspended, hmem, rfl⟩ := List.mem_map.mp hrow
  subst hmemory
  rcases mem_runs_performAll hmem with hmem | hmem
  · contradiction
  · obtain ⟨hgraph, hputAside, hreadable⟩ := hcalls suspended hmem
    exact ⟨suspended.restored, hputAside.read_ofRun hgraph hreadable⟩

end StoreCall

namespace Draft

def memory : MemoryStore :=
  StoreCall.performAll [.save (suspended .null)] .empty

def rows : RowStore :=
  StoreCall.performAll [.save (suspended .null)] .empty

/-- A transaction that cannot be committed leaves the run in its store. -/
theorem failed_take_keeps_draft :
    (rows.takeWith "run" (some (.commit, "disk full"))).1 =
        .error (.store "Failed to commit: disk full") ∧
      (∀ error, (SuspensionStore.take memory "run").1 = .error error →
        (SuspensionStore.take memory "run").2 = memory) ∧
      ∀ error,
        (rows.takeWith "run" (some (.commit, "disk full"))).1 = .error error →
          (rows.takeWith "run" (some (.commit, "disk full"))).2 = rows := by
  refine ⟨by decide +kernel, StoreCall.failed_take_keeps rfl rfl ?_⟩
  intro saved hmem
  obtain rfl : saved = suspended .null := by simpa using hmem
  exact ⟨graph_storable, putAside Json.canonical_null, readable_null⟩

end Draft

/-! ## A value that nests too deep -/

namespace Draft

/-- Empty lists inside of each other. -/
def nest : Nat → Json
  | 0 => .list []
  | depth + 1 => .list [nest depth]

theorem canonical_nest (depth : Nat) : (nest depth).Canonical := by
  induction depth with
  | zero => simp [nest]
  | succ depth ih => simpa [nest] using ih

/-- A run with a value of 131 levels. -/
def deep : SuspendedRun :=
  suspended (nest 130)

theorem read_deep :
    (StoredRow.ofRun deep).read = .error (.json Wire.Fault.unreadable.message) := by
  have hlegible : deep.toJson.Legible :=
    SuspendedRun.legible_of_numbers (by decide +kernel) (by decide)
  have hfault : SuspendedRun.decoder ⟨.text, Json.maxDepth⟩
      (Document.ofJson deep.toJson) = .error .unreadable := by
    decide +kernel
  exact StoredRow.read_of_fault hlegible hfault

/-- A run that the engine put aside is gone after the first take, which hands
out nothing. -/
theorem failed_take_loses :
    deep.PutAside ∧
      SuspensionStore.take (RowStore.empty.save deep) deep.run =
        (.error (.json Wire.Fault.unreadable.message), RowStore.empty) ∧
      RowStore.empty.save deep ≠ RowStore.empty :=
  ⟨putAside (canonical_nest 130), RowStore.take_save_of_unreadable read_deep,
    RowStore.save_ne_empty⟩

end Draft

end Workflow
