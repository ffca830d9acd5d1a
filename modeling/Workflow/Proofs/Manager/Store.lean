import Workflow.Proofs.Run.Stored
import Workflow.Run.RowStore

/-!
# What a manager relies on in a store

A store may refuse whatever it is asked.  Where it does not, it keeps what is
saved in place of an earlier run with the same id, hands out what it keeps and
keeps it no longer, and says of an id that it keeps nothing for that there is
no such run.  A take that fails may have lost the run that was asked for, as
it happens where a row cannot be read back; it never brings a run in.

Both kinds of stores are lists, one of the runs themselves and one of rows of
text, and `Layout` is what they have in common.
-/

namespace Workflow

/-- Stores that do what is asked of them unless they report an error. -/
class LawfulStore (σ : Type) [SuspensionStore σ] where
  /-- Whether something is kept for a run. -/
  keeps : σ → RunId → Bool
  /-- What may be handed out for a run. -/
  Offers : σ → RunId → SuspendedRun → Prop
  /-- Whether a run comes back as it is put in, if it comes back at all. -/
  Faithful : σ → SuspendedRun → Prop
  keeps_save {store next : σ} {suspended : SuspendedRun} {run : RunId} :
    SuspensionStore.save store suspended = .ok next →
      (keeps next run = true ↔ run = suspended.run ∨ keeps store run = true)
  offers_save {store next : σ} {suspended offered : SuspendedRun}
      {run : RunId} :
    SuspensionStore.save store suspended = .ok next →
      Faithful store suspended → Offers next run offered →
        Offers store run offered ∨
          run = suspended.run ∧ suspended.Restored True offered
  keeps_of_take {store : σ} {run : RunId} {taken : SuspendedRun} :
    (SuspensionStore.take store run).1 = .ok taken →
      keeps store run = true ∧ Offers store run taken
  not_keeps_take {store : σ} {run : RunId} {taken : SuspendedRun} :
    (SuspensionStore.take store run).1 = .ok taken →
      keeps (SuspensionStore.take store run).2 run = false
  take_of_not_keeps {store : σ} {run : RunId} :
    keeps store run = false →
      (SuspensionStore.take store run).1 = .error (.runNotFound run)
  keeps_take_of_ne {store : σ} {run other : RunId} :
    other ≠ run →
      keeps (SuspensionStore.take store run).2 other = keeps store other
  keeps_of_keeps_take {store : σ} {run other : RunId} :
    keeps (SuspensionStore.take store run).2 other = true →
      keeps store other = true
  offers_of_offers_take {store : σ} {run other : RunId}
      {offered : SuspendedRun} :
    Offers (SuspensionStore.take store run).2 other offered →
      Offers store other offered

namespace LawfulStore

variable {σ : Type} [SuspensionStore σ] [LawfulStore σ]
variable {store : σ} {run other : RunId}

/-- A take brings nothing in. -/
theorem keeps_take_le :
    (keeps (SuspensionStore.take store run).2 other).toNat ≤
      (keeps store other).toNat := by
  cases hkept : keeps (SuspensionStore.take store run).2 other with
  | false => exact Nat.zero_le _
  | true => rw [keeps_of_keeps_take hkept]

theorem keeps_take_eq_false (hkeeps : keeps store other = false) :
    keeps (SuspensionStore.take store run).2 other = false := by
  have hle : (keeps (SuspensionStore.take store run).2 other).toNat ≤ _ :=
    keeps_take_le
  simpa [hkeeps] using hle

end LawfulStore

/-! ## Stores that are lists -/

/-- A store that is a list of items, each for a run. -/
structure Layout (σ α : Type) [SuspensionStore σ] where
  items : σ → List α
  key : α → RunId
  write : SuspendedRun → α
  read : α → Except Error SuspendedRun
  key_write (suspended : SuspendedRun) : key (write suspended) = suspended.run
  mem_save {store next : σ} {suspended : SuspendedRun} {item : α} :
    SuspensionStore.save store suspended = .ok next →
      (item ∈ items next ↔
        (item ∈ items store ∧ key item ≠ suspended.run) ∨
          item = write suspended)
  take_eq (store : σ) (run : RunId) :
    (SuspensionStore.take store run).1 =
      ((items store).find? (key · = run)).elim (.error (.runNotFound run)) read
  mem_take {store : σ} {run : RunId} {item : α} :
    item ∈ items (SuspensionStore.take store run).2 ↔
      item ∈ items store ∧ key item ≠ run

namespace Layout

variable {σ α : Type} [SuspensionStore σ] {layout : Layout σ α}
variable {store next : σ} {run other : RunId}
variable {suspended offered : SuspendedRun}

def keeps (layout : Layout σ α) (store : σ) (run : RunId) : Bool :=
  (layout.items store).any (layout.key · = run)

def Offers (layout : Layout σ α) (store : σ) (run : RunId)
    (offered : SuspendedRun) : Prop :=
  ∃ item ∈ layout.items store,
    layout.key item = run ∧ layout.read item = .ok offered

/-- What has been written is read back as it was, or not at all. -/
def Faithful (layout : Layout σ α) (suspended : SuspendedRun) : Prop :=
  ∀ {offered}, layout.read (layout.write suspended) = .ok offered →
    suspended.Restored True offered

theorem keeps_iff :
    layout.keeps store run = true ↔
      ∃ item ∈ layout.items store, layout.key item = run := by
  simp [keeps]

theorem keeps_save
    (hsave : SuspensionStore.save store suspended = .ok next) :
    layout.keeps next run = true ↔
      run = suspended.run ∨ layout.keeps store run = true := by
  simp only [keeps_iff, layout.mem_save hsave]
  constructor
  · rintro ⟨item, ⟨hitem, -⟩ | rfl, rfl⟩
    · exact .inr ⟨item, hitem, rfl⟩
    · exact .inl (layout.key_write suspended)
  · rintro (rfl | ⟨item, hitem, rfl⟩)
    · exact ⟨_, .inr rfl, layout.key_write suspended⟩
    · by_cases hrun : layout.key item = suspended.run
      · exact ⟨_, .inr rfl, (layout.key_write suspended).trans hrun.symm⟩
      · exact ⟨item, .inl ⟨hitem, hrun⟩, rfl⟩

theorem offers_save
    (hsave : SuspensionStore.save store suspended = .ok next)
    (hfaithful : layout.Faithful suspended)
    (hoffers : layout.Offers next run offered) :
    layout.Offers store run offered ∨
      run = suspended.run ∧ suspended.Restored True offered := by
  obtain ⟨item, hitem, rfl, hread⟩ := hoffers
  rcases (layout.mem_save hsave).mp hitem with ⟨hitem, -⟩ | rfl
  · exact .inl ⟨item, hitem, rfl, hread⟩
  · exact .inr ⟨layout.key_write suspended, hfaithful hread⟩

theorem offers_of_take
    (htake : (SuspensionStore.take store run).1 = .ok offered) :
    layout.Offers store run offered := by
  rw [layout.take_eq] at htake
  cases hfound : (layout.items store).find? (layout.key · = run) with
  | none => simp [hfound] at htake
  | some item =>
      have hkey := List.find?_some hfound
      exact ⟨item, List.mem_of_find?_eq_some hfound, by simpa using hkey,
        by simpa [hfound] using htake⟩

theorem take_of_not_keeps (hkeeps : layout.keeps store run = false) :
    (SuspensionStore.take store run).1 = .error (.runNotFound run) := by
  have hnone : (layout.items store).find? (layout.key · = run) = none := by
    simpa [keeps] using hkeeps
  rw [layout.take_eq, hnone, Option.elim_none]

theorem keeps_take_iff :
    layout.keeps (SuspensionStore.take store run).2 other = true ↔
      layout.keeps store other = true ∧ other ≠ run := by
  simp only [keeps_iff, layout.mem_take]
  constructor
  · rintro ⟨item, ⟨hitem, hne⟩, rfl⟩
    exact ⟨⟨item, hitem, rfl⟩, hne⟩
  · rintro ⟨⟨item, hitem, rfl⟩, hne⟩
    exact ⟨item, ⟨hitem, hne⟩, rfl⟩

/-- A store that is a list does what is asked of it. -/
abbrev lawful (layout : Layout σ α) : LawfulStore σ where
  keeps := layout.keeps
  Offers := layout.Offers
  Faithful _ := layout.Faithful
  keeps_save := keeps_save
  offers_save hsave hfaithful := offers_save hsave hfaithful
  keeps_of_take htake := by
    obtain ⟨item, hitem, hkey, hread⟩ := layout.offers_of_take htake
    exact ⟨keeps_iff.mpr ⟨item, hitem, hkey⟩, item, hitem, hkey, hread⟩
  not_keeps_take _ := by
    rw [Bool.eq_false_iff, ne_eq, keeps_take_iff]
    exact fun hkeeps => hkeeps.2 rfl
  take_of_not_keeps := take_of_not_keeps
  keeps_take_of_ne hne := by
    rw [Bool.eq_iff_iff, keeps_take_iff]
    exact and_iff_left hne
  keeps_of_keeps_take hkeeps := (keeps_take_iff.mp hkeeps).1
  offers_of_offers_take := by
    rintro store run other offered ⟨item, hitem, hoffered⟩
    exact ⟨item, (layout.mem_take.mp hitem).1, hoffered⟩

end Layout

namespace MemoryStore

variable {store : MemoryStore} {run : RunId} {suspended : SuspendedRun}

theorem mem_erase_iff :
    suspended ∈ (store.erase run).runs ↔
      suspended ∈ store.runs ∧ suspended.run ≠ run := by
  simp [erase]

/-- There is nothing to erase where nothing is found. -/
theorem erase_eq_self (hnone : store.find? run = none) :
    store.erase run = store := by
  have hother : ∀ kept ∈ store.runs, kept.run ≠ run := by
    simpa [find?] using hnone
  have hruns : (store.erase run).runs = store.runs :=
    List.filter_eq_self.mpr (by simpa using hother)
  exact congrArg mk hruns

theorem take_eq :
    store.take run =
      ((store.find? run).elim (.error (.runNotFound run)) .ok,
        store.erase run) := by
  cases hfound : store.find? run with
  | some _ => simp [take, hfound]
  | none => simp [take, hfound, erase_eq_self hfound]

/-- The runs themselves. -/
def layout : Layout MemoryStore SuspendedRun where
  items := runs
  key := SuspendedRun.run
  write := id
  read := .ok
  key_write _ := rfl
  mem_save {store next suspended item} hsave := by
    obtain rfl : store.save suspended = next := Except.ok.inj hsave
    simp [save, mem_erase_iff]
  take_eq _ _ := congrArg Prod.fst take_eq
  mem_take {store run item} := by
    rw [← mem_erase_iff]
    exact iff_of_eq (congrArg (item ∈ ·.2.runs) take_eq)

instance : LawfulStore MemoryStore :=
  layout.lawful

/-- A store of the runs themselves is faithful to all of them. -/
theorem faithful : LawfulStore.Faithful store suspended := by
  intro offered hread
  obtain rfl : suspended = offered := Except.ok.inj hread
  exact .same

end MemoryStore

namespace RowStore

variable {store : RowStore} {run : RunId} {row : StoredRow}

theorem mem_erase_iff :
    row ∈ (store.erase run).rows ↔ row ∈ store.rows ∧ row.run ≠ run := by
  simp [erase]

theorem erase_eq_self (hnone : store.find? run = none) :
    store.erase run = store := by
  have hother : ∀ row ∈ store.rows, row.run ≠ run := by
    simpa [find?] using hnone
  have hrows : (store.erase run).rows = store.rows :=
    List.filter_eq_self.mpr (by simpa using hother)
  exact congrArg mk hrows

theorem take_eq :
    store.take run =
      ((store.find? run).elim (.error (.runNotFound run)) StoredRow.read,
        store.erase run) := by
  cases hfound : store.find? run with
  | some _ => simp [take, hfound]
  | none => simp [take, hfound, erase_eq_self hfound]

/-- Rows of text, which may be unreadable. -/
def layout : Layout RowStore StoredRow where
  items := rows
  key := StoredRow.run
  write := .ofRun
  read := StoredRow.read
  key_write _ := rfl
  mem_save {store next suspended item} hsave := by
    obtain rfl : store.save suspended = next := Except.ok.inj hsave
    simp [save, mem_erase_iff]
  take_eq _ _ := congrArg Prod.fst take_eq
  mem_take {store run item} := by
    rw [← mem_erase_iff]
    exact iff_of_eq (congrArg (item ∈ ·.2.rows) take_eq)

instance : LawfulStore RowStore :=
  layout.lawful

end RowStore

end Workflow
