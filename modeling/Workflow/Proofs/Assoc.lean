import Workflow.Assoc

/-!
# Maps in the order of their keys

`Sorted` is what `Assoc` promises of its lists: every key stands once, and the
keys ascend.  All operations keep it, a sorted list is what its own entries
are entered to, and whether an entry stands in it is told by its key.
-/

namespace Workflow.Assoc

variable {α β : Type}

/-- The keys ascend, so none is repeated. -/
def Sorted (entries : Assoc α) : Prop :=
  entries.Pairwise (·.1 < ·.1)

variable {entries : Assoc α} {key : String} {value : α}

@[simp] theorem sorted_nil : Sorted ([] : Assoc α) :=
  .nil

@[simp] theorem sorted_cons {entry : String × α} :
    Sorted (entry :: entries) ↔
      (∀ later ∈ entries, entry.1 < later.1) ∧ Sorted entries :=
  List.pairwise_cons

/-! ## Keys -/

theorem lt_of_not_lt_of_ne {a b : String} (hlt : ¬ a < b) (hne : a ≠ b) :
    b < a := by
  by_cases h : b < a
  · exact h
  · exact absurd (String.le_antisymm h hlt) hne

@[simp] theorem get?_nil (key : String) : get? ([] : Assoc α) key = none :=
  rfl

@[simp] theorem get?_cons (entry : String × α) (rest : Assoc α) (key : String) :
    get? (entry :: rest) key = if entry.1 = key then some entry.2 else get? rest key :=
  rfl

@[simp] theorem get?_append (front rest : Assoc α) (key : String) :
    get? (front ++ rest) key = (get? front key).or (get? rest key) := by
  induction front with
  | nil => simp
  | cons entry front ih =>
      by_cases hkey : entry.1 = key <;> simp [get?, hkey, ih]

theorem get?_eq_none_iff :
    get? entries key = none ↔ ∀ entry ∈ entries, entry.1 ≠ key := by
  induction entries with
  | nil => simp
  | cons entry rest ih =>
      by_cases hkey : entry.1 = key <;> simp [get?, hkey, ih]

/-- Entries of other keys do not matter. -/
theorem get?_filter {p : String → Bool} (hkey : p key = true) :
    get? (entries.filter (p ·.1)) key = get? entries key := by
  induction entries with
  | nil => rfl
  | cons entry rest ih =>
      by_cases hentry : entry.1 = key
      · simp [hentry, hkey]
      · cases hp : p entry.1 <;> simp [hp, hentry, ih]

/-- Where one entry only has any of several keys, each of these keys leads to it
or to nothing. -/
theorem get?_of_filter {keys : List String} {name : String}
    (hfilter : entries.filter (keys.contains ·.1) = [(name, value)])
    (hkey : key ∈ keys) :
    get? entries key = if name = key then some value else none := by
  rw [← get?_filter (p := keys.contains) (by simpa using hkey), hfilter]
  simp

/-- The first entry of a key. -/
theorem find?_key (entries : Assoc α) (key : String) :
    entries.find? (·.1 = key) = (get? entries key).map (key, ·) := by
  induction entries with
  | nil => rfl
  | cons entry rest ih =>
      obtain ⟨k, v⟩ := entry
      by_cases hkey : k = key
      · simp [get?, hkey]
      · simpa [get?, hkey] using ih

/-- In a sorted map an entry is found by its key. -/
theorem Sorted.filter_key (hsorted : Sorted entries)
    (hget : get? entries key = some value) :
    entries.filter (·.1 = key) = [(key, value)] := by
  induction entries with
  | nil => simp [get?] at hget
  | cons entry rest ih =>
      obtain ⟨k, v⟩ := entry
      obtain ⟨hlater, hrest⟩ := sorted_cons.mp hsorted
      by_cases hkey : k = key
      · obtain rfl : v = value := by simpa [get?, hkey] using hget
        obtain rfl := hkey
        have hnone : rest.filter (·.1 = k) = [] := by
          refine List.filter_eq_nil_iff.mpr fun later hmem => ?_
          have hlt := hlater later hmem
          simp only [decide_eq_true_eq]
          rintro rfl
          exact String.lt_irrefl _ hlt
        simp [hnone]
      · have hget : get? rest key = some value := by
          simpa [get?, hkey] using hget
        simpa [hkey] using ih hrest hget

/-! ## Entering -/

theorem mem_insert {entry : String × α}
    (hmem : entry ∈ insert entries key value) :
    entry = (key, value) ∨ entry ∈ entries := by
  induction entries with
  | nil => exact .inl (by simpa [insert] using hmem)
  | cons first rest ih =>
      obtain ⟨k, v⟩ := first
      unfold insert at hmem
      split at hmem
      · simpa using hmem
      · split at hmem
        · rcases List.mem_cons.mp hmem with rfl | hmem
          · exact .inl rfl
          · exact .inr (List.mem_cons_of_mem _ hmem)
        · rcases List.mem_cons.mp hmem with rfl | hmem
          · exact .inr List.mem_cons_self
          · exact (ih hmem).imp_right (List.mem_cons_of_mem _)

theorem Sorted.insert (hsorted : Sorted entries) (key : String) (value : α) :
    Sorted (insert entries key value) := by
  induction entries with
  | nil => simp [Assoc.insert]
  | cons first rest ih =>
      obtain ⟨k, v⟩ := first
      obtain ⟨hlater, hrest⟩ := sorted_cons.mp hsorted
      unfold Assoc.insert
      split
      · next hlt =>
          refine sorted_cons.mpr ⟨fun entry hmem => ?_, hsorted⟩
          rcases List.mem_cons.mp hmem with rfl | hmem
          · exact hlt
          · exact String.lt_trans hlt (hlater entry hmem)
      · next hlt =>
          split
          · next heq =>
              obtain rfl := heq
              exact sorted_cons.mpr ⟨hlater, hrest⟩
          · next hne =>
              refine sorted_cons.mpr ⟨fun entry hmem => ?_, ih hrest⟩
              rcases mem_insert hmem with rfl | hmem
              · exact lt_of_not_lt_of_ne hlt hne
              · exact hlater entry hmem

/-- A key beyond all others is entered at the end. -/
theorem insert_of_forall_lt (hlt : ∀ entry ∈ entries, entry.1 < key) :
    insert entries key value = entries ++ [(key, value)] := by
  induction entries with
  | nil => rfl
  | cons first rest ih =>
      obtain ⟨k, v⟩ := first
      obtain ⟨hfirst, hrest⟩ := List.forall_mem_cons.mp hlt
      have hnot : ¬ key < k := String.lt_asymm hfirst
      have hne : key ≠ k := by
        rintro rfl
        exact String.lt_irrefl _ hfirst
      simp [insert, hnot, hne, ih hrest]

theorem Sorted.erase (hsorted : Sorted entries) (key : String) :
    Sorted (erase entries key) :=
  hsorted.filter _

theorem mem_erase {entry : String × α}
    (hmem : entry ∈ erase entries key) : entry ∈ entries :=
  (List.mem_filter.mp hmem).1

/-! ## Maps of lists -/

section OfList

variable {listed : List (String × α)}

theorem sorted_ofList (listed : List (String × α)) : Sorted (ofList listed) := by
  -- The entries are entered one by one, so the induction is about any map so far.
  suffices ∀ sofar : Assoc α, Sorted sofar →
      Sorted (listed.foldl (fun map entry => insert map entry.1 entry.2) sofar) from
    this [] sorted_nil
  induction listed with
  | nil => exact fun _ hsofar => hsofar
  | cons entry rest ih => exact fun _ hsofar => ih _ (hsofar.insert _ _)

theorem mem_ofList {entry : String × α} (hmem : entry ∈ ofList listed) :
    entry ∈ listed := by
  suffices ∀ sofar : Assoc α,
      entry ∈ listed.foldl (fun map entry => insert map entry.1 entry.2) sofar →
      entry ∈ sofar ∨ entry ∈ listed by
    simpa using this [] hmem
  clear hmem
  induction listed with
  | nil => exact fun _ hmem => .inl hmem
  | cons first rest ih =>
      intro sofar hmem
      rcases ih _ hmem with hmem | hmem
      · rcases mem_insert hmem with rfl | hmem
        · exact .inr List.mem_cons_self
        · exact .inl hmem
      · exact .inr (List.mem_cons_of_mem _ hmem)

/-- The last value of a key stands. -/
@[simp] theorem get?_ofList (listed : List (String × α)) (key : String) :
    get? (ofList listed) key = get? listed.reverse key := by
  suffices ∀ sofar : Assoc α,
      get? (listed.foldl (fun map entry => insert map entry.1 entry.2) sofar) key =
        (get? listed.reverse key).or (get? sofar key) by
    simpa [get?, ofList] using this []
  induction listed with
  | nil => simp
  | cons entry rest ih =>
      intro sofar
      rw [List.foldl_cons, ih, List.reverse_cons, get?_append, Option.or_assoc]
      congr 1
      by_cases hkey : entry.1 = key
      · obtain rfl := hkey
        simp [get?, get?_insert_self]
      · simp [get?, hkey, get?_insert_of_ne _ _ (Ne.symm hkey)]

end OfList

end Workflow.Assoc
