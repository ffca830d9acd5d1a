/-!
# Sorted association lists

Finite maps from strings, kept as lists in ascending order of their keys.  Keys compare by code
points, which is also the order of their UTF-8 bytes.  `insert` keeps the order and replaces an
earlier value of the same key, so equal maps built by insertion are equal lists.
-/

namespace Workflow

/-- A finite map from strings, as a list of entries. -/
abbrev Assoc (α : Type) := List (String × α)

namespace Assoc

variable {α β : Type}

/-- The value stored for a key. -/
def get? (entries : Assoc α) (key : String) : Option α :=
  match entries with
  | [] => none
  | (k, v) :: rest => if k = key then some v else get? rest key

/-- Whether a key has a value. -/
def has (entries : Assoc α) (key : String) : Bool :=
  (get? entries key).isSome

/-- Store a value for a key, in the place that the order of keys asks for. -/
def insert (entries : Assoc α) (key : String) (value : α) : Assoc α :=
  match entries with
  | [] => [(key, value)]
  | (k, v) :: rest =>
    if key < k then (key, value) :: (k, v) :: rest
    else if key = k then (key, value) :: rest
    else (k, v) :: insert rest key value

/-- Drop the value of a key. -/
def erase (entries : Assoc α) (key : String) : Assoc α :=
  entries.filter fun entry => entry.1 ≠ key

/-- The map of a list of entries; the last value of a repeated key stands. -/
def ofList (entries : List (String × α)) : Assoc α :=
  entries.foldl (fun map entry => insert map entry.1 entry.2) []

/-- The keys, ascending. -/
def keys (entries : Assoc α) : List String :=
  entries.map (·.1)

/-- Change every value, keeping the keys. -/
def mapValues (f : α → β) (entries : Assoc α) : Assoc β :=
  entries.map fun entry => (entry.1, f entry.2)

theorem get?_insert_self (entries : Assoc α) (key : String) (value : α) :
    get? (insert entries key value) key = some value := by
  induction entries with
  | nil => simp [insert, get?]
  | cons entry rest ih =>
    obtain ⟨k, v⟩ := entry
    unfold insert
    split
    · simp [get?]
    · split
      · simp [get?]
      · rename_i h
        have : ¬ k = key := fun e => h e.symm
        simp [get?, this, ih]

theorem get?_insert_of_ne (entries : Assoc α) {key other : String} (value : α)
    (h : other ≠ key) : get? (insert entries key value) other = get? entries other := by
  induction entries with
  | nil => simp [insert, get?, h.symm]
  | cons entry rest ih =>
    obtain ⟨k, v⟩ := entry
    unfold insert
    split
    · simp [get?, h.symm]
    · split
      · rename_i e
        subst e
        simp [get?, h.symm]
      · by_cases hk : k = other
        · simp [get?, hk]
        · simp [get?, hk, ih]

theorem get?_erase_self (entries : Assoc α) (key : String) :
    get? (erase entries key) key = none := by
  induction entries with
  | nil => rfl
  | cons entry rest ih =>
    obtain ⟨k, v⟩ := entry
    by_cases hk : k = key
    · simpa [erase, hk] using ih
    · have ih' : get? (List.filter (fun e => decide (e.1 ≠ key)) rest) key = none := ih
      simp [erase, hk, get?]
      simpa using ih'

theorem get?_erase_of_ne (entries : Assoc α) {key other : String} (h : other ≠ key) :
    get? (erase entries key) other = get? entries other := by
  induction entries with
  | nil => rfl
  | cons entry rest ih =>
    obtain ⟨k, v⟩ := entry
    have ih' : get? (List.filter (fun e => decide (e.1 ≠ key)) rest) other = get? rest other := ih
    by_cases hk : k = key
    · subst hk
      simpa [erase, get?, h.symm] using ih'
    · simp only [erase, List.filter_cons, hk, ne_eq, not_false_eq_true, decide_true, if_true, get?]
      rw [ih']

end Assoc

end Workflow
