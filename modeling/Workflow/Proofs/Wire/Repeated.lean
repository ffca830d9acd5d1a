import Workflow.Proofs.Wire.Agrees
import Workflow.Proofs.Wire.Reads

/-!
# Reading a text and reading its value

A record can be read off a text, or off the value that the text stands for.  Of
a name that stands twice in an object the value has the last member only, so it
cannot be told from the value that a name is repeated; where a text is read, a
known name that is repeated is refused.  `Decoder.Mirrors` says that this is the
only difference: the text is read like its value, if it is `plain`.
-/

namespace Workflow

namespace Document

/-! ## Documents and their values -/

/-- The members of a name. -/
def membersOf (name : String) (members : List (Option String × Document)) :
    List Document :=
  (members.filter (·.1 = some name)).map (·.2)

/-- No two members have the name. -/
def Once (name : String) : Document → Prop
  | .record members _ => (membersOf name members).length ≤ 1
  | _ => True

/-- What is read as a member: the members of its name, or the item at its
position. -/
def partsOf (name : String) (position : Nat) : Document → List Document
  | .record members _ => membersOf name members
  | .list items _ => (items.drop position).take 1
  | _ => []

/-- The items of a list. -/
def itemsOf : Document → List Document
  | .list items _ => items
  | _ => []

/-- The value of a document that has one, by the form of the document. -/
inductive Stands : Nat → Document → Json → Prop
  | null {room : Nat} : Stands room .null .null
  | bool {room : Nat} (value : Bool) : Stands room (.bool value) (.bool value)
  | number {room : Nat} (value : Number) :
      Stands room (.number (some value)) (.number value)
  | text {room : Nat} (value : String) :
      Stands room (.text (some value)) (.text value)
  | list {room : Nat} {items : List Document} {values : List Json}
      (hitems : toItems? room items = some values) :
      Stands (room + 1) (.list items true) (.list values)
  | record {room : Nat} {members : List (Option String × Document)}
      {values : Assoc Json}
      (hmembers : toMembers? room [] members = some values) :
      Stands (room + 1) (.record members true) (.record values)

theorem stands_of_toJson? {room : Nat} {document : Document} {value : Json}
    (hread : document.toJson? room = some value) :
    Stands room document value := by
  cases document with
  | broken => simp [toJson?] at hread
  | null =>
      obtain rfl := Option.some.inj hread
      exact .null
  | bool truth =>
      obtain rfl := Option.some.inj hread
      exact .bool truth
  | number value =>
      obtain ⟨number, rfl, rfl⟩ := Option.map_eq_some_iff.mp hread
      exact .number number
  | text value =>
      obtain ⟨text, rfl, rfl⟩ := Option.map_eq_some_iff.mp hread
      exact .text text
  | list items closed =>
      match room, closed, hread with
      | room + 1, true, hread =>
          obtain ⟨values, hitems, rfl⟩ := Option.map_eq_some_iff.mp hread
          exact .list hitems
  | record members closed =>
      match room, closed, hread with
      | room + 1, true, hread =>
          obtain ⟨values, hmembers, rfl⟩ := Option.map_eq_some_iff.mp hread
          exact .record hmembers

mutual

/-- The grammar holds throughout a document that has a value. -/
theorem whole_of_toJson? {room : Nat} : {document : Document} →
    {value : Json} → document.toJson? room = some value →
      document.whole = true
  | .broken, _, hread => by simp [toJson?] at hread
  | .null, _, _ | .bool _, _, _ | .number _, _, _ | .text _, _, _ => by
      simp [whole]
  | .list items closed, _, hread => by
      match room, closed, hread with
      | room + 1, true, hread =>
          obtain ⟨values, hitems, -⟩ := Option.map_eq_some_iff.mp hread
          simp [whole, wholeItems_of_toItems? hitems]
  | .record members closed, _, hread => by
      match room, closed, hread with
      | room + 1, true, hread =>
          obtain ⟨values, hmembers, -⟩ := Option.map_eq_some_iff.mp hread
          simp [whole, wholeMembers_of_toMembers? hmembers]

theorem wholeItems_of_toItems? {room : Nat} : {items : List Document} →
    {values : List Json} → toItems? room items = some values →
      wholeItems items = true
  | [], _, _ => rfl
  | item :: rest, _, hread => by
      unfold toItems? at hread
      split at hread
      · contradiction
      · next hitem =>
          obtain ⟨values, hrest, -⟩ := Option.map_eq_some_iff.mp hread
          simp [wholeItems, whole_of_toJson? hitem,
            wholeItems_of_toItems? hrest]

theorem wholeMembers_of_toMembers? {room : Nat} {sofar : Assoc Json} :
    {members : List (Option String × Document)} → {values : Assoc Json} →
      toMembers? room sofar members = some values →
      wholeMembers members = true
  | [], _, _ => rfl
  | (none, _) :: _, _, hread => by simp [toMembers?] at hread
  | (some name, document) :: rest, _, hread => by
      unfold toMembers? at hread
      split at hread
      · contradiction
      · next hvalue =>
          simp [wholeMembers, whole_of_toJson? hvalue,
            wholeMembers_of_toMembers? hread]

end

/-! ## Members of a value -/

@[simp] theorem membersOf_nil (name : String) : membersOf name [] = [] := rfl

theorem membersOf_cons (name : String) (member : Option String × Document)
    (members : List (Option String × Document)) :
    membersOf name (member :: members) =
      (if member.1 = some name then [member.2] else []) ++
        membersOf name members := by
  by_cases hname : member.1 = some name <;> simp [membersOf, hname]

/-- The last member of a name has its value. -/
theorem get?_of_toMembers? {room : Nat} {name : String} {sofar values : Assoc Json}
    {members : List (Option String × Document)}
    (hread : toMembers? room sofar members = some values) :
    Assoc.get? values name =
      match (membersOf name members).getLast? with
      | some document => document.toJson? room
      | none => Assoc.get? sofar name := by
  induction members generalizing sofar with
  | nil =>
      obtain rfl := Option.some.inj hread
      rfl
  | cons member rest ih =>
      obtain ⟨found, document⟩ := member
      cases found with
      | none => simp [toMembers?] at hread
      | some key =>
          unfold toMembers? at hread
          split at hread
          · contradiction
          · next value hvalue =>
              have hrest := ih hread
              rw [hrest, membersOf_cons]
              by_cases hkey : key = name
              · subst hkey
                have hlast : ((if some key = some key then [document] else []) ++
                    membersOf key rest).getLast? =
                      some ((membersOf key rest).getLast?.getD document) := by
                  simp [List.getLast?_cons]
                rw [hlast]
                cases hrest : (membersOf key rest).getLast? with
                | some last => simp
                | none => simp [Assoc.get?_insert_self, hvalue]
              · simp [hkey, Assoc.get?_insert_of_ne _ _ (Ne.symm hkey)]

theorem get?_of_toMembers?_nil {room : Nat} {name : String} {values : Assoc Json}
    {members : List (Option String × Document)}
    (hread : toMembers? room [] members = some values) :
    Assoc.get? values name =
      (membersOf name members).getLast?.bind (toJson? room) := by
  rw [get?_of_toMembers? hread]
  cases (membersOf name members).getLast? <;> rfl

theorem length_of_toItems? {room : Nat} {items : List Document}
    {values : List Json} (hread : toItems? room items = some values) :
    values.length = items.length := by
  induction items generalizing values with
  | nil =>
      obtain rfl := Option.some.inj hread
      rfl
  | cons item rest ih =>
      unfold toItems? at hread
      split at hread
      · contradiction
      · obtain ⟨others, hrest, rfl⟩ := Option.map_eq_some_iff.mp hread
        simp [ih hrest]

/-- The items from a position on have the values from there on. -/
theorem toItems?_drop {room : Nat} {items : List Document} {values : List Json}
    (hread : toItems? room items = some values) (position : Nat) :
    toItems? room (items.drop position) = some (values.drop position) := by
  induction items generalizing values position with
  | nil =>
      obtain rfl := Option.some.inj hread
      simp [toItems?]
  | cons item rest ih =>
      cases position with
      | zero => exact hread
      | succ position =>
          unfold toItems? at hread
          split at hread
          · contradiction
          · obtain ⟨others, hrest, rfl⟩ := Option.map_eq_some_iff.mp hread
            exact ih hrest position

/-- The members of an object with a value have names and values. -/
theorem exists_of_mem {room : Nat} {sofar values : Assoc Json}
    {members : List (Option String × Document)}
    (hread : toMembers? room sofar members = some values)
    {member : Option String × Document} (hmem : member ∈ members) :
    ∃ name value, member.1 = some name ∧ member.2.toJson? room = some value := by
  induction members generalizing sofar with
  | nil => simp at hmem
  | cons first rest ih =>
      obtain ⟨found, document⟩ := first
      cases found with
      | none => simp [toMembers?] at hread
      | some key =>
          unfold toMembers? at hread
          split at hread
          · contradiction
          · next value hvalue =>
              rcases List.mem_cons.mp hmem with rfl | hmem
              · exact ⟨key, value, rfl, hvalue⟩
              · exact ih hread hmem

/-- Every member of a name has a value. -/
theorem exists_of_mem_membersOf {room : Nat} {name : String}
    {sofar values : Assoc Json} {members : List (Option String × Document)}
    (hread : toMembers? room sofar members = some values) {document : Document}
    (hmem : document ∈ membersOf name members) :
    ∃ value, document.toJson? room = some value := by
  obtain ⟨member, hmember, rfl⟩ := List.mem_map.mp hmem
  obtain ⟨-, value, -, hvalue⟩ :=
    exists_of_mem hread (List.mem_filter.mp hmember).1
  exact ⟨value, hvalue⟩

theorem sorted_of_toMembers? {room : Nat} {values : Assoc Json}
    {members : List (Option String × Document)}
    (hread : toMembers? room [] members = some values) : values.Sorted := by
  have hnil : (Json.record []).Canonical := Json.canonical_record.mpr (by simp)
  exact (Json.canonical_record.mp (canonical_of_toMembers? hnil hread)).1

/-- In what a value is spelled out as, a name stands once or not at all. -/
theorem membersOf_ofMembers {values : Assoc Json} (hsorted : values.Sorted)
    (name : String) :
    membersOf name (ofMembers values) =
      ((values.get? name).map ofJson).toList := by
  induction values with
  | nil => rfl
  | cons value values ih =>
      obtain ⟨key, value⟩ := value
      obtain ⟨hlater, hrest⟩ := Assoc.sorted_cons.mp hsorted
      rw [ofMembers, membersOf_cons, ih hrest]
      by_cases hkey : key = name
      · subst hkey
        have hnone : Assoc.get? values key = none := by
          refine Assoc.get?_eq_none_iff.mpr fun later hmem heq => ?_
          exact String.lt_irrefl _ (heq ▸ hlater later hmem)
        simp [hnone]
      · simp [hkey]

theorem length_ofItems (values : List Json) :
    (ofItems values).length = values.length := by
  induction values with
  | nil => rfl
  | cons value values ih => simp [ofItems, ih]

theorem ofItems_drop (values : List Json) (position : Nat) :
    (ofItems values).drop position = ofItems (values.drop position) := by
  induction values generalizing position with
  | nil => simp [ofItems]
  | cons value values ih =>
      cases position with
      | zero => rfl
      | succ position => exact ih position

end Document

namespace Wire

open Document (Stands Once membersOf partsOf itemsOf)

variable {α β : Type}

/-! ## Readers of a text and of its value -/

/-- A decoder reads a text like its value, if the text is plain. -/
def Decoder.Mirrors (decoder : Decoder α) (plain : Document → Prop) : Prop :=
  ∀ room document value, document.toJson? room = some value → ∀ x,
    decoder ⟨.text, room⟩ document = .ok x ↔
      decoder ⟨.value, 0⟩ (Document.ofJson value) = .ok x ∧ plain document

/-- The members of an object with their positions. -/
def placed (start : Nat) (members : List (Option String × Document)) :
    List Placed :=
  (members.zipIdx start).map fun member => (member.2, member.1)

/-- A description of a record reads the members off a text like those off its
value, if the text is plain; of a list it reads the items from a position on. -/
structure Fields.Mirrors (fields : Fields α) (start : Nat)
    (plain : Document → Prop) : Prop where
  ofMembers {room : Nat} {members : List (Option String × Document)}
    {values : Assoc Json}
    (hmembers : Document.toMembers? room [] members = some values) (x : α) :
    fields.ofMembers ⟨.text, room⟩ (placed 0 members) = .ok x ↔
      fields.ofMembers ⟨.value, 0⟩ (placedFrom 0 values) = .ok x ∧
        plain (.record members true)
  ofItems {room : Nat} {items : List Document} {values : List Json}
    (hitems : Document.toItems? room items = some values) (position : Nat)
    (x : α) :
    fields.ofItems ⟨.text, room⟩ position (items.drop start) = .ok x ↔
      fields.ofItems ⟨.value, 0⟩ position
          (Document.ofItems (values.drop start)) = .ok x ∧
        plain (.list items true)

namespace Decoder

theorem Mirrors.congr {decoder : Decoder α} {plain plain' : Document → Prop}
    (hmirrors : decoder.Mirrors plain)
    (hplain : ∀ document, plain document ↔ plain' document) :
    decoder.Mirrors plain' := by
  intro room document value hread x
  rw [hmirrors room document value hread, hplain]

theorem mirrors_string : string.Mirrors fun _ => True := by
  intro room document value hread x
  cases Document.stands_of_toJson? hread <;>
    simp [string, Document.ofJson, mistyped]

theorem mirrors_json : json.Mirrors fun _ => True := by
  intro room document value hread x
  have hvalue := reads_json (Document.canonical_of_toJson? hread) ⟨.value, 0⟩ nofun
  rw [hvalue]
  simp [json, hread]

theorem optional_eq_ok_iff {decoder : Decoder α} {place : Place}
    {document : Document} {x : Option α} :
    decoder.optional place document = .ok x ↔
      (document = .null ∧ x = none) ∨
        document ≠ .null ∧ ∃ y, decoder place document = .ok y ∧ x = some y := by
  by_cases hnull : document = .null
  · subst hnull
    simp [Decoder.optional, eq_comm]
  · have hread : decoder.optional place document =
        (decoder place document).map some := by
      cases document <;> first | rfl | contradiction
    rw [hread]
    cases decoder place document <;> simp [Except.map, hnull, eq_comm]

theorem Mirrors.optional {decoder : Decoder α}
    (hmirrors : decoder.Mirrors fun _ => True) :
    decoder.optional.Mirrors fun _ => True := by
  intro room document value hread x
  have hnull : document = .null ↔ Document.ofJson value = .null := by
    constructor
    · rintro rfl
      obtain rfl := Option.some.inj hread
      rfl
    · intro hspelled
      have hvalue : value = .null := by
        cases value <;> simp_all [Document.ofJson]
      exact Document.eq_null_of_toJson? (hvalue ▸ hread)
  simp only [optional_eq_ok_iff, hmirrors room document value hread, ne_eq,
    hnull, and_true]

theorem Mirrors.items {decoder : Decoder α} {plain : Document → Prop}
    (hmirrors : decoder.Mirrors plain) {room : Nat} {documents : List Document}
    {values : List Json} (hread : Document.toItems? room documents = some values)
    (xs : List α) :
    items decoder ⟨.text, room⟩ documents = .ok xs ↔
      items decoder ⟨.value, 0⟩ (Document.ofItems values) = .ok xs ∧
        ∀ document ∈ documents, plain document := by
  induction documents generalizing values xs with
  | nil =>
      obtain rfl := Option.some.inj hread
      simp [Document.ofItems, Decoder.items]
  | cons document rest ih =>
      unfold Document.toItems? at hread
      split at hread
      · contradiction
      · next value hvalue =>
          obtain ⟨others, hrest, rfl⟩ := Option.map_eq_some_iff.mp hread
          simp only [Document.ofItems, items_cons_eq_ok_iff, ih hrest,
            hmirrors room document value hvalue, List.forall_mem_cons]
          constructor
          · rintro ⟨x, xs, ⟨hx, hplain⟩, ⟨hxs, hall⟩, rfl⟩
            exact ⟨⟨x, xs, hx, hxs, rfl⟩, hplain, hall⟩
          · rintro ⟨⟨x, xs, hx, hxs, rfl⟩, hplain, hall⟩
            exact ⟨x, xs, ⟨hx, hplain⟩, ⟨hxs, hall⟩, rfl⟩

/-- A list is plain if its items are. -/
theorem Mirrors.list {decoder : Decoder α} {plain : Document → Prop}
    (hmirrors : decoder.Mirrors plain) :
    (list decoder).Mirrors fun document =>
      ∀ item ∈ itemsOf document, plain item := by
  intro room document value hread xs
  simp only [list_eq_ok_iff]
  constructor
  · rintro ⟨documents, inside, rfl, hinside, hitems⟩
    obtain hstands := Document.stands_of_toJson? hread
    cases hstands with
    | list hvalues =>
        obtain rfl := Except.ok.inj hinside
        obtain ⟨hitems, hall⟩ := (hmirrors.items hvalues xs).mp hitems
        exact ⟨⟨_, ⟨.value, 0⟩, rfl, rfl, hitems⟩, hall⟩
  · rintro ⟨⟨documents, inside, hdocument, hinside, hitems⟩, hall⟩
    obtain rfl := Except.ok.inj hinside
    cases Document.stands_of_toJson? hread with
    | list hvalues =>
        obtain ⟨rfl, -⟩ := Document.list.inj hdocument
        exact ⟨_, _, rfl, rfl, (hmirrors.items hvalues xs).mpr ⟨hitems, hall⟩⟩
    | _ => simp [Document.ofJson] at hdocument

end Decoder

namespace Fields

section Made

variable {place : Place} {members : List Placed} {position : Nat}
variable {items : List Document} {y : β}

theorem map_ofMembers_eq_ok_iff {f : α → β} {fields : Fields α} :
    (f <$> fields).ofMembers place members = .ok y ↔
      ∃ x, fields.ofMembers place members = .ok x ∧ f x = y := by
  change Reading.both (.ok f) (fields.ofMembers place members) = .ok y ↔ _
  simp [Reading.both_eq_ok_iff]

theorem map_ofItems_eq_ok_iff {f : α → β} {fields : Fields α} :
    (f <$> fields).ofItems place position items = .ok y ↔
      ∃ x, fields.ofItems place position items = .ok x ∧ f x = y := by
  change Reading.both (.ok f) (fields.ofItems place (position + 0)
    (items.drop 0)) = .ok y ↔ _
  simp [Reading.both_eq_ok_iff]

theorem seq_ofMembers_eq_ok_iff {fields : Fields (α → β)} {last : Fields α} :
    (fields <*> last).ofMembers place members = .ok y ↔
      ∃ f x, fields.ofMembers place members = .ok f ∧
        last.ofMembers place members = .ok x ∧ f x = y :=
  Reading.both_eq_ok_iff

theorem seq_ofItems_eq_ok_iff {fields : Fields (α → β)} {last : Fields α} :
    (fields <*> last).ofItems place position items = .ok y ↔
      ∃ f x, fields.ofItems place position items = .ok f ∧
        last.ofItems place (position + fields.count)
          (items.drop fields.count) = .ok x ∧ f x = y :=
  Reading.both_eq_ok_iff

end Made

variable {start : Nat} {plain plain' : Document → Prop}

theorem Mirrors.map {fields : Fields α} (hmirrors : fields.Mirrors start plain)
    (f : α → β) : (f <$> fields).Mirrors start plain where
  ofMembers hmembers y := by
    simp only [map_ofMembers_eq_ok_iff, hmirrors.ofMembers hmembers]
    constructor
    · rintro ⟨x, ⟨hx, hplain⟩, hy⟩
      exact ⟨⟨x, hx, hy⟩, hplain⟩
    · rintro ⟨⟨x, hx, hy⟩, hplain⟩
      exact ⟨x, ⟨hx, hplain⟩, hy⟩
  ofItems hitems position y := by
    simp only [map_ofItems_eq_ok_iff, hmirrors.ofItems hitems]
    constructor
    · rintro ⟨x, ⟨hx, hplain⟩, hy⟩
      exact ⟨⟨x, hx, hy⟩, hplain⟩
    · rintro ⟨⟨x, hx, hy⟩, hplain⟩
      exact ⟨x, ⟨hx, hplain⟩, hy⟩

/-- The last member starts where the ones before it end. -/
theorem Mirrors.seq {fields : Fields (α → β)} {last : Fields α}
    (hmirrors : fields.Mirrors start plain)
    (hlast : last.Mirrors (start + fields.count) plain') :
    (fields <*> last).Mirrors start fun document =>
      plain document ∧ plain' document where
  ofMembers hmembers y := by
    simp only [seq_ofMembers_eq_ok_iff, hmirrors.ofMembers hmembers,
      hlast.ofMembers hmembers]
    constructor
    · rintro ⟨f, x, ⟨hf, hplain⟩, ⟨hx, hplain'⟩, hy⟩
      exact ⟨⟨f, x, hf, hx, hy⟩, hplain, hplain'⟩
    · rintro ⟨⟨f, x, hf, hx, hy⟩, hplain, hplain'⟩
      exact ⟨f, x, ⟨hf, hplain⟩, ⟨hx, hplain'⟩, hy⟩
  ofItems hitems position y := by
    simp only [seq_ofItems_eq_ok_iff, hmirrors.ofItems hitems, List.drop_drop,
      Document.ofItems_drop, hlast.ofItems hitems]
    constructor
    · rintro ⟨f, x, ⟨hf, hplain⟩, ⟨hx, hplain'⟩, hy⟩
      exact ⟨⟨f, x, hf, hx, hy⟩, hplain, hplain'⟩
    · rintro ⟨⟨f, x, hf, hx, hy⟩, hplain, hplain'⟩
      exact ⟨f, x, ⟨hf, hplain⟩, ⟨hx, hplain'⟩, hy⟩

/-- One member is read if there is one of its name. -/
theorem oneOf_eq_ok_iff {names : List String} {decoder : Decoder α}
    {absent : Reading α} {short : Nat → Reading α} {place : Place}
    {members : List Placed} {x : α} :
    (oneOf names decoder absent short).ofMembers place members = .ok x ↔
      let found := (members.filter fun member =>
        member.2.1.any names.contains).map (·.2.2)
      (found = [] ∧ absent = .ok x) ∨
        ∃ document, found = [document] ∧ decoder place document = .ok x := by
  simp only [oneOf]
  split
  · next hnone => simp [hnone]
  · next position name document rest hfound =>
      cases hread : decoder place document with
      | error fault => simp [hfound, hread]
      | ok value => cases rest <;> simp [hfound, hread]

theorem map_filter_placed (members : List (Option String × Document))
    (name : String) (start : Nat) :
    ((placed start members).filter fun member =>
      member.2.1.any [name].contains).map (·.2.2) = membersOf name members := by
  induction members generalizing start with
  | nil => rfl
  | cons member members ih =>
      obtain ⟨found, document⟩ := member
      have hcons : placed start ((found, document) :: members) =
          (start, found, document) :: placed (start + 1) members := rfl
      rw [hcons, Document.membersOf_cons, ← ih (start + 1)]
      by_cases hfound : found = some name
      · simp [hfound]
      · have hnot : found.any [name].contains = false := by
          cases found <;> simp_all
        simp [hfound, hnot]

theorem ofItems_oneOf_cons_eq_ok_iff {names : List String}
    {decoder : Decoder α} {absent : Reading α} {short : Nat → Reading α}
    {place : Place} {position : Nat} {document : Document}
    {rest : List Document} {x : α} :
    (oneOf names decoder absent short).ofItems place position
        (document :: rest) = .ok x ↔ decoder place document = .ok x := by
  cases hread : decoder place document <;> simp [oneOf, hread]

theorem mirrors_oneOf {name : String} {decoder : Decoder α} {absent : Reading α}
    {short : Nat → Reading α} (hmirrors : decoder.Mirrors plain) (start : Nat) :
    (oneOf [name] decoder absent short).Mirrors start fun document =>
      Once name document ∧ ∀ part ∈ partsOf name start document, plain part where
  ofMembers {room members values} hmembers x := by
    have hplaced : placedFrom 0 values = placed 0 (Document.ofMembers values) := rfl
    have hvalues := Document.membersOf_ofMembers
      (Document.sorted_of_toMembers? hmembers) name
    rw [Document.get?_of_toMembers?_nil hmembers] at hvalues
    simp only [oneOf_eq_ok_iff, hplaced, map_filter_placed, hvalues, Once, partsOf]
    rcases hfound : membersOf name members with - | ⟨document, - | ⟨again, rest⟩⟩
    · simp
    · have hmem : document ∈ membersOf name members := by simp [hfound]
      obtain ⟨value, hvalue⟩ := Document.exists_of_mem_membersOf hmembers hmem
      simp [hvalue, hmirrors room document value hvalue]
    · simp
  ofItems {room items values} hitems position x := by
    have hdrop := Document.toItems?_drop hitems start
    simp only [Once, partsOf, true_and]
    cases hrest : items.drop start with
    | nil =>
        rw [hrest] at hdrop
        simp [oneOf, ← Option.some.inj hdrop, Document.ofItems]
    | cons document rest =>
        rw [hrest] at hdrop
        unfold Document.toItems? at hdrop
        split at hdrop
        · contradiction
        · next value hvalue =>
            obtain ⟨others, -, hvalues⟩ := Option.map_eq_some_iff.mp hdrop
            simp [← hvalues, Document.ofItems, ofItems_oneOf_cons_eq_ok_iff,
              hmirrors room document value hvalue]

section Members

variable {decoder : Decoder α} (hmirrors : decoder.Mirrors plain)
variable (name : String) (start : Nat)
include hmirrors

theorem mirrors_required :
    (required name decoder).Mirrors start fun document =>
      Once name document ∧ ∀ part ∈ partsOf name start document, plain part :=
  mirrors_oneOf hmirrors start

theorem mirrors_withDefault (value : α) :
    (withDefault name decoder value).Mirrors start fun document =>
      Once name document ∧ ∀ part ∈ partsOf name start document, plain part :=
  mirrors_oneOf hmirrors start

end Members

theorem mirrors_optional {decoder : Decoder α}
    (hmirrors : decoder.Mirrors fun _ => True) (name : String) (start : Nat) :
    (optional name decoder).Mirrors start fun document =>
      Once name document ∧ ∀ part ∈ partsOf name start document, True :=
  mirrors_withDefault hmirrors.optional name start none

end Fields

/-! ## Records -/

/-- Nothing breaks off a text that has a value. -/
theorem firstBreak_placed {room : Nat} {sofar values : Assoc Json}
    {members : List (Option String × Document)} (known : List String)
    (hmembers : Document.toMembers? room sofar members = some values) :
    firstBreak known (placed 0 members) true = none := by
  unfold firstBreak
  split
  · next member hfound =>
      have hbreak := List.find?_some hfound
      obtain ⟨⟨⟨found, document⟩, position⟩, hzip, rfl⟩ :=
        List.mem_map.mp (List.mem_of_find?_eq_some hfound)
      obtain ⟨name, value, hname, hvalue⟩ :=
        Document.exists_of_mem hmembers (List.fst_mem_of_mem_zipIdx hzip)
      have hwhole : document.whole = true := Document.whole_of_toJson? hvalue
      obtain rfl : found = some name := hname
      simp [hwhole] at hbreak
  · rfl

/-- A record is plain if its members are. -/
theorem Decoder.mirrors_record {what : String} {fields : Fields α}
    {plain : Document → Prop} (hmirrors : fields.Mirrors 0 plain) :
    (record what fields).Mirrors plain := by
  intro room document value hread x
  simp only [record_eq_ok_iff]
  constructor
  · rintro (⟨members, closed, inside, rfl, hinside, hfields, -⟩ |
      ⟨items, inside, rfl, hinside, hfields, hlength⟩)
    · cases Document.stands_of_toJson? hread with
      | record hmembers =>
          obtain rfl := Except.ok.inj hinside
          obtain ⟨hfields, hplain⟩ := (hmirrors.ofMembers hmembers x).mp hfields
          refine ⟨.inl ⟨_, true, _, rfl, rfl, hfields, ?_⟩, hplain⟩
          exact firstBreak_placedFrom _ _ 0
    · cases Document.stands_of_toJson? hread with
      | list hitems =>
          obtain rfl := Except.ok.inj hinside
          obtain ⟨hfields, hplain⟩ := (hmirrors.ofItems hitems 0 x).mp hfields
          refine ⟨.inr ⟨_, _, rfl, rfl, hfields, ?_⟩, hplain⟩
          rwa [Document.length_ofItems, Document.length_of_toItems? hitems]
  · rintro ⟨⟨members, closed, inside, hdocument, hinside, hfields, -⟩ |
      ⟨items, inside, hdocument, hinside, hfields, hlength⟩, hplain⟩
    · obtain rfl := Except.ok.inj hinside
      cases Document.stands_of_toJson? hread with
      | record hmembers =>
          obtain ⟨rfl, -⟩ := Document.record.inj hdocument
          have hread := (hmirrors.ofMembers hmembers x).mpr ⟨hfields, hplain⟩
          exact .inl ⟨_, true, _, rfl, rfl, hread, firstBreak_placed _ hmembers⟩
      | _ => simp [Document.ofJson] at hdocument
    · obtain rfl := Except.ok.inj hinside
      cases Document.stands_of_toJson? hread with
      | list hitems =>
          obtain ⟨rfl, -⟩ := Document.list.inj hdocument
          have hread := (hmirrors.ofItems hitems 0 x).mpr ⟨hfields, hplain⟩
          rw [Document.length_ofItems, Document.length_of_toItems? hitems] at hlength
          exact .inr ⟨_, _, rfl, rfl, hread, hlength⟩
      | _ => simp [Document.ofJson] at hdocument

/-- A text that has a value is read like the value, if it is plain. -/
theorem ofText_eq_ok_iff_ofValue {decoder : Decoder α} {plain : Document → Prop}
    (hmirrors : decoder.Mirrors plain) {text : String} {value : Json}
    (hparse : Json.parse? text = some value) (x : α) :
    ofText decoder text = .ok x ↔
      ofValue decoder value = .ok x ∧ plain (Document.scan text).1 := by
  unfold Json.parse? Json.parseWithin? at hparse
  split at hparse
  · next document hscan =>
      have hread := hmirrors Json.maxDepth document value hparse x
      rw [hscan]
      refine Iff.trans ?_ hread
      simp only [ofText, hscan, if_true]
      cases decoder ⟨.text, Json.maxDepth⟩ document <;> simp
  · contradiction

end Wire

end Workflow
