import Workflow.Json.Document
import Workflow.Proofs.Assoc

/-!
# Values and their documents

A value is `Canonical` when all of its objects are sorted, which is how
objects are built and read.  The document that spells out a canonical value is
read as that value wherever there is room for it (`toJson?_ofJson`), and
whatever is read is canonical (`canonical_of_toJson?`).
-/

namespace Workflow

namespace Json

mutual

/-- All objects are sorted, at all levels. -/
def Canonical : Json → Prop
  | .list items => CanonicalItems items
  | .record members => Assoc.Sorted members ∧ CanonicalMembers members
  | _ => True

def CanonicalItems : List Json → Prop
  | [] => True
  | item :: rest => Canonical item ∧ CanonicalItems rest

def CanonicalMembers : List (String × Json) → Prop
  | [] => True
  | (_, value) :: rest => Canonical value ∧ CanonicalMembers rest

end

@[simp] theorem canonical_null : Canonical null := trivial

@[simp] theorem canonical_bool (value : Bool) : Canonical (bool value) := trivial

@[simp] theorem canonical_number (value : Number) : Canonical (number value) :=
  trivial

@[simp] theorem canonical_text (value : String) : Canonical (text value) := trivial

@[simp] theorem canonical_nat (value : Nat) : Canonical (nat value) := trivial

@[simp] theorem nat_ne_null (value : Nat) : nat value ≠ null := by
  simp [nat]

theorem canonicalItems_iff {items : List Json} :
    CanonicalItems items ↔ ∀ item ∈ items, item.Canonical := by
  induction items with
  | nil => simp [CanonicalItems]
  | cons item rest ih => simp [CanonicalItems, ih]

theorem canonicalMembers_iff {members : List (String × Json)} :
    CanonicalMembers members ↔ ∀ member ∈ members, member.2.Canonical := by
  induction members with
  | nil => simp [CanonicalMembers]
  | cons member rest ih => simp [CanonicalMembers, ih]

@[simp] theorem canonical_list {items : List Json} :
    Canonical (list items) ↔ ∀ item ∈ items, item.Canonical :=
  canonicalItems_iff

@[simp] theorem canonical_record {members : Assoc Json} :
    Canonical (record members) ↔
      members.Sorted ∧ ∀ member ∈ members, member.2.Canonical :=
  and_congr_right fun _ => canonicalMembers_iff

/-- An object is sorted by being built. -/
theorem canonical_ofMembers {members : List (String × Json)}
    (hmembers : ∀ member ∈ members, member.2.Canonical) :
    (ofMembers members).Canonical :=
  canonical_record.mpr ⟨Assoc.sorted_ofList members,
    fun member hmem => hmembers member (Assoc.mem_ofList hmem)⟩

/-- A value that is told from an absent one when it is written. -/
def Definite (value : Option Json) : Prop :=
  ∀ present ∈ value, present.Canonical ∧ present ≠ .null

theorem definite_none : Definite none :=
  nofun

theorem Definite.canonical {value : Option Json} (hvalue : Definite value) :
    ∀ present ∈ value, present.Canonical :=
  fun present hmem => (hvalue present hmem).1

theorem canonical_orNull {value : Option Json}
    (hvalue : ∀ some_ ∈ value, some_.Canonical) : (orNull value).Canonical := by
  cases value with
  | none => trivial
  | some value => exact hvalue value rfl

end Json

namespace Document

open Json (Canonical CanonicalItems CanonicalMembers)

/-! ## Room -/

theorem depthItems_le_iff {items : List Json} {room : Nat} :
    depthItems (ofItems items) ≤ room ↔
      ∀ item ∈ items, (ofJson item).depth ≤ room := by
  induction items with
  | nil => simp [ofItems, depthItems]
  | cons item rest ih =>
      simp only [ofItems, depthItems, Nat.max_le, List.forall_mem_cons, ih]

theorem depthMembers_le_iff {members : Assoc Json} {room : Nat} :
    depthMembers (ofMembers members) ≤ room ↔
      ∀ member ∈ members, (ofJson member.2).depth ≤ room := by
  induction members with
  | nil => simp [ofMembers, depthMembers]
  | cons member rest ih =>
      simp only [ofMembers, depthMembers, Nat.max_le, List.forall_mem_cons, ih]

/-! ## Reading what a value is spelled out as -/

mutual

theorem toJson?_ofJson {room : Nat} :
    {value : Json} → value.Canonical → (ofJson value).depth ≤ room →
      (ofJson value).toJson? room = some value
  | .null, _, _ | .bool _, _, _ | .number _, _, _ | .text _, _, _ => by
      simp [ofJson, toJson?]
  | .list items, hcanonical, hdepth => by
      match room with
      | 0 => simp [ofJson, depth] at hdepth
      | room + 1 =>
          have hitems := toItems?_ofItems hcanonical
            (Nat.le_of_succ_le_succ hdepth)
          simp [ofJson, toJson?, hitems]
  | .record members, ⟨hsorted, hcanonical⟩, hdepth => by
      match room with
      | 0 => simp [ofJson, depth] at hdepth
      | room + 1 =>
          have hsorted : Assoc.Sorted ([] ++ members) := hsorted
          have hmembers := toMembers?_ofMembers hsorted hcanonical
            (Nat.le_of_succ_le_succ hdepth)
          simp [ofJson, toJson?, hmembers]

theorem toItems?_ofItems {room : Nat} :
    {items : List Json} → CanonicalItems items →
      depthItems (ofItems items) ≤ room →
      toItems? room (ofItems items) = some items
  | [], _, _ => rfl
  | item :: rest, ⟨hitem, hrest⟩, hdepth => by
      have hdepth := Nat.max_le.mp hdepth
      have hitem := toJson?_ofJson hitem hdepth.1
      have hrest := toItems?_ofItems hrest hdepth.2
      simp [ofItems, toItems?, hitem, hrest]

theorem toMembers?_ofMembers {room : Nat} {sofar : Assoc Json} :
    {members : List (String × Json)} → Assoc.Sorted (sofar ++ members) →
      CanonicalMembers members → depthMembers (ofMembers members) ≤ room →
      toMembers? room sofar (ofMembers members) = some (sofar ++ members)
  | [], _, _, _ => by simp [ofMembers, toMembers?]
  | (name, value) :: rest, hsorted, ⟨hvalue, hrest⟩, hdepth => by
      have hdepth := Nat.max_le.mp hdepth
      have hvalue := toJson?_ofJson hvalue hdepth.1
      have hlt : ∀ entry ∈ sofar, entry.1 < name := fun entry hmem =>
        (List.pairwise_append.mp hsorted).2.2 entry hmem (name, value)
          List.mem_cons_self
      rw [List.append_cons] at hsorted ⊢
      have hrest := toMembers?_ofMembers hsorted hrest hdepth.2
      simp [ofMembers, toMembers?, hvalue, Assoc.insert_of_forall_lt hlt, hrest]

end

mutual

/-- The grammar holds throughout what a value is spelled out as. -/
theorem whole_ofJson : (value : Json) → (ofJson value).whole = true
  | .null | .bool _ | .number _ | .text _ => by simp [ofJson, whole]
  | .list items => by simp [ofJson, whole, wholeItems_ofItems items]
  | .record members => by simp [ofJson, whole, wholeMembers_ofMembers members]

theorem wholeItems_ofItems :
    (items : List Json) → wholeItems (ofItems items) = true
  | [] => rfl
  | item :: rest => by
      simp [ofItems, wholeItems, whole_ofJson item, wholeItems_ofItems rest]

theorem wholeMembers_ofMembers :
    (members : List (String × Json)) → wholeMembers (ofMembers members) = true
  | [] => rfl
  | (_, value) :: rest => by
      simp [ofMembers, wholeMembers, whole_ofJson value,
        wholeMembers_ofMembers rest]

end

/-! ## Reading any document -/

mutual

/-- What is read is canonical. -/
theorem canonical_of_toJson? {room : Nat} :
    {document : Document} → {value : Json} →
      document.toJson? room = some value → value.Canonical
  | .broken, _, hread => by simp [toJson?] at hread
  | .null, _, hread => by
      obtain rfl := Option.some.inj hread
      trivial
  | .bool _, _, hread => by
      obtain rfl := Option.some.inj hread
      trivial
  | .number _, _, hread => by
      obtain ⟨_, _, rfl⟩ := Option.map_eq_some_iff.mp hread
      trivial
  | .text _, _, hread => by
      obtain ⟨_, _, rfl⟩ := Option.map_eq_some_iff.mp hread
      trivial
  | .list items closed, value, hread => by
      match room, hread with
      | 0, hread => simp [toJson?] at hread
      | room + 1, hread =>
          cases closed with
          | false => simp [toJson?] at hread
          | true =>
              obtain ⟨_, hitems, rfl⟩ := Option.map_eq_some_iff.mp hread
              exact canonicalItems_of_toItems? hitems
  | .record members closed, value, hread => by
      match room, hread with
      | 0, hread => simp [toJson?] at hread
      | room + 1, hread =>
          cases closed with
          | false => simp [toJson?] at hread
          | true =>
              obtain ⟨_, hmembers, rfl⟩ := Option.map_eq_some_iff.mp hread
              exact canonical_of_toMembers? (Json.canonical_record.mpr (by simp))
                hmembers

theorem canonicalItems_of_toItems? {room : Nat} :
    {documents : List Document} → {items : List Json} →
      toItems? room documents = some items → CanonicalItems items
  | [], _, hread => by
      obtain rfl := Option.some.inj hread
      trivial
  | document :: rest, _, hread => by
      unfold toItems? at hread
      split at hread
      · contradiction
      · next value hvalue =>
          obtain ⟨_, hrest, rfl⟩ := Option.map_eq_some_iff.mp hread
          exact ⟨canonical_of_toJson? hvalue, canonicalItems_of_toItems? hrest⟩

theorem canonical_of_toMembers? {room : Nat} :
    {documents : List (Option String × Document)} →
      {sofar members : Assoc Json} → (Json.record sofar).Canonical →
      toMembers? room sofar documents = some members →
      (Json.record members).Canonical
  | [], _, _, hsofar, hread => by
      obtain rfl := Option.some.inj hread
      exact hsofar
  | (none, _) :: _, _, _, _, hread => by simp [toMembers?] at hread
  | (some name, document) :: rest, sofar, _, hsofar, hread => by
      unfold toMembers? at hread
      split at hread
      · contradiction
      · next value hvalue =>
          obtain ⟨hsorted, hall⟩ := Json.canonical_record.mp hsofar
          refine canonical_of_toMembers?
            (Json.canonical_record.mpr ⟨hsorted.insert _ _, ?_⟩) hread
          intro member hmem
          rcases Assoc.mem_insert hmem with rfl | hmem
          · exact canonical_of_toJson? hvalue
          · exact hall member hmem

end

/-- Only `null` is read as `null`. -/
theorem eq_null_of_toJson? {room : Nat} {document : Document}
    (hread : document.toJson? room = some .null) : document = .null := by
  cases document with
  | null => rfl
  | broken => simp [toJson?] at hread
  | bool value => simp [toJson?] at hread
  | number value => simp [toJson?] at hread
  | text value => simp [toJson?] at hread
  | list items closed =>
      cases room <;> cases closed <;> simp [toJson?] at hread
  | record members closed =>
      cases room <;> cases closed <;> simp [toJson?] at hread

end Document

theorem Json.canonical_of_parse? {text : String} {value : Json}
    (hparse : Json.parse? text = some value) : value.Canonical := by
  unfold Json.parse? Json.parseWithin? at hparse
  split at hparse
  · exact Document.canonical_of_toJson? hparse
  · contradiction

end Workflow
