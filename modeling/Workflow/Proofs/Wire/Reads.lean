import Workflow.Proofs.Json.Rendering
import Workflow.Wire.Decoder

/-!
# What decoders read

`Decoder.Reads decoder value x` says that a decoder reads the document of a
value as `x`, at every place where there is room for the value.  There is one
rule for each way of making decoders, so that the round trip of a record is
the list of the round trips of its members: `Fields.Reads` follows the
description of the members step by step.
-/

namespace Workflow.Wire

variable {α β : Type}

/-- There is room for a value: only a text that is being read has limits. -/
def Place.Holds (place : Place) (value : Json) : Prop :=
  place.origin = .text → (Document.ofJson value).depth ≤ place.room

/-- A decoder reads a value as `x`. -/
def Decoder.Reads (decoder : Decoder α) (value : Json) (x : α) : Prop :=
  ∀ place : Place, place.Holds value → decoder place (Document.ofJson value) = .ok x

/-! ## Room -/

/-- One level further in there is room for what stands there. -/
theorem Place.exists_inside {place : Place} {inner : List Json} {value : Json}
    (hvalue : place.Holds value)
    (hdepth : ∀ room, (Document.ofJson value).depth ≤ room + 1 →
      ∀ item ∈ inner, (Document.ofJson item).depth ≤ room)
    (hpos : 0 < (Document.ofJson value).depth) :
    ∃ inside : Place, place.inside = .ok inside ∧
      ∀ item ∈ inner, inside.Holds item := by
  obtain ⟨origin, room⟩ := place
  cases origin with
  | value =>
      refine ⟨⟨.value, room⟩, rfl, fun item _ horigin => ?_⟩
      simp at horigin
  | setAside =>
      refine ⟨⟨.setAside, room⟩, rfl, fun item _ horigin => ?_⟩
      simp at horigin
  | text =>
      have hroom : (Document.ofJson value).depth ≤ room := hvalue rfl
      match room with
      | 0 => omega
      | room + 1 =>
          exact ⟨⟨.text, room⟩, rfl, fun item hmem _ =>
            hdepth room hroom item hmem⟩

theorem Place.inside_list {place : Place} {items : List Json}
    (hlist : place.Holds (.list items)) :
    ∃ inside : Place, place.inside = .ok inside ∧
      ∀ item ∈ items, inside.Holds item := by
  refine Place.exists_inside hlist (fun room hdepth => ?_) ?_
  · exact Document.depthItems_le_iff.mp (Nat.le_of_succ_le_succ hdepth)
  · simp [Document.ofJson, Document.depth]

theorem Place.inside_record {place : Place} {members : Assoc Json}
    (hrecord : place.Holds (.record members)) :
    ∃ inside : Place, place.inside = .ok inside ∧
      ∀ member ∈ members, inside.Holds member.2 := by
  have hdepth (room : Nat)
      (hle : (Document.ofJson (.record members)).depth ≤ room + 1) :
      ∀ item ∈ members.map (·.2), (Document.ofJson item).depth ≤ room := by
    intro item hmem
    obtain ⟨member, hmember, rfl⟩ := List.mem_map.mp hmem
    exact Document.depthMembers_le_iff.mp (Nat.le_of_succ_le_succ hle) member hmember
  obtain ⟨inside, hinside, hall⟩ := Place.exists_inside hrecord hdepth
    (by simp [Document.ofJson, Document.depth])
  exact ⟨inside, hinside, fun member hmem =>
    hall _ (List.mem_map_of_mem hmem)⟩

/-! ## Single values -/

namespace Decoder

theorem reads_string (value : String) : string.Reads (.text value) value :=
  fun _ _ => rfl

theorem eq_text_of_string {place : Place} {value : Json} {read : String}
    (hread : string place (Document.ofJson value) = .ok read) :
    value = .text read := by
  cases value <;> simp_all [string, Document.ofJson]

theorem reads_bool (value : Bool) : bool.Reads (.bool value) value :=
  fun _ _ => rfl

theorem reads_natBelow {bound value : Nat} {expected : String}
    (hlt : value < bound) : (natBelow bound expected).Reads (Json.nat value) value := by
  intro place _
  simp [Json.nat, Document.ofJson, natBelow, hlt]

/-- A canonical value is read as it is. -/
theorem reads_json {value : Json} (hcanonical : value.Canonical) :
    json.Reads value value := by
  intro place hvalue
  unfold json
  split
  · next horigin =>
      simp only [Document.toJson?_ofJson hcanonical (hvalue horigin)]
  · simp only [Document.toJson?_ofJson hcanonical (Nat.le_refl _)]

theorem reads_optional_null {decoder : Decoder α} :
    decoder.optional.Reads .null none :=
  fun _ _ => rfl

theorem Reads.optional {decoder : Decoder α} {value : Json} {x : α}
    (hreads : decoder.Reads value x) (hnull : value ≠ .null) :
    decoder.optional.Reads value (some x) := by
  intro place hvalue
  have hread := hreads place hvalue
  cases value with
  | null => exact absurd rfl hnull
  | _ => simp_all [Decoder.optional, Document.ofJson, Except.map]

theorem name_eq_ok {known : List (String × α)} {s : String} {x : α}
    (hknown : Assoc.get? known s = some x) : name known s = .ok x := by
  have hfind := Assoc.find?_key known s
  rw [hknown] at hfind
  unfold name
  rw [hfind]
  rfl

theorem reads_variant {known : List (String × α)} {s : String} {x : α}
    (hknown : Assoc.get? known s = some x) :
    (variant known).Reads (.text s) x :=
  fun _ _ => name_eq_ok hknown

/-! ## Lists and objects with arbitrary names -/

theorem items_ofItems {γ : Type} {decoder : Decoder β} {write : γ → Json}
    {read : γ → β} {place : Place} {xs : List γ}
    (hreads : ∀ x ∈ xs, decoder.Reads (write x) (read x))
    (hholds : ∀ item ∈ xs.map write, place.Holds item) :
    items decoder place (Document.ofItems (xs.map write)) =
      .ok (xs.map read) := by
  induction xs with
  | nil => rfl
  | cons x xs ih =>
      obtain ⟨hx, hxs⟩ := List.forall_mem_cons.mp hreads
      obtain ⟨hplace, hplaces⟩ := List.forall_mem_cons.mp hholds
      simp [Document.ofItems, items, hx place hplace, ih hxs hplaces, Except.map]

theorem reads_list_map {γ : Type} {decoder : Decoder β} {write : γ → Json}
    {read : γ → β} {xs : List γ}
    (hreads : ∀ x ∈ xs, decoder.Reads (write x) (read x)) :
    (list decoder).Reads (.list (xs.map write)) (xs.map read) := by
  intro place hplace
  obtain ⟨inside, hinside, hholds⟩ := Place.inside_list hplace
  have hitems := items_ofItems hreads hholds
  simp [Document.ofJson, list, hinside, hitems, bind, Except.bind]

theorem reads_list {decoder : Decoder α} {write : α → Json} {xs : List α}
    (hreads : ∀ x ∈ xs, decoder.Reads (write x) x) :
    (list decoder).Reads (.list (xs.map write)) xs := by
  simpa only [List.map_id'] using reads_list_map hreads

theorem members_ofMembers {decoder : Decoder α} {write : α → Json}
    {place : Place} {sofar entries : Assoc α}
    (hsorted : Assoc.Sorted (sofar ++ entries))
    (hreads : ∀ entry ∈ entries, decoder.Reads (write entry.2) entry.2)
    (hholds : ∀ member ∈ Assoc.mapValues write entries, place.Holds member.2) :
    members decoder place sofar
        (Document.ofMembers (Assoc.mapValues write entries)) =
      .ok (sofar ++ entries) := by
  induction entries generalizing sofar with
  | nil => simp [Assoc.mapValues, Document.ofMembers, members]
  | cons entry entries ih =>
      obtain ⟨key, value⟩ := entry
      obtain ⟨hentry, hentries⟩ := List.forall_mem_cons.mp hreads
      obtain ⟨hplace, hplaces⟩ := List.forall_mem_cons.mp hholds
      have hlt : ∀ earlier ∈ sofar, earlier.1 < key := fun earlier hmem =>
        (List.pairwise_append.mp hsorted).2.2 earlier hmem (key, value)
          List.mem_cons_self
      rw [List.append_cons] at hsorted ⊢
      have hrest := ih hsorted hentries hplaces
      simp only [Assoc.mapValues, List.map_cons, Document.ofMembers, members,
        hentry place hplace, Assoc.insert_of_forall_lt hlt]
      exact hrest

theorem reads_assoc {decoder : Decoder α} {write : α → Json}
    {entries : Assoc α} (hsorted : entries.Sorted)
    (hreads : ∀ entry ∈ entries, decoder.Reads (write entry.2) entry.2) :
    (assoc decoder).Reads (.record (Assoc.mapValues write entries)) entries := by
  intro place hplace
  obtain ⟨inside, hinside, hholds⟩ := Place.inside_record hplace
  have hsorted : Assoc.Sorted ([] ++ entries) := hsorted
  have hmembers := members_ofMembers hsorted hreads hholds
  simp [Document.ofJson, assoc, hinside, hmembers, bind, Except.bind]

/-- The members of a canonical object are read as they are. -/
theorem reads_assoc_json {members : Assoc Json}
    (hcanonical : (Json.record members).Canonical) :
    (assoc json).Reads (.record members) members := by
  obtain ⟨hsorted, hall⟩ := Json.canonical_record.mp hcanonical
  have hreads : (assoc json).Reads (.record (Assoc.mapValues id members))
      members :=
    reads_assoc hsorted fun member hmem => reads_json (hall member hmem)
  simpa [Assoc.mapValues] using hreads

end Decoder

/-! ## Records -/

/-- The members of an object as they stand in its document. -/
def placedFrom (start : Nat) (members : Assoc Json) : List Placed :=
  ((Document.ofMembers members).zipIdx start).map fun (member, position) =>
    (position, member)

/-- The description of a record reads the members of an object as `x`. -/
def Fields.Reads (fields : Fields α) (members : Assoc Json) (x : α) : Prop :=
  ∀ place : Place, (∀ member ∈ members, place.Holds member.2) →
    fields.ofMembers place (placedFrom 0 members) = .ok x

theorem ofMembers_cons {name : String} {value : Json} {members : Assoc Json} :
    Document.ofMembers ((name, value) :: members) =
      (some name, Document.ofJson value) :: Document.ofMembers members :=
  rfl

theorem exists_of_ofMembers_singleton {members : Assoc Json} {name : Option String}
    {document : Document} (hsingle : Document.ofMembers members = [(name, document)]) :
    ∃ key value, members = [(key, value)] ∧ document = Document.ofJson value := by
  match members with
  | [] => contradiction
  | [(key, value)] =>
      obtain ⟨-, rfl⟩ := Prod.mk.inj (List.cons.inj hsingle).1
      exact ⟨key, value, rfl, rfl⟩
  | _ :: (key, value) :: rest =>
      have hrest := (List.cons.inj hsingle).2
      contradiction

theorem exists_of_mem_placedFrom {members : Assoc Json} {start : Nat}
    {placed : Placed} (hmem : placed ∈ placedFrom start members) :
    ∃ name value, placed.2 = (some name, Document.ofJson value) := by
  induction members generalizing start with
  | nil => simp [placedFrom, Document.ofMembers] at hmem
  | cons member members ih =>
      rcases List.mem_cons.mp hmem with rfl | hmem
      · exact ⟨_, _, rfl⟩
      · exact ih hmem

/-- Looking for members by their names does not depend on where they
stand. -/
theorem filter_placedFrom (members : Assoc Json) (names : List String)
    (start : Nat) :
    ((placedFrom start members).filter
        fun member => member.2.1.any names.contains).map (·.2) =
      Document.ofMembers (members.filter (names.contains ·.1)) := by
  induction members generalizing start with
  | nil => rfl
  | cons member members ih =>
      obtain ⟨name, value⟩ := member
      have hcons : placedFrom start ((name, value) :: members) =
          (start, some name, Document.ofJson value) ::
            placedFrom (start + 1) members := rfl
      rw [hcons]
      cases hname : names.contains name with
      | true =>
          simp only [List.filter_cons, Option.any_some, hname, if_true,
            List.map_cons, ih, ofMembers_cons]
      | false =>
          simp only [List.filter_cons, Option.any_some, hname,
            Bool.false_eq_true, if_false, ih]

namespace Fields

theorem Reads.map {fields : Fields α} {members : Assoc Json} {x : α}
    {f : α → β} (hreads : fields.Reads members x) :
    (f <$> fields).Reads members (f x) := by
  intro place hholds
  change Reading.both (.ok f) (fields.ofMembers place _) = _
  rw [hreads place hholds]
  rfl

theorem Reads.seq {fields : Fields (α → β)} {last : Fields α}
    {members : Assoc Json} {f : α → β} {x : α}
    (hfields : fields.Reads members f) (hlast : last.Reads members x) :
    (fields <*> last).Reads members (f x) := by
  intro place hholds
  change Reading.both (fields.ofMembers place _) (last.ofMembers place _) = _
  rw [hfields place hholds, hlast place hholds]
  rfl

section OneOf

variable {names : List String} {decoder : Decoder α} {absent : Reading α}
variable {short : Nat → Reading α} {members : Assoc Json}

theorem reads_oneOf {name : String} {value : Json} {x : α}
    (hfilter : members.filter (names.contains ·.1) = [(name, value)])
    (hreads : decoder.Reads value x) :
    (oneOf names decoder absent short).Reads members x := by
  intro place hholds
  have hmem : (name, value) ∈ members.filter (names.contains ·.1) :=
    hfilter ▸ List.mem_cons_self
  have hvalue : place.Holds value :=
    hholds (name, value) (List.mem_filter.mp hmem).1
  have hplaced := filter_placedFrom members names 0
  rw [hfilter] at hplaced
  obtain ⟨⟨position, member⟩, hsingle, rfl⟩ :=
    List.map_eq_singleton_iff.mp hplaced
  simp only [oneOf, hsingle, hreads place hvalue]

theorem reads_oneOf_absent {x : α}
    (hfilter : members.filter (names.contains ·.1) = [])
    (habsent : absent = .ok x) :
    (oneOf names decoder absent short).Reads members x := by
  intro place hholds
  have hplaced := filter_placedFrom members names 0
  rw [hfilter] at hplaced
  have hnone := List.map_eq_nil_iff.mp hplaced
  simp only [oneOf, hnone, habsent]

/-- A member that has to be there was read off a single one. -/
theorem exists_of_oneOf {place : Place} {fault : Fault} {x : α}
    (hread : (oneOf names decoder (.absent fault) short).ofMembers place
      (placedFrom 0 members) = .ok x) :
    ∃ name value, members.filter (names.contains ·.1) = [(name, value)] ∧
      decoder place (Document.ofJson value) = .ok x := by
  have hplaced := filter_placedFrom members names 0
  simp only [oneOf] at hread
  split at hread
  · contradiction
  · next position name document rest hfound =>
      rw [hfound] at hplaced
      split at hread
      · contradiction
      · next value hvalue =>
          split at hread
          · obtain ⟨key, value, hfilter, rfl⟩ :=
              exists_of_ofMembers_singleton hplaced.symm
            exact ⟨key, value, hfilter, Reading.ok.inj hread ▸ hvalue⟩
          · contradiction

end OneOf

section Members

variable {name : String} {decoder : Decoder α} {members : Assoc Json}
variable {value : Json} {x : α}

theorem filter_singleton (hsorted : members.Sorted)
    (hget : members.get? name = some value) :
    members.filter ([name].contains ·.1) = [(name, value)] := by
  simpa [List.contains_iff_mem] using hsorted.filter_key hget

theorem filter_pair {synonym : String} (hsorted : members.Sorted)
    (hget : members.get? name = some value)
    (hsynonym : members.get? synonym = none) :
    members.filter ([name, synonym].contains ·.1) = [(name, value)] := by
  rw [← hsorted.filter_key hget]
  refine List.filter_congr fun member hmem => ?_
  have hne := Assoc.get?_eq_none_iff.mp hsynonym member hmem
  simp [hne]

theorem reads_required (hsorted : members.Sorted)
    (hget : members.get? name = some value) (hreads : decoder.Reads value x) :
    (required name decoder).Reads members x :=
  reads_oneOf (filter_singleton hsorted hget) hreads

theorem reads_requiredAs {synonym : String} (hsorted : members.Sorted)
    (hget : members.get? name = some value)
    (hsynonym : members.get? synonym = none)
    (hreads : decoder.Reads value x) :
    (requiredAs name synonym decoder).Reads members x :=
  reads_oneOf (filter_pair hsorted hget hsynonym) hreads

theorem reads_withDefault {default_ : α} (hsorted : members.Sorted)
    (hget : members.get? name = some value) (hreads : decoder.Reads value x) :
    (withDefault name decoder default_).Reads members x :=
  reads_oneOf (filter_singleton hsorted hget) hreads

theorem reads_withDefault_absent {default_ : α}
    (hget : members.get? name = none) :
    (withDefault name decoder default_).Reads members default_ := by
  refine reads_oneOf_absent ?_ rfl
  have hne := Assoc.get?_eq_none_iff.mp hget
  simpa [List.contains_iff_mem] using hne

/-- A member that is written only where there is something to write. -/
theorem reads_optional {write : α → Json} {x : Option α}
    (hsorted : members.Sorted) (hget : members.get? name = x.map write)
    (hreads : ∀ some_ ∈ x, decoder.Reads (write some_) some_ ∧ write some_ ≠ .null) :
    (optional name decoder).Reads members x := by
  cases x with
  | none => exact reads_withDefault_absent hget
  | some x =>
      obtain ⟨hread, hnull⟩ := hreads x rfl
      exact reads_withDefault hsorted hget (hread.optional hnull)

/-- A value that may be absent is not told from an absent one where it is
`null`. -/
theorem reads_optional_json {value : Option Json} (hsorted : members.Sorted)
    (hget : members.get? name = value)
    (hvalue : ∀ present ∈ value, present.Canonical) :
    (optional name Decoder.json).Reads members (value.filter (· ≠ .null)) := by
  cases value with
  | none => exact reads_withDefault_absent hget
  | some value =>
      by_cases hnull : value = .null
      · obtain rfl := hnull
        exact reads_withDefault hsorted hget Decoder.reads_optional_null
      · have hread := Decoder.reads_json (hvalue value rfl)
        have hkept : (some value).filter (· ≠ .null) = some value := by
          simp [Option.filter, hnull]
        rw [hkept]
        exact reads_withDefault hsorted hget (hread.optional hnull)

theorem reads_optional_definite {value : Option Json} (hsorted : members.Sorted)
    (hget : members.get? name = value) (hvalue : Json.Definite value) :
    (optional name Decoder.json).Reads members value := by
  have hread := reads_optional_json hsorted hget hvalue.canonical
  have hkept : value.filter (· ≠ .null) = value := by
    cases value with
    | none => rfl
    | some value => simp [Option.filter, (hvalue value rfl).2]
  rwa [hkept] at hread

end Members

end Fields

namespace Decoder

/-- Nothing is wrong with the members of an object apart from the known
ones. -/
theorem firstBreak_placedFrom (known : List String) (members : Assoc Json)
    (start : Nat) : firstBreak known (placedFrom start members) true = none := by
  unfold firstBreak
  split
  · next member hfound =>
      obtain ⟨position, name, document⟩ := member
      obtain ⟨key, value, hmember⟩ :=
        exists_of_mem_placedFrom (List.mem_of_find?_eq_some hfound)
      have hwrong := List.find?_some hfound
      obtain ⟨rfl, rfl⟩ := Prod.mk.inj hmember
      simp [Document.whole_ofJson] at hwrong
  · rfl

theorem reads_record {what : String} {fields : Fields α} {members : Assoc Json}
    {x : α} (hreads : fields.Reads members x) :
    (record what fields).Reads (.record members) x := by
  intro place hplace
  obtain ⟨inside, hinside, hholds⟩ := Place.inside_record hplace
  have hfields := hreads inside hholds
  have hbreak := firstBreak_placedFrom fields.names members 0
  unfold placedFrom at hfields hbreak
  simp only [Document.ofJson, record, hinside, bind, Except.bind, hfields,
    hbreak, Reading.toExcept]

/-- The members of a record that are not the one which names the
alternative. -/
theorem filter_ofMembers (members : Assoc Json) (tag : String) :
    (Document.ofMembers members).filter (·.1 ≠ some tag) =
      Document.ofMembers (members.filter (·.1 ≠ tag)) := by
  induction members with
  | nil => rfl
  | cons member members ih =>
      obtain ⟨name, value⟩ := member
      by_cases hname : name = tag <;>
        simp_all [Document.ofMembers]

theorem filter_tag (members : Assoc Json) (tag : String) (start : Nat) :
    (((Document.ofMembers members).zipIdx start).filter
        (·.1.1 = some tag)).map (·.1) =
      Document.ofMembers (members.filter (·.1 = tag)) := by
  induction members generalizing start with
  | nil => rfl
  | cons member members ih =>
      obtain ⟨name, value⟩ := member
      have hrest := ih (start + 1)
      by_cases hname : name = tag <;>
        simp_all [Document.ofMembers, List.zipIdx_cons]

/-- A canonical value can be set aside where there is room for it. -/
theorem admits_ofJson {place : Place} {value : Json}
    (hcanonical : value.Canonical) (hplace : place.Holds value) :
    place.admits (Document.ofJson value) = true := by
  unfold Place.admits
  split
  · next horigin =>
      simp [Document.toJson?_ofJson hcanonical (hplace horigin)]
  · exact Document.whole_ofJson value

theorem any_ofMembers_eq_false {place : Place} {members : Assoc Json}
    (hmembers : ∀ member ∈ members,
      member.2.Canonical ∧ place.Holds member.2) :
    (Document.ofMembers members).any
      (fun member => member.1.isNone || !place.admits member.2) = false := by
  induction members with
  | nil => rfl
  | cons member members ih =>
      obtain ⟨⟨hcanonical, hplace⟩, hrest⟩ := List.forall_mem_cons.mp hmembers
      simp [Document.ofMembers, admits_ofJson hcanonical hplace, ih hrest]

theorem reads_tagged {what tag label : String}
    {alternatives : List (String × Decoder α)} {chosen : Decoder α}
    {members : Assoc Json} {x : α} (hcanonical : (Json.record members).Canonical)
    (hget : members.get? tag = some (.text label))
    (hchosen : Assoc.get? alternatives label = some chosen)
    (hreads : chosen.Reads (.record (members.filter (·.1 ≠ tag))) x) :
    (tagged what tag alternatives).Reads (.record members) x := by
  intro place hplace
  obtain ⟨inside, hinside, hholds⟩ := Place.inside_record hplace
  obtain ⟨hsorted, hall⟩ := Json.canonical_record.mp hcanonical
  have htags := filter_tag members tag 0
  rw [hsorted.filter_key hget] at htags
  obtain ⟨⟨member, position⟩, hsingle, rfl⟩ :=
    List.map_eq_singleton_iff.mp htags
  have hrest : ∀ member ∈ members.filter (·.1 ≠ tag),
      member.2.Canonical ∧ inside.Holds member.2 := fun member hmem =>
    have hmem := (List.mem_filter.mp hmem).1
    ⟨hall member hmem, hholds member hmem⟩
  have hadmits := any_ofMembers_eq_false hrest
  -- What has been set aside has no limit of depth any more.
  have hread := hreads ⟨.setAside, inside.room⟩ (by simp [Place.Holds])
  rw [Document.ofJson] at hread
  unfold tagged taggedBy
  simp only [Document.ofJson, hinside, bind, Except.bind, hsingle, hadmits,
    name_eq_ok hchosen, filter_ofMembers, Bool.not_true, Bool.or_false,
    Bool.false_eq_true, if_false, List.isEmpty_nil]
  exact hread

end Decoder

/-! ## Whole values and texts -/

namespace Decoder

variable {decoder : Decoder α} {value : Json} {x : α}

theorem Reads.ofValue (hreads : decoder.Reads value x) :
    Wire.ofValue decoder value = .ok x :=
  hreads ⟨.value, 0⟩ (by simp [Place.Holds])

/-- A text that does not nest too deep is read as the value that it was written
for. -/
theorem Reads.ofText (hreads : decoder.Reads value x) (hlegible : value.Legible)
    (hdepth : (Document.ofJson value).depth ≤ Json.maxDepth) :
    Wire.ofText decoder value.render = .ok x := by
  have hread := hreads ⟨.text, Json.maxDepth⟩ fun _ => hdepth
  simp [Wire.ofText, Document.scan_render hlegible, hread]

end Decoder

end Workflow.Wire
