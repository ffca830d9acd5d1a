import Workflow.Proofs.Json.Canonical
import Workflow.Wire.Decoder

/-!
# What decoders promise

`Decoder.Gives decoder P` says that whatever a decoder reads, off any document
and at any place, has the property `P`.  The rules follow the ways of making
decoders, like those of `Decoder.Reads`.
-/

namespace Workflow.Wire

variable {α β : Type}

theorem exists_of_bind {ε : Type} {first : Except ε α} {rest : α → Except ε β}
    {y : β} (hbind : first >>= rest = .ok y) :
    ∃ x, first = .ok x ∧ rest x = .ok y := by
  cases first with
  | error error => contradiction
  | ok x => exact ⟨x, rfl, hbind⟩

theorem exists_of_map {ε : Type} {f : α → β} {x : Except ε α} {y : β}
    (hmap : f <$> x = .ok y) : ∃ a, x = .ok a ∧ f a = y := by
  cases x with
  | error error => contradiction
  | ok a => exact ⟨a, rfl, Except.ok.inj hmap⟩

/-- All that a decoder reads has a property. -/
def Decoder.Gives (decoder : Decoder α) (P : α → Prop) : Prop :=
  ∀ ⦃place : Place⦄ ⦃document : Document⦄ ⦃x : α⦄,
    decoder place document = .ok x → P x

/-- All that a description of a record reads has a property. -/
structure Fields.Gives (fields : Fields α) (P : α → Prop) : Prop where
  ofMembers {place : Place} {members : List Placed} {x : α} :
    fields.ofMembers place members = .ok x → P x
  ofItems {place : Place} {position : Nat} {items : List Document} {x : α} :
    fields.ofItems place position items = .ok x → P x

namespace Decoder

variable {decoder : Decoder α} {P : α → Prop}

theorem gives_natBelow (bound : Nat) (expected : String) :
    (natBelow bound expected).Gives (· < bound) := by
  intro place document value hread
  unfold natBelow at hread
  split at hread
  · split at hread
    · next hrange =>
        obtain rfl := Except.ok.inj hread
        simp only [Bool.and_eq_true, decide_eq_true_eq] at hrange
        omega
    · contradiction
  · contradiction

theorem exists_of_json {place : Place} {document : Document} {value : Json}
    (hread : json place document = .ok value) :
    ∃ room, document.toJson? room = some value := by
  unfold json at hread
  dsimp only at hread
  split at hread
  · next hvalue => exact ⟨_, Except.ok.inj hread ▸ hvalue⟩
  · contradiction

theorem gives_json : json.Gives Json.Canonical := by
  intro place document value hread
  obtain ⟨room, hvalue⟩ := exists_of_json hread
  exact Document.canonical_of_toJson? hvalue

theorem exists_of_optional {place : Place} {document : Document} {x : Option α}
    (hread : decoder.optional place document = .ok x) :
    document = .null ∧ x = none ∨ document ≠ .null ∧
      ∃ value, decoder place document = .ok value ∧ x = some value := by
  unfold Decoder.optional at hread
  split at hread
  · exact .inl ⟨rfl, (Except.ok.inj hread).symm⟩
  · next hnull =>
      obtain ⟨value, hvalue, rfl⟩ := exists_of_map hread
      exact .inr ⟨hnull, value, hvalue, rfl⟩

theorem Gives.optional (hgives : decoder.Gives P) :
    decoder.optional.Gives fun x => ∀ value ∈ x, P value := by
  intro place document x hread value hmem
  rcases exists_of_optional hread with ⟨-, rfl⟩ | ⟨-, other, hother, rfl⟩
  · simp at hmem
  · obtain rfl := Option.some.inj hmem
    exact hgives hother

/-- Only `null` is read as `null`, so a value that may be absent is definite. -/
theorem gives_optional_json : json.optional.Gives Json.Definite := by
  intro place document x hread value hmem
  rcases exists_of_optional hread with ⟨-, rfl⟩ | ⟨hnull, other, hother, rfl⟩
  · simp at hmem
  · obtain rfl := Option.some.inj hmem
    refine ⟨gives_json hother, ?_⟩
    rintro rfl
    obtain ⟨room, hvalue⟩ := exists_of_json hother
    exact hnull (Document.eq_null_of_toJson? hvalue)

theorem gives_items (hgives : decoder.Gives P) {place : Place}
    {documents : List Document} {xs : List α}
    (hread : items decoder place documents = .ok xs) : ∀ x ∈ xs, P x := by
  induction documents generalizing xs with
  | nil =>
      obtain rfl := Except.ok.inj hread
      simp
  | cons document rest ih =>
      unfold items at hread
      split at hread
      · contradiction
      · next x hx =>
          obtain ⟨others, hrest, rfl⟩ := exists_of_map hread
          exact List.forall_mem_cons.mpr ⟨hgives hx, ih hrest⟩

theorem Gives.list (hgives : decoder.Gives P) :
    (Decoder.list decoder).Gives fun xs => ∀ x ∈ xs, P x := by
  intro place document xs hread
  unfold Decoder.list at hread
  split at hread
  · obtain ⟨inside, -, hread⟩ := exists_of_bind hread
    obtain ⟨values, hitems, hread⟩ := exists_of_bind hread
    split at hread
    · exact Except.ok.inj hread ▸ gives_items hgives hitems
    · contradiction
  · contradiction

end Decoder

theorem Reading.eq_ok_of_toExcept {reading : Reading α} {x : α}
    (hread : reading.toExcept = .ok x) : reading = .ok x := by
  cases reading with
  | ok value => exact congrArg Reading.ok (Except.ok.inj hread)
  | absent fault => contradiction
  | wrong position fault => contradiction

theorem Reading.both_eq_ok {f : Reading (α → β)} {a : Reading α} {y : β}
    (hboth : f.both a = .ok y) : ∃ g x, f = .ok g ∧ a = .ok x ∧ g x = y := by
  unfold Reading.both at hboth
  split at hboth
  · split at hboth <;> contradiction
  · contradiction
  · contradiction
  · contradiction
  · contradiction
  · exact ⟨_, _, rfl, rfl, Reading.ok.inj hboth⟩

namespace Fields

variable {γ : Type} {P : α → Prop} {Q : β → Prop}

theorem Gives.map {fields : Fields α} {f : α → β} (hfields : fields.Gives P)
    (himp : ∀ x, P x → Q (f x)) : (f <$> fields).Gives Q where
  ofMembers hread := by
    obtain ⟨_, x, hf, hx, rfl⟩ := Reading.both_eq_ok hread
    obtain rfl := Reading.ok.inj hf
    exact himp x (hfields.ofMembers hx)
  ofItems hread := by
    obtain ⟨_, x, hf, hx, rfl⟩ := Reading.both_eq_ok hread
    obtain rfl := Reading.ok.inj hf
    exact himp x (hfields.ofItems hx)

theorem Gives.seq {fields : Fields (α → β)} {last : Fields α}
    (hfields : fields.Gives fun f => ∀ x, P x → Q (f x)) (hlast : last.Gives P) :
    (fields <*> last).Gives Q where
  ofMembers hread := by
    obtain ⟨f, x, hf, hx, rfl⟩ := Reading.both_eq_ok hread
    exact hfields.ofMembers hf x (hlast.ofMembers hx)
  ofItems hread := by
    obtain ⟨f, x, hf, hx, rfl⟩ := Reading.both_eq_ok hread
    exact hfields.ofItems hf x (hlast.ofItems hx)

theorem gives_any (fields : Fields α) : fields.Gives fun _ => True :=
  ⟨fun _ => trivial, fun _ => trivial⟩

theorem gives_oneOf {names : List String} {decoder : Decoder α}
    {absent : Reading α} {short : Nat → Reading α} (hdecoder : decoder.Gives P)
    (habsent : ∀ {x}, absent = .ok x → P x)
    (hshort : ∀ {position x}, short position = .ok x → P x) :
    (oneOf names decoder absent short).Gives P where
  ofMembers hread := by
    simp only [oneOf] at hread
    split at hread
    · exact habsent hread
    · split at hread
      · contradiction
      · next hvalue =>
          split at hread
          · exact Reading.ok.inj hread ▸ hdecoder hvalue
          · contradiction
  ofItems hread := by
    simp only [oneOf] at hread
    split at hread
    · exact hshort hread
    · split at hread
      · contradiction
      · next hvalue => exact Reading.ok.inj hread ▸ hdecoder hvalue

theorem gives_required {name : String} {decoder : Decoder α}
    (hdecoder : decoder.Gives P) : (required name decoder).Gives P :=
  gives_oneOf hdecoder (by simp) (by simp [tooShort])

theorem gives_withDefault {name : String} {decoder : Decoder α} {value : α}
    (hdecoder : decoder.Gives P) (hvalue : P value) :
    (withDefault name decoder value).Gives P :=
  gives_oneOf hdecoder (fun heq => Reading.ok.inj heq ▸ hvalue)
    fun heq => Reading.ok.inj heq ▸ hvalue

theorem gives_optional {name : String} {decoder : Decoder α}
    (hdecoder : decoder.Gives P) :
    (optional name decoder).Gives fun x => ∀ value ∈ x, P value :=
  gives_withDefault hdecoder.optional nofun

theorem gives_optional_json {name : String} :
    (optional name Decoder.json).Gives Json.Definite :=
  gives_withDefault Decoder.gives_optional_json Json.definite_none

end Fields

namespace Decoder

variable {P : α → Prop}

theorem gives_record {what : String} {fields : Fields α}
    (hfields : fields.Gives P) : (record what fields).Gives P := by
  intro place document x hread
  unfold record at hread
  split at hread
  -- The fields are read off an object by their names,
  · obtain ⟨inside, -, hread⟩ := exists_of_bind hread
    dsimp only at hread
    split at hread
    · contradiction
    · contradiction
    · exact hfields.ofMembers (Reading.eq_ok_of_toExcept hread)
  -- or off an array by their positions.
  · obtain ⟨inside, -, hread⟩ := exists_of_bind hread
    split at hread
    · contradiction
    · split at hread
      · contradiction
      · split at hread <;> contradiction
    · next hvalue =>
        split at hread
        · split at hread
          · exact Except.ok.inj hread ▸ hfields.ofItems hvalue
          · contradiction
        · split at hread <;> contradiction
  · contradiction

theorem exists_of_name {known : List (String × α)} {s : String} {x : α}
    (hname : name known s = .ok x) : ∃ entry ∈ known, entry.2 = x := by
  unfold name at hname
  split at hname
  · next entry hentry =>
      exact ⟨entry, List.mem_of_find?_eq_some hentry, Except.ok.inj hname⟩
  · contradiction

theorem gives_tagged {what tag : String}
    {alternatives : List (String × Decoder α)}
    (halternatives : ∀ entry ∈ alternatives, entry.2.Gives P) :
    (tagged what tag alternatives).Gives P := by
  have hchosen {s : String} {chosen : Decoder α}
      (hname : name alternatives s = .ok chosen) : chosen.Gives P := by
    obtain ⟨entry, hmem, rfl⟩ := exists_of_name hname
    exact halternatives entry hmem
  intro place document x hread
  unfold tagged taggedBy at hread
  split at hread
  · obtain ⟨inside, -, hread⟩ := exists_of_bind hread
    dsimp only at hread
    split at hread
    · contradiction
    · split at hread
      · obtain ⟨chosen, hname, hread⟩ := exists_of_bind hread
        split at hread
        · contradiction
        · split at hread
          · contradiction
          · exact hchosen hname hread
      · contradiction
  · obtain ⟨inside, -, hread⟩ := exists_of_bind hread
    dsimp only at hread
    split at hread
    · contradiction
    · split at hread
      · obtain ⟨chosen, hname, hread⟩ := exists_of_bind hread
        split at hread
        · contradiction
        · exact hchosen hname hread
      · contradiction
  · contradiction

theorem gives_bare {value : α} (hvalue : P value) : (bare value).Gives P :=
  fun _ _ _ hread => Except.ok.inj hread ▸ hvalue

end Decoder

end Workflow.Wire
