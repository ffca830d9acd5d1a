import Mathlib.Data.List.Forall2
import Workflow.Proofs.Wire.Gives

/-!
# Decoders that agree

Two decoders agree along a relation if they accept the same documents and read
related values off them; their faults may differ.  The rules follow the ways of
making decoders, so that two descriptions of a record agree member by member.
-/

namespace Workflow.Wire

variable {α β γ δ : Type}

/-- The second decoder reads a value just where the first one reads a value
that stands for it. -/
def Decoder.Agrees (first : Decoder α) (second : Decoder β)
    (R : α → β → Prop) : Prop :=
  ∀ place document y, second place document = .ok y ↔
    ∃ x, first place document = .ok x ∧ R x y

/-- Two descriptions of a record look for the same members and agree on what
they find. -/
structure Fields.Agrees (first : Fields α) (second : Fields β)
    (R : α → β → Prop) : Prop where
  names : second.names = first.names
  count : second.count = first.count
  ofMembers (place : Place) (members : List Placed) (y : β) :
    second.ofMembers place members = .ok y ↔
      ∃ x, first.ofMembers place members = .ok x ∧ R x y
  ofItems (place : Place) (position : Nat) (items : List Document) (y : β) :
    second.ofItems place position items = .ok y ↔
      ∃ x, first.ofItems place position items = .ok x ∧ R x y

/-! ## Lists -/

namespace Decoder

variable {first : Decoder α} {second : Decoder β} {R : α → β → Prop}

theorem items_cons_eq_ok_iff {decoder : Decoder α} {place : Place}
    {document : Document} {rest : List Document} {xs : List α} :
    items decoder place (document :: rest) = .ok xs ↔
      ∃ x others, decoder place document = .ok x ∧
        items decoder place rest = .ok others ∧ xs = x :: others := by
  constructor
  · intro hread
    unfold items at hread
    split at hread
    · contradiction
    · next x hx =>
        obtain ⟨others, hothers, rfl⟩ := exists_of_map hread
        exact ⟨x, others, hx, hothers, rfl⟩
  · rintro ⟨x, others, hx, hothers, rfl⟩
    simp [items, hx, hothers, Except.map]

theorem Agrees.items (hagrees : first.Agrees second R) (place : Place)
    (documents : List Document) (ys : List β) :
    items second place documents = .ok ys ↔
      ∃ xs, items first place documents = .ok xs ∧ List.Forall₂ R xs ys := by
  induction documents generalizing ys with
  | nil =>
      constructor
      · rintro hread
        obtain rfl := Except.ok.inj hread
        exact ⟨[], rfl, .nil⟩
      · rintro ⟨xs, hread, hrelated⟩
        obtain rfl := Except.ok.inj hread
        obtain rfl := List.forall₂_nil_left_iff.mp hrelated
        rfl
  | cons document rest ih =>
      simp only [items_cons_eq_ok_iff]
      constructor
      · rintro ⟨y, others, hy, hothers, rfl⟩
        obtain ⟨x, hx, hrelated⟩ := (hagrees place document y).mp hy
        obtain ⟨xs, hxs, hall⟩ := (ih others).mp hothers
        exact ⟨x :: xs, ⟨x, xs, hx, hxs, rfl⟩, .cons hrelated hall⟩
      · rintro ⟨_, ⟨x, xs, hx, hxs, rfl⟩, hrelated⟩
        obtain ⟨y, others, hy, hall, rfl⟩ :=
          List.forall₂_cons_left_iff.mp hrelated
        exact ⟨y, others, (hagrees place document y).mpr ⟨x, hx, hy⟩,
          (ih others).mpr ⟨xs, hxs, hall⟩, rfl⟩

theorem list_eq_ok_iff {decoder : Decoder α} {place : Place}
    {document : Document} {xs : List α} :
    list decoder place document = .ok xs ↔
      ∃ documents inside, document = .list documents true ∧
        place.inside = .ok inside ∧
        items decoder inside documents = .ok xs := by
  constructor
  · intro hread
    unfold list at hread
    split at hread
    · next documents closed =>
        obtain ⟨inside, hinside, hread⟩ := exists_of_bind hread
        obtain ⟨values, hvalues, hread⟩ := exists_of_bind hread
        split at hread
        next hclosed =>
          obtain rfl := Except.ok.inj hread
          obtain rfl := hclosed
          exact ⟨documents, inside, rfl, hinside, hvalues⟩
        next => contradiction
    · contradiction
  · rintro ⟨documents, inside, rfl, hinside, hitems⟩
    simp [list, hinside, hitems, bind, Except.bind]

theorem Agrees.list (hagrees : first.Agrees second R) :
    (list first).Agrees (list second) (List.Forall₂ R) := by
  intro place document ys
  simp only [list_eq_ok_iff, hagrees.items]
  constructor
  · rintro ⟨documents, inside, hdocument, hinside, xs, hitems, hrelated⟩
    exact ⟨xs, ⟨documents, inside, hdocument, hinside, hitems⟩, hrelated⟩
  · rintro ⟨xs, ⟨documents, inside, hdocument, hinside, hitems⟩, hrelated⟩
    exact ⟨documents, inside, hdocument, hinside, xs, hitems, hrelated⟩

end Decoder

/-! ## Members -/

theorem Reading.both_eq_ok_iff {f : Reading (α → β)} {a : Reading α} {y : β} :
    f.both a = .ok y ↔ ∃ g x, f = .ok g ∧ a = .ok x ∧ g x = y := by
  refine ⟨Reading.both_eq_ok, ?_⟩
  rintro ⟨g, x, rfl, rfl, rfl⟩
  rfl

/-- What is made of two readings, where both agree. -/
theorem Reading.both_agrees {ε ζ : Type} {first : Reading α}
    {second : Reading β} {last : Reading γ} {last' : Reading δ}
    {R : α → β → Prop} {S : γ → δ → Prop} {T : ε → ζ → Prop}
    {f : α → γ → ε} {g : β → δ → ζ}
    (hagrees : ∀ y, second = .ok y ↔ ∃ x, first = .ok x ∧ R x y)
    (hlast : ∀ v, last' = .ok v ↔ ∃ w, last = .ok w ∧ S w v)
    (hmade : ∀ x w z, T (f x w) z ↔ ∃ y v, R x y ∧ S w v ∧ g y v = z) (z : ζ) :
    ((Reading.ok g).both second).both last' = .ok z ↔
      ∃ made, ((Reading.ok f).both first).both last = .ok made ∧ T made z := by
  simp only [both_eq_ok_iff]
  constructor
  · rintro ⟨_, v, ⟨_, y, hg, hy, rfl⟩, hv, rfl⟩
    obtain rfl := Reading.ok.inj hg
    obtain ⟨x, hx, hxy⟩ := (hagrees y).mp hy
    obtain ⟨w, hw, hwv⟩ := (hlast v).mp hv
    exact ⟨f x w, ⟨_, w, ⟨f, x, rfl, hx, rfl⟩, hw, rfl⟩,
      (hmade x w _).mpr ⟨y, v, hxy, hwv, rfl⟩⟩
  · rintro ⟨_, ⟨_, w, ⟨_, x, hf, hx, rfl⟩, hw, rfl⟩, hz⟩
    obtain rfl := Reading.ok.inj hf
    obtain ⟨y, v, hxy, hwv, rfl⟩ := (hmade x w z).mp hz
    exact ⟨_, v, ⟨g, y, rfl, (hagrees y).mpr ⟨x, hx, hxy⟩, rfl⟩,
      (hlast v).mpr ⟨w, hw, hwv⟩, rfl⟩

namespace Fields

variable {R : α → β → Prop}

/-- One member that both descriptions need or leave out alike. -/
theorem agrees_oneOf {names : List String} {first : Decoder α}
    {second : Decoder β} {absent : Reading α} {absent' : Reading β}
    {short : Nat → Reading α} {short' : Nat → Reading β}
    (hagrees : first.Agrees second R)
    (habsent : ∀ y, absent' = .ok y ↔ ∃ x, absent = .ok x ∧ R x y)
    (hshort : ∀ position y, short' position = .ok y ↔
      ∃ x, short position = .ok x ∧ R x y) :
    (oneOf names first absent short).Agrees
      (oneOf names second absent' short') R where
  names := rfl
  count := rfl
  ofMembers place members y := by
    simp only [oneOf]
    split
    · exact habsent y
    · next position name document rest _ =>
        have hdocument := hagrees place document
        cases hsecond : second place document with
        | error fault =>
            have hnone : ¬ ∃ x, first place document = .ok x ∧ R x y := by
              rw [← hdocument y, hsecond]
              nofun
            cases hfirst : first place document with
            | error fault => simp
            | ok x => cases rest <;> simp_all
        | ok value =>
            obtain ⟨x, hfirst, hx⟩ := (hdocument value).mp hsecond
            have hvalue : value = y ↔ R x y := by
              simpa [hsecond, hfirst] using hdocument y
            cases rest <;> simp [hfirst, hvalue]
  ofItems place position items y := by
    cases items with
    | nil => exact hshort position y
    | cons document rest =>
        have hdocument := hagrees place document y
        simp only [oneOf]
        cases hfirst : first place document <;>
          cases hsecond : second place document <;>
          simp_all

theorem agrees_self (fields : Fields α) : fields.Agrees fields (· = ·) where
  names := rfl
  count := rfl
  ofMembers := by simp
  ofItems := by simp

theorem agrees_required {name : String} {first : Decoder α}
    {second : Decoder β} (hagrees : first.Agrees second R) :
    (required name first).Agrees (required name second) R :=
  agrees_oneOf hagrees (by simp) (by simp [tooShort])

/-- What is made of what two members are read as. -/
theorem Agrees.both {first : Fields α} {second : Fields β} {last : Fields γ}
    {last' : Fields δ} {S : γ → δ → Prop} {ε ζ : Type} {f : α → γ → ε}
    {g : β → δ → ζ} {T : ε → ζ → Prop} (hagrees : first.Agrees second R)
    (hlast : last.Agrees last' S)
    (hmade : ∀ x w z, T (f x w) z ↔ ∃ y v, R x y ∧ S w v ∧ g y v = z) :
    (f <$> first <*> last).Agrees (g <$> second <*> last') T where
  names := by
    change ([] ++ second.names) ++ last'.names = ([] ++ first.names) ++ last.names
    rw [hagrees.names, hlast.names]
  count := by
    change (0 + second.count) + last'.count = (0 + first.count) + last.count
    rw [hagrees.count, hlast.count]
  ofMembers place members z := by
    change Reading.both (Reading.both (.ok g) (second.ofMembers place members))
        (last'.ofMembers place members) = .ok z ↔
      ∃ made, Reading.both (Reading.both (.ok f) (first.ofMembers place members))
        (last.ofMembers place members) = .ok made ∧ T made z
    exact Reading.both_agrees (hagrees.ofMembers place members)
      (hlast.ofMembers place members) hmade z
  ofItems place position items z := by
    change Reading.both (Reading.both (.ok g) (second.ofItems place (position + 0)
        (items.drop 0))) (last'.ofItems place (position + (0 + second.count))
        (items.drop (0 + second.count))) = .ok z ↔
      ∃ made, Reading.both (Reading.both (.ok f) (first.ofItems place (position + 0)
        (items.drop 0))) (last.ofItems place (position + (0 + first.count))
        (items.drop (0 + first.count))) = .ok made ∧ T made z
    rw [hagrees.count]
    exact Reading.both_agrees (hagrees.ofItems place _ _)
      (hlast.ofItems place _ _) hmade z

end Fields

/-! ## Records -/

namespace Decoder

/-- What it takes to read a record: the members of an object, or a list of them
that is not too long. -/
theorem record_eq_ok_iff {what : String} {fields : Fields α} {place : Place}
    {document : Document} {x : α} :
    record what fields place document = .ok x ↔
      (∃ members closed inside, document = .record members closed ∧
        place.inside = .ok inside ∧
        fields.ofMembers inside (members.zipIdx.map fun member =>
          (member.2, member.1)) = .ok x ∧
        firstBreak fields.names (members.zipIdx.map fun member =>
          (member.2, member.1)) closed = none) ∨
      ∃ items inside, document = .list items true ∧
        place.inside = .ok inside ∧ fields.ofItems inside 0 items = .ok x ∧
        items.length ≤ fields.count := by
  constructor
  · intro hread
    unfold record at hread
    split at hread
    · next members closed =>
        obtain ⟨inside, hinside, hread⟩ := exists_of_bind hread
        dsimp only at hread
        split at hread
        · contradiction
        · contradiction
        · next hbreak =>
            exact .inl ⟨members, closed, inside, rfl, hinside,
              Reading.eq_ok_of_toExcept hread, hbreak⟩
    · next items closed =>
        obtain ⟨inside, hinside, hread⟩ := exists_of_bind hread
        split at hread
        · contradiction
        · split at hread
          · contradiction
          · split at hread <;> contradiction
        · next hvalue =>
            split at hread
            · next hlength =>
                split at hread
                · next hclosed =>
                    obtain rfl := Except.ok.inj hread
                    obtain rfl := hclosed
                    exact .inr ⟨items, inside, rfl, hinside, hvalue, hlength⟩
                · contradiction
            · split at hread <;> contradiction
    · contradiction
  · rintro (⟨members, closed, inside, rfl, hinside, hread, hbreak⟩ |
      ⟨items, inside, rfl, hinside, hread, hlength⟩)
    · simp [record, hinside, bind, Except.bind, hread, hbreak, Reading.toExcept]
    · simp [record, hinside, bind, Except.bind, hread, hlength]

theorem agrees_record {what what' : String} {first : Fields α}
    {second : Fields β} {R : α → β → Prop} (hagrees : first.Agrees second R) :
    (record what first).Agrees (record what' second) R := by
  intro place document y
  simp only [record_eq_ok_iff, hagrees.ofMembers, hagrees.ofItems,
    hagrees.names, hagrees.count]
  constructor
  · rintro (⟨members, closed, inside, hdocument, hinside, ⟨x, hread, hx⟩, hbreak⟩ |
      ⟨items, inside, hdocument, hinside, ⟨x, hread, hx⟩, hlength⟩)
    · exact ⟨x, .inl ⟨members, closed, inside, hdocument, hinside, hread, hbreak⟩, hx⟩
    · exact ⟨x, .inr ⟨items, inside, hdocument, hinside, hread, hlength⟩, hx⟩
  · rintro ⟨x, ⟨members, closed, inside, hdocument, hinside, hread, hbreak⟩ |
      ⟨items, inside, hdocument, hinside, hread, hlength⟩, hx⟩
    · exact .inl ⟨members, closed, inside, hdocument, hinside, ⟨x, hread, hx⟩, hbreak⟩
    · exact .inr ⟨items, inside, hdocument, hinside, ⟨x, hread, hx⟩, hlength⟩

end Decoder

end Workflow.Wire
