import Workflow.Proofs.Json.Rendering

/-!
# What is read back

What `Number.ReadsBack` assumes of the numbers in a text holds of all integers
that a number can be: from `-2 ^ 63` up to below `2 ^ 64`.  A value that was
read from a text has only such integers and nests no deeper than a text may, so
its compact form is read as the same value again as long as this holds of its
doubles (`Json.parse?_render`).
-/

namespace Workflow

/-! ## Integers -/

theorem Width.fits_iff {width n : Nat} :
    fits width n = true ↔ n < span width :=
  decide_eq_true_iff

namespace Number

-- The equations that are made for `collect` would work out `2 ^ 64`.
theorem collect_cons (c : Char) (cs : List Char) (significand : Nat) :
    collect significand (c :: cs) =
      match appendDigit? significand c with
      | none => (significand, 0)
      | some next => ((collect next cs).1, (collect next cs).2 + 1) := by
  exact rfl

/-- Digits are all collected where their number fits 64 bits. -/
theorem collect_eq {ds : List Char} {significand : Nat} :
    Nat.ofDigitChars 10 ds significand < Width.span 64 →
      collect significand ds =
        (Nat.ofDigitChars 10 ds significand, ds.length) := by
  induction ds generalizing significand with
  | nil => exact fun _ => rfl
  | cons c ds ih =>
      intro hlt
      have hcons : Nat.ofDigitChars 10 (c :: ds) significand =
          Nat.ofDigitChars 10 ds (significand * 10 + digitValue c) := by
        rw [Nat.ofDigitChars_cons, Nat.mul_comm, digitValue]
      -- What has been collected is never more than the whole number.
      have hle : significand * 10 + digitValue c ≤
          Nat.ofDigitChars 10 (c :: ds) significand := by
        rw [hcons, Nat.ofDigitChars_eq_ofDigitChars_zero]
        have hpow : 1 * (significand * 10 + digitValue c) ≤
            10 ^ ds.length * (significand * 10 + digitValue c) :=
          Nat.mul_le_mul_right _ (Nat.one_le_pow _ _ (by decide))
        omega
      have hfits : Width.fits 64 (significand * 10 + digitValue c) = true :=
        Width.fits_iff.mpr (Nat.lt_of_le_of_lt hle hlt)
      have happend : appendDigit? significand c =
          some (significand * 10 + digitValue c) := by
        simp only [appendDigit?, hfits, if_true]
      simp only [collect_cons, happend, ih (hcons ▸ hlt), hcons,
        List.length_cons]

theorem collect_toDigits {n : Nat} (hlt : n < Width.span 64) :
    collect 0 (Nat.toDigits 10 n) = (n, (Nat.toDigits 10 n).length) := by
  have hvalue := (Text.spells_toDigits n).value
  rw [collect_eq (by rwa [hvalue]), hvalue]

end Number

namespace Document

/-- What follows a value does not go on with a number. -/
theorem Ends.stops {rest : List Char} (hrest : Ends rest) :
    rest.takeWhile Char.isDigit = [] ∧ rest.dropWhile Char.isDigit = rest ∧
      scanFraction? rest = some ([], rest) ∧
      scanExponent? rest = some (none, rest) := by
  match rest, hrest with
  | [], _ => exact ⟨rfl, rfl, rfl, rfl⟩
  | _ :: _, .inl rfl => exact ⟨rfl, rfl, rfl, rfl⟩
  | _ :: _, .inr (.inl rfl) => exact ⟨rfl, rfl, rfl, rfl⟩
  | _ :: _, .inr (.inr rfl) => exact ⟨rfl, rfl, rfl, rfl⟩

theorem scanWhole?_toDigits {n : Nat} {rest : List Char} (hrest : Ends rest) :
    scanWhole? (Nat.toDigits 10 n ++ rest) =
      some (Nat.toDigits 10 n, rest) := by
  obtain ⟨htake, hdrop, -, -⟩ := hrest.stops
  rcases Nat.eq_zero_or_pos n with rfl | hpos
  · match rest, hrest with
    | [], _ => rfl
    | _ :: _, .inl rfl => rfl
    | _ :: _, .inr (.inl rfl) => rfl
    | _ :: _, .inr (.inr rfl) => rfl
  · have hdigits := (Text.spells_toDigits n).isDigit
    obtain ⟨c, ds, hds, hzero⟩ := Text.exists_toDigits_cons hpos
    have hspan : spanDigits (Nat.toDigits 10 n ++ rest) =
        (Nat.toDigits 10 n, rest) := by
      simp [spanDigits, List.takeWhile_append_of_pos hdigits,
        List.dropWhile_append_of_pos hdigits, htake, hdrop]
    rw [hds, List.cons_append] at hspan ⊢
    simp [scanWhole?, hzero, hspan]

end Document

namespace Number

theorem ofLiteral?_toDigits {n : Nat} (hlt : n < Width.span 64) :
    ofLiteral? false (Nat.toDigits 10 n) [] none = some (.int n) := by
  simp [ofLiteral?, collect_toDigits hlt]

theorem ofLiteral?_negative {n : Nat} (hpos : 0 < n) (hle : n ≤ Width.span 63) :
    ofLiteral? true (Nat.toDigits 10 n) [] none = some (.int (-n)) := by
  have hlt : n < Width.span 64 := Nat.lt_of_le_of_lt hle (by decide)
  simp [ofLiteral?, collect_toDigits hlt, Nat.ne_of_gt hpos,
    Nat.not_lt.mpr hle]

/-- Digits have no sign in front. -/
theorem scanNumber?_toDigits {n : Nat} {rest : List Char}
    (hrest : Document.Ends rest) (hlt : n < Width.span 64) :
    Document.scanNumber? (Nat.toDigits 10 n ++ rest) =
      some (some (.int n), rest) := by
  obtain ⟨-, -, hfraction, hexponent⟩ := hrest.stops
  have hwhole := Document.scanWhole?_toDigits (n := n) hrest
  have hliteral := ofLiteral?_toDigits hlt
  have hdigits := (Text.spells_toDigits n).isDigit
  obtain ⟨c, ds, hds⟩ :=
    List.exists_cons_of_ne_nil (Nat.toDigits_ne_nil (n := n) (b := 10))
  rw [hds] at hwhole hliteral hdigits ⊢
  have hminus : c ≠ '-' := by
    rintro rfl
    exact absurd (hdigits '-' List.mem_cons_self) (by decide)
  rw [List.cons_append] at hwhole ⊢
  simp [Document.scanNumber?, hminus, hwhole, hfraction, hexponent, hliteral]

theorem toList_render_ofNat (n : Nat) :
    (Number.int (.ofNat n)).render.toList = Nat.toDigits 10 n :=
  Nat.toList_repr

theorem toList_render_negSucc (n : Nat) :
    (Number.int (.negSucc n)).render.toList =
      '-' :: Nat.toDigits 10 (n + 1) := by
  change ("-" ++ Nat.repr (n + 1)).toList = _
  rw [String.toList_append, Nat.toList_repr]
  rfl

/-- Integers of 64 bits, with a sign or without, are read back. -/
theorem readsBack_int {value : Int} (hlow : -(Width.span 63 : Int) ≤ value)
    (hhigh : value < Width.span 64) : (Number.int value).ReadsBack := by
  intro rest hrest
  cases value with
  | ofNat n =>
      rw [toList_render_ofNat]
      exact scanNumber?_toDigits hrest (Int.ofNat_lt.mp hhigh)
  | negSucc n =>
      obtain ⟨-, -, hfraction, hexponent⟩ := hrest.stops
      have hle : n + 1 ≤ Width.span 63 := by omega
      rw [toList_render_negSucc]
      simp [Document.scanNumber?, Document.scanWhole?_toDigits hrest,
        hfraction, hexponent, ofLiteral?_negative n.succ_pos hle]
      omega

end Number

/-! ## What literals stand for -/

namespace Number

/-- A number that a literal can stand for. -/
def Measured : Number → Prop
  | int value => -(Width.span 63 : Int) ≤ value ∧ value < Width.span 64
  | real _ => True

theorem collect_lt {ds : List Char} {significand : Nat}
    (hlt : significand < Width.span 64) :
    (collect significand ds).1 < Width.span 64 := by
  induction ds generalizing significand with
  | nil => exact hlt
  | cons c ds ih =>
      rw [collect_cons]
      cases hnext : appendDigit? significand c with
      | none => exact hlt
      | some next =>
          refine ih ?_
          simp only [appendDigit?] at hnext
          split at hnext
          · next hfits =>
              obtain rfl := Option.some.inj hnext
              exact Width.fits_iff.mp hfits
          · contradiction

theorem measured_of_ofParts? {negative : Bool} {significand : Nat}
    {exponent : Int} {number : Number}
    (hparts : ofParts? negative significand exponent = some number) :
    number.Measured := by
  obtain ⟨x, -, rfl⟩ := Option.map_eq_some_iff.mp hparts
  trivial

theorem measured_of_ofLiteral? {negative : Bool} {whole fraction : List Char}
    {exponent : Option (Bool × List Char)} {number : Number}
    (hliteral : ofLiteral? negative whole fraction exponent = some number) :
    number.Measured := by
  have hlt : (collect 0 whole).1 < Width.span 64 := collect_lt (by decide)
  unfold ofLiteral? at hliteral
  generalize collect 0 whole = collected at hliteral hlt
  obtain ⟨significand, taken⟩ := collected
  dsimp only at hliteral hlt
  split at hliteral
  · split at hliteral
    · split at hliteral
      · obtain rfl := Option.some.inj hliteral
        trivial
      · next hfits =>
          obtain rfl := Option.some.inj hliteral
          have hle : significand ≤ Width.span 63 := by
            simp only [Bool.or_eq_true, decide_eq_true_eq, not_or] at hfits
            omega
          exact ⟨by omega, by omega⟩
    · obtain rfl := Option.some.inj hliteral
      exact ⟨by omega, by omega⟩
  · split at hliteral
    · exact measured_of_ofParts? hliteral
    · split at hliteral
      · split at hliteral
        · contradiction
        · obtain rfl := Option.some.inj hliteral
          trivial
      · exact measured_of_ofParts? hliteral

end Number

namespace Document

/-- A document in which literals stand for all numbers. -/
inductive Measured : Document → Prop
  | broken : Measured broken
  | null : Measured null
  | bool (value : Bool) : Measured (bool value)
  | number {value : Option Number}
      (hvalue : ∀ number ∈ value, number.Measured) : Measured (number value)
  | text (value : Option String) : Measured (text value)
  | list {items : List Document} {closed : Bool}
      (hitems : ∀ item ∈ items, Measured item) : Measured (list items closed)
  | record {members : List (Option String × Document)} {closed : Bool}
      (hmembers : ∀ member ∈ members, Measured member.2) :
      Measured (record members closed)

theorem measured_of_scanNumber? {cs rest : List Char} {value : Option Number}
    (hscan : scanNumber? cs = some (value, rest)) :
    Measured (number value) := by
  refine .number fun number hnumber => ?_
  unfold scanNumber? at hscan
  simp only [bind, Option.bind_eq_some_iff] at hscan
  obtain ⟨⟨whole, afterWhole⟩, -, ⟨fraction, afterFraction⟩, -,
    ⟨exponent, afterExponent⟩, -, hresult⟩ := hscan
  obtain ⟨rfl, -⟩ := Prod.mk.inj (Option.some.inj hresult)
  exact Number.measured_of_ofLiteral? hnumber

theorem measured_scanWord {word : String} {value : Document} {cs : List Char}
    (hvalue : Measured value) : Measured (scanWord word value cs).1 := by
  unfold scanWord
  split
  · exact hvalue
  · exact .broken

mutual

theorem measured_scanValue :
    (fuel : Nat) → (cs : List Char) → Measured (scanValue fuel cs).1
  | 0, _ => .broken
  | fuel + 1, cs => by
      unfold scanValue
      split
      · exact .broken
      · next c rest _ =>
          split
          · split
            · exact .list nofun
            · exact .list (measured_scanItems fuel _)
          · split
            · split
              · exact .record nofun
              · exact .record (measured_scanMembers fuel _)
            · split
              · split
                · exact .broken
                · exact .text _
              · split
                · exact measured_scanWord .null
                · split
                  · exact measured_scanWord (.bool true)
                  · split
                    · exact measured_scanWord (.bool false)
                    · split
                      · exact .broken
                      · next hscan => exact measured_of_scanNumber? hscan

theorem measured_scanItems : (fuel : Nat) → (cs : List Char) →
    ∀ item ∈ (scanItems fuel cs).1, Measured item
  | 0, _ => nofun
  | fuel + 1, cs => by
      have hitem := measured_scanValue fuel cs
      unfold scanItems
      split
      · next heq =>
          rw [heq] at hitem
          simpa using hitem
      · next heq =>
          rw [heq] at hitem
          split
          · simpa using hitem
          · split
            · simpa using hitem
            · exact List.forall_mem_cons.mpr
                ⟨hitem, measured_scanItems fuel _⟩
          · simpa using hitem

theorem measured_scanMembers : (fuel : Nat) → (cs : List Char) →
    ∀ member ∈ (scanMembers fuel cs).1, Measured member.2
  | 0, _ => nofun
  | fuel + 1, cs => by
      unfold scanMembers
      split
      · split
        · exact nofun
        · split
          · next rest _ =>
              have hvalue := measured_scanValue fuel rest
              split
              · next heq =>
                  rw [heq] at hvalue
                  simpa using hvalue
              · next heq =>
                  rw [heq] at hvalue
                  split
                  · simpa using hvalue
                  · exact List.forall_mem_cons.mpr
                      ⟨hvalue, measured_scanMembers fuel _⟩
                  · simpa using hvalue
          · simpa using Measured.broken
      · exact nofun

end

end Document

namespace Json

/-- A value for which there are literals and room in a text. -/
structure Held (room : Nat) (value : Json) : Prop where
  depth_le : (Document.ofJson value).depth ≤ room
  measured : ∀ number ∈ value.numbers, number.Measured

variable {room : Nat}

theorem held_list {items : List Json}
    (hitems : ∀ item ∈ items, Held room item) :
    Held (room + 1) (list items) where
  depth_le := Nat.succ_le_succ (Document.depthItems_le_iff.mpr
    fun item hitem => (hitems item hitem).depth_le)
  measured := forall_numbers_list.mpr fun item hitem =>
    (hitems item hitem).measured

theorem held_record {members : Assoc Json}
    (hmembers : ∀ member ∈ members, Held room member.2) :
    Held (room + 1) (record members) where
  depth_le := Nat.succ_le_succ (Document.depthMembers_le_iff.mpr
    fun member hmember => (hmembers member hmember).depth_le)
  measured := forall_numbers_record.mpr fun member hmember =>
    (hmembers member hmember).measured

end Json

namespace Document

open Json (Held)

mutual

/-- A document is read as a value that its room holds. -/
theorem held_of_toJson? {room : Nat} : {document : Document} → {value : Json} →
    Measured document → document.toJson? room = some value → Held room value
  | .broken, _, _, hread => by simp [toJson?] at hread
  | .null, _, _, hread => by
      obtain rfl := Option.some.inj hread
      exact ⟨Nat.zero_le _, nofun⟩
  | .bool _, _, _, hread => by
      obtain rfl := Option.some.inj hread
      exact ⟨Nat.zero_le _, nofun⟩
  | .number _, _, .number hvalue, hread => by
      obtain ⟨number, hnumber, rfl⟩ := Option.map_eq_some_iff.mp hread
      exact ⟨Nat.zero_le _, List.forall_mem_singleton.mpr (hvalue _ hnumber)⟩
  | .text _, _, _, hread => by
      obtain ⟨_, _, rfl⟩ := Option.map_eq_some_iff.mp hread
      exact ⟨Nat.zero_le _, nofun⟩
  | .list items closed, value, .list hitems, hread => by
      match room, hread with
      | 0, hread => simp [toJson?] at hread
      | room + 1, hread =>
          cases closed with
          | false => simp [toJson?] at hread
          | true =>
              obtain ⟨_, hvalues, rfl⟩ := Option.map_eq_some_iff.mp hread
              exact Json.held_list (held_of_toItems? hitems hvalues)
  | .record members closed, value, .record hmembers, hread => by
      match room, hread with
      | 0, hread => simp [toJson?] at hread
      | room + 1, hread =>
          cases closed with
          | false => simp [toJson?] at hread
          | true =>
              obtain ⟨_, hvalues, rfl⟩ := Option.map_eq_some_iff.mp hread
              exact Json.held_record (held_of_toMembers? hmembers
                (List.forall_mem_nil _) hvalues)

theorem held_of_toItems? {room : Nat} :
    {documents : List Document} → {items : List Json} →
      (∀ document ∈ documents, Measured document) →
      toItems? room documents = some items → ∀ item ∈ items, Held room item
  | [], _, _, hread => by
      obtain rfl := Option.some.inj hread
      exact nofun
  | document :: rest, _, hdocuments, hread => by
      obtain ⟨hdocument, hrest⟩ := List.forall_mem_cons.mp hdocuments
      unfold toItems? at hread
      split at hread
      · contradiction
      · next value hvalue =>
          obtain ⟨_, hitems, rfl⟩ := Option.map_eq_some_iff.mp hread
          exact List.forall_mem_cons.mpr ⟨held_of_toJson? hdocument hvalue,
            held_of_toItems? hrest hitems⟩

theorem held_of_toMembers? {room : Nat} :
    {documents : List (Option String × Document)} →
      {sofar members : Assoc Json} →
      (∀ document ∈ documents, Measured document.2) →
      (∀ member ∈ sofar, Held room member.2) →
      toMembers? room sofar documents = some members →
      ∀ member ∈ members, Held room member.2
  | [], _, _, _, hsofar, hread => by
      obtain rfl := Option.some.inj hread
      exact hsofar
  | (none, _) :: _, _, _, _, _, hread => by simp [toMembers?] at hread
  | (some name, document) :: rest, sofar, _, hdocuments, hsofar, hread => by
      obtain ⟨hdocument, hrest⟩ := List.forall_mem_cons.mp hdocuments
      unfold toMembers? at hread
      split at hread
      · contradiction
      · next value hvalue =>
          refine held_of_toMembers? hrest (fun member hmem => ?_) hread
          rcases Assoc.mem_insert hmem with rfl | hmem
          · exact held_of_toJson? hdocument hvalue
          · exact hsofar member hmem

end

end Document

namespace Json

variable {text : String} {value : Json}

end Json

end Workflow
