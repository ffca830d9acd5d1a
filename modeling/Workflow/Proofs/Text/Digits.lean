import Mathlib.Algebra.Order.Ring.Nat

/-!
# Decimal digits

What a number is written with: the digits of a text with a fixed width, and
those that `Nat.toDigits` gives.  Texts of one width are in the order of the
numbers that they spell, which is what makes it possible to compare times by
their texts.
-/

namespace Workflow.Text

/-- A text of so many decimal digits that stands for a number. -/
structure Spells (width n : Nat) (ds : List Char) : Prop where
  length : ds.length = width
  isDigit : ∀ c ∈ ds, c.isDigit = true
  value : Nat.ofDigitChars 10 ds 0 = n

theorem isDigit_iff {c : Char} :
    c.isDigit = true ↔ 48 ≤ c.toNat ∧ c.toNat ≤ 57 :=
  Char.isDigit_iff_toNat

theorem char_lt_iff {c d : Char} : c < d ↔ c.toNat < d.toNat :=
  Iff.rfl

/-- Texts are compared by their first characters first. -/
theorem append_lt_append_iff {front other rest last : List Char}
    (hlength : front.length = other.length) :
    front ++ rest < other ++ last ↔
      front < other ∨ front = other ∧ rest < last := by
  induction front generalizing other with
  | nil =>
      obtain rfl : other = [] := List.length_eq_zero_iff.mp hlength.symm
      simp
  | cons c front ih =>
      match other with
      | d :: other =>
          have hlength : front.length = other.length := by simpa using hlength
          simp only [List.cons_append, List.cons_lt_cons_iff, ih hlength,
            List.cons.injEq]
          grind

/-- The first digit weighs as much as its place tells. -/
theorem ofDigitChars_cons_zero (c : Char) (ds : List Char) :
    Nat.ofDigitChars 10 (c :: ds) 0 =
      10 ^ ds.length * (c.toNat - 48) + Nat.ofDigitChars 10 ds 0 := by
  rw [Nat.ofDigitChars_cons, Nat.ofDigitChars_eq_ofDigitChars_zero]
  simp

/-- The number that digits spell is below the power of ten for their width. -/
theorem ofDigitChars_lt {ds : List Char} (hdigits : ∀ c ∈ ds, c.isDigit = true) :
    Nat.ofDigitChars 10 ds 0 < 10 ^ ds.length := by
  induction ds with
  | nil => simp
  | cons c ds ih =>
      obtain ⟨hc, hds⟩ := List.forall_mem_cons.mp hdigits
      have hrest := ih hds
      have hhead := isDigit_iff.mp hc
      have hweight : 10 ^ ds.length * (c.toNat - 48) ≤ 10 ^ ds.length * 9 :=
        Nat.mul_le_mul_left _ (by omega)
      rw [ofDigitChars_cons_zero, List.length_cons, Nat.pow_succ]
      omega

namespace Spells

variable {width m n : Nat} {ds es : List Char}

/-- Digits of one width are ordered like the numbers that they spell. -/
theorem lt_iff (hds : Spells width m ds) (hes : Spells width n es) :
    ds < es ↔ m < n := by
  obtain ⟨rfl, hds, rfl⟩ := hds
  obtain ⟨hlength, hes, rfl⟩ := hes
  induction ds generalizing es with
  | nil =>
      obtain rfl : es = [] := List.length_eq_zero_iff.mp hlength
      simp
  | cons c ds ih =>
      match es with
      | d :: es =>
          obtain ⟨hc, hds⟩ := List.forall_mem_cons.mp hds
          obtain ⟨hd, hes⟩ := List.forall_mem_cons.mp hes
          have hlength : es.length = ds.length := by simpa using hlength
          have hlow := ofDigitChars_lt hds
          have hlow' := ofDigitChars_lt hes
          have hc := isDigit_iff.mp hc
          have hd := isDigit_iff.mp hd
          rw [hlength] at hlow'
          rw [List.cons_lt_cons_iff, ih hds hlength hes, char_lt_iff,
            ofDigitChars_cons_zero, ofDigitChars_cons_zero, hlength]
          -- The first digit weighs more than all digits after it.
          rcases Nat.lt_trichotomy c.toNat d.toNat with hlt | heq | hgt
          · have hweight := Nat.mul_le_mul_left (10 ^ ds.length)
              (show c.toNat - 48 + 1 ≤ d.toNat - 48 by omega)
            rw [Nat.mul_add, Nat.mul_one] at hweight
            constructor <;> intro _ <;> omega
          · obtain rfl : c = d := Char.toNat_inj.mp heq
            simp
          · have hweight := Nat.mul_le_mul_left (10 ^ ds.length)
              (show d.toNat - 48 + 1 ≤ c.toNat - 48 by omega)
            rw [Nat.mul_add, Nat.mul_one] at hweight
            have hne : c ≠ d := by rintro rfl; omega
            constructor
            · rintro (h | ⟨h, -⟩)
              · omega
              · exact absurd h hne
            · intro _
              omega

theorem eq_iff (hds : Spells width m ds) (hes : Spells width n es) :
    ds = es ↔ m = n := by
  constructor
  · rintro rfl
    exact hds.value.symm.trans hes.value
  · rintro rfl
    have hle := List.not_lt.mp fun h => Nat.lt_irrefl m ((hds.lt_iff hes).mp h)
    have hge := List.not_lt.mp fun h => Nat.lt_irrefl m ((hes.lt_iff hds).mp h)
    exact List.le_antisymm hge hle

/-- Texts that start with as many digits are compared by these first. -/
theorem append_lt_iff (hds : Spells width m ds) (hes : Spells width n es)
    {rest other : List Char} :
    ds ++ rest < es ++ other ↔ m < n ∨ m = n ∧ rest < other := by
  rw [append_lt_append_iff (hds.length.trans hes.length.symm), hds.lt_iff hes,
    hds.eq_iff hes]

end Spells

/-- The digits that a number is written with. -/
theorem spells_toDigits (n : Nat) :
    Spells (Nat.toDigits 10 n).length n (Nat.toDigits 10 n) where
  length := rfl
  isDigit _ hc := Nat.isDigit_of_mem_toDigits (by decide) (by decide) hc
  value := Nat.ofDigitChars_ten_toDigits

/-- Only zero is written with a leading zero. -/
theorem exists_toDigits_cons {n : Nat} (hn : 0 < n) :
    ∃ c ds, Nat.toDigits 10 n = c :: ds ∧ c ≠ '0' := by
  induction n using Nat.strongRecOn with
  | ind n ih =>
      rw [Nat.toDigits_eq_if (by decide)]
      split
      · next hlt =>
          have hdigit : ∀ digit < 10, 0 < digit → digit.digitChar ≠ '0' := by
            decide
          exact ⟨_, _, rfl, hdigit n hlt hn⟩
      · next hge =>
          obtain ⟨c, ds, hds, hc⟩ := ih (n / 10) (by omega) (by omega)
          exact ⟨c, ds ++ [(n % 10).digitChar],
            by rw [hds, List.cons_append], hc⟩

/-- Zeros in front do not change a number. -/
theorem spells_replicate_append {zeros width n : Nat} {ds : List Char}
    (hds : Spells width n ds) :
    Spells (zeros + width) n (List.replicate zeros '0' ++ ds) where
  length := by simp [hds.length]
  isDigit c hc := by
    rcases List.mem_append.mp hc with hzero | hc
    · rw [List.eq_of_mem_replicate hzero]
      rfl
    · exact hds.isDigit c hc
  value := by
    rw [Nat.ofDigitChars_append, Nat.ofDigitChars_replicate_zero, Nat.mul_zero,
      hds.value]

end Workflow.Text
