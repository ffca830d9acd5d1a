import Workflow.Text.Utf8

/-!
# The bytes of a character

`Codes` tables the bytes that are read as one character, for all lengths, and
`units` the bytes that a code point is encoded as.  The two agree, so
`Utf8.next?` reads a character exactly off its encoding (`next?_eq_some_iff`).
-/

namespace Workflow.Utf8

variable {bytes used rest : List UInt8} {c : Char} {n : Nat}

theorem toNat_ofNat {n : Nat} (hvalid : n.isValidChar) :
    (Char.ofNat n).toNat = n := by
  rw [Char.ofNat, dif_pos hvalid]
  rfl

/-! ## Bytes as numbers -/

theorem continues_iff {b : UInt8} :
    continues b = true ↔ 128 ≤ b.toNat ∧ b.toNat ≤ 191 := by
  simp [continues, UInt8.le_iff_toNat_le]

theorem low_add {b : UInt8} (hb : continues b = true) :
    low b + 128 = b.toNat := by
  have hbounds := continues_iff.mp hb
  unfold low
  omega

/-- What follows 0xE0 is no overlong form, what follows 0xED no surrogate. -/
theorem second3_iff {a b : UInt8} : second3 a b = true ↔
    continues b = true ∧ (a.toNat = 224 → 160 ≤ b.toNat) ∧
      (a.toNat = 237 → b.toNat ≤ 159) := by
  simp only [second3, continues, Bool.ite_eq_true_distrib, Bool.and_eq_true,
    decide_eq_true_eq, UInt8.le_iff_toNat_le, ← UInt8.toNat_inj,
    UInt8.reduceToNat]
  split
  · omega
  · split <;> omega

/-- What follows 0xF0 is no overlong form, what follows 0xF4 not too large. -/
theorem second4_iff {a b : UInt8} : second4 a b = true ↔
    continues b = true ∧ (a.toNat = 240 → 144 ≤ b.toNat) ∧
      (a.toNat = 244 → b.toNat ≤ 143) := by
  simp only [second4, continues, Bool.ite_eq_true_distrib, Bool.and_eq_true,
    decide_eq_true_eq, UInt8.le_iff_toNat_le, ← UInt8.toNat_inj,
    UInt8.reduceToNat]
  split
  · omega
  · split <;> omega

theorem between_iff {low high a : UInt8} :
    (low ≤ a && a ≤ high) = true ↔ low.toNat ≤ a.toNat ∧ a.toNat ≤ high.toNat := by
  simp [UInt8.le_iff_toNat_le]

/-! ## The bytes of a code point -/

/-- Bytes that are read as one character, and the code point of it. -/
inductive Codes : List UInt8 → Nat → Prop
  | one {a : UInt8} (ha : a < 0x80) : Codes [a] a.toNat
  | two {a b : UInt8} (ha : (0xC2 ≤ a && a ≤ 0xDF) = true)
      (hb : continues b = true) : Codes [a, b] (a.toNat % 32 * 64 + low b)
  | three {a b d : UInt8} (ha : (0xE0 ≤ a && a ≤ 0xEF) = true)
      (hb : second3 a b = true) (hd : continues d = true) :
      Codes [a, b, d] (a.toNat % 16 * 4096 + low b * 64 + low d)
  | four {a b d e : UInt8} (ha : (0xF0 ≤ a && a ≤ 0xF4) = true)
      (hb : second4 a b = true) (hd : continues d = true)
      (he : continues e = true) :
      Codes [a, b, d, e]
        (a.toNat % 8 * 262144 + low b * 4096 + low d * 64 + low e)

/-- What the first byte of several tells about their number. -/
theorem not_ascii {a : UInt8} (ha : 128 ≤ a.toNat) : ¬ a < 0x80 := by
  simp only [UInt8.lt_iff_toNat_lt, UInt8.reduceToNat]
  omega

theorem not_between {low high a : UInt8} (ha : high.toNat < a.toNat) :
    (low ≤ a && a ≤ high) = false := by
  rw [Bool.eq_false_iff, ne_eq, between_iff]
  omega

theorem Codes.next? (hcodes : Codes used n) (rest : List UInt8) :
    Utf8.next? (used ++ rest) = some (Char.ofNat n, rest) := by
  cases hcodes with
  | one ha => simp [Utf8.next?, ha]
  | @two a b ha hb =>
      have hlead := between_iff.mp ha
      simp only [UInt8.reduceToNat] at hlead
      have hone : ¬ a < 0x80 := not_ascii (by omega)
      simp [Utf8.next?, hone, ha, hb]
  | @three a b d ha hb hd =>
      have hlead := between_iff.mp ha
      simp only [UInt8.reduceToNat] at hlead
      have hone : ¬ a < 0x80 := not_ascii (by omega)
      have htwo : (0xC2 ≤ a && a ≤ 0xDF) = false :=
        not_between (by simp only [UInt8.reduceToNat]; omega)
      simp [Utf8.next?, hone, htwo, ha, hb, hd]
  | @four a b d e ha hb hd he =>
      have hlead := between_iff.mp ha
      simp only [UInt8.reduceToNat] at hlead
      have hone : ¬ a < 0x80 := not_ascii (by omega)
      have htwo : (0xC2 ≤ a && a ≤ 0xDF) = false :=
        not_between (by simp only [UInt8.reduceToNat]; omega)
      have hthree : (0xE0 ≤ a && a ≤ 0xEF) = false :=
        not_between (by simp only [UInt8.reduceToNat]; omega)
      simp [Utf8.next?, hone, htwo, hthree, ha, hb, hd, he]

theorem exists_codes (hnext : next? bytes = some (c, rest)) :
    ∃ used n, Codes used n ∧ c = Char.ofNat n ∧ bytes = used ++ rest := by
  unfold next? at hnext
  split at hnext
  next => contradiction
  next a tail =>
    split at hnext
    next ha =>
      obtain ⟨rfl, rfl⟩ := Prod.mk.inj (Option.some.inj hnext)
      exact ⟨[a], _, .one ha, rfl, rfl⟩
    next =>
      split at hnext
      next ha =>
        split at hnext
        next b tail =>
          split at hnext
          next hb =>
            obtain ⟨rfl, rfl⟩ := Prod.mk.inj (Option.some.inj hnext)
            exact ⟨[a, b], _, .two ha hb, rfl, rfl⟩
          next => contradiction
        next => contradiction
      next =>
        split at hnext
        next ha =>
          split at hnext
          next b d tail =>
            split at hnext
            next htail =>
              obtain ⟨rfl, rfl⟩ := Prod.mk.inj (Option.some.inj hnext)
              obtain ⟨hb, hd⟩ := Bool.and_eq_true_iff.mp htail
              exact ⟨[a, b, d], _, .three ha hb hd, rfl, rfl⟩
            next => contradiction
          next => contradiction
        next =>
          split at hnext
          next ha =>
            split at hnext
            next b d e tail =>
              split at hnext
              next htail =>
                obtain ⟨rfl, rfl⟩ := Prod.mk.inj (Option.some.inj hnext)
                obtain ⟨hbd, he⟩ := Bool.and_eq_true_iff.mp htail
                obtain ⟨hb, hd⟩ := Bool.and_eq_true_iff.mp hbd
                exact ⟨[a, b, d, e], _, .four ha hb hd he, rfl, rfl⟩
              next => contradiction
            next => contradiction
          next => contradiction

theorem Codes.of_mem_tail (hcodes : Codes used n) {b : UInt8}
    (hmem : b ∈ used.tail) : 128 ≤ b.toNat := by
  have hcontinues {b : UInt8} (hb : continues b = true) : 128 ≤ b.toNat :=
    (continues_iff.mp hb).1
  cases hcodes with
  | one ha => simp at hmem
  | two ha hb =>
      obtain rfl := List.mem_singleton.mp hmem
      exact hcontinues hb
  | three ha hb hd =>
      simp only [List.tail_cons, List.mem_cons, List.not_mem_nil, or_false]
        at hmem
      obtain rfl | rfl := hmem
      · exact hcontinues (second3_iff.mp hb).1
      · exact hcontinues hd
  | four ha hb hd he =>
      simp only [List.tail_cons, List.mem_cons, List.not_mem_nil, or_false]
        at hmem
      obtain rfl | rfl | rfl := hmem
      · exact hcontinues (second4_iff.mp hb).1
      · exact hcontinues hd
      · exact hcontinues he

/-! ## Encodings -/

/-- The bytes of a code point. -/
def units (n : Nat) : List UInt8 :=
  if n ≤ 127 then [UInt8.ofNat n]
  else if n ≤ 2047 then
    [UInt8.ofNat (n / 64 % 32 + 192), UInt8.ofNat (n % 64 + 128)]
  else if n ≤ 65535 then
    [UInt8.ofNat (n / 4096 % 16 + 224), UInt8.ofNat (n / 64 % 64 + 128),
      UInt8.ofNat (n % 64 + 128)]
  else
    [UInt8.ofNat (n / 262144 % 8 + 240), UInt8.ofNat (n / 4096 % 64 + 128),
      UInt8.ofNat (n / 64 % 64 + 128), UInt8.ofNat (n % 64 + 128)]

theorem encodeChar_eq (c : Char) : String.utf8EncodeChar c = units c.toNat :=
  rfl

theorem ofNat_eq {k : Nat} {b : UInt8} (hk : k = b.toNat) : UInt8.ofNat k = b := by
  rw [hk, UInt8.ofNat_toNat]

/-- Bytes that are read as a character are the bytes of its code point. -/
theorem Codes.units_eq (hcodes : Codes used n) :
    n.isValidChar ∧ units n = used := by
  unfold Nat.isValidChar units
  cases hcodes with
  | @one a ha =>
      have ha : a.toNat < 128 := UInt8.lt_iff_toNat_lt.mp ha
      refine ⟨by omega, ?_⟩
      rw [if_pos (by omega), UInt8.ofNat_toNat]
  | @two a b ha hb =>
      have hlead := between_iff.mp ha
      simp only [UInt8.reduceToNat] at hlead
      have hb' := continues_iff.mp hb
      have hlow := low_add hb
      refine ⟨by omega, ?_⟩
      rw [if_neg (by omega), if_pos (by omega), ofNat_eq (b := a) (by omega),
        ofNat_eq (b := b) (by omega)]
  | @three a b d ha hb hd =>
      have hlead := between_iff.mp ha
      simp only [UInt8.reduceToNat] at hlead
      obtain ⟨hb, hfirst, hlast⟩ := second3_iff.mp hb
      have hb' := continues_iff.mp hb
      have hd' := continues_iff.mp hd
      have hlow := low_add hb
      have hlow' := low_add hd
      refine ⟨by omega, ?_⟩
      rw [if_neg (by omega), if_neg (by omega), if_pos (by omega),
        ofNat_eq (b := a) (by omega), ofNat_eq (b := b) (by omega),
        ofNat_eq (b := d) (by omega)]
  | @four a b d e ha hb hd he =>
      have hlead := between_iff.mp ha
      simp only [UInt8.reduceToNat] at hlead
      obtain ⟨hb, hfirst, hlast⟩ := second4_iff.mp hb
      have hb' := continues_iff.mp hb
      have hd' := continues_iff.mp hd
      have he' := continues_iff.mp he
      have hlow := low_add hb
      have hlow' := low_add hd
      have hlow'' := low_add he
      refine ⟨by omega, ?_⟩
      rw [if_neg (by omega), if_neg (by omega), if_neg (by omega),
        ofNat_eq (b := a) (by omega), ofNat_eq (b := b) (by omega),
        ofNat_eq (b := d) (by omega), ofNat_eq (b := e) (by omega)]

section Units

variable (hn : n < 256)
include hn

theorem toNat_byte : (UInt8.ofNat n).toNat = n := by
  rw [UInt8.toNat_ofNat', Nat.mod_eq_of_lt hn]

theorem between_byte {low high : UInt8} (hlow : low.toNat ≤ n)
    (hhigh : n ≤ high.toNat) :
    (low ≤ UInt8.ofNat n && UInt8.ofNat n ≤ high) = true := by
  rw [between_iff, toNat_byte hn]
  exact ⟨hlow, hhigh⟩

end Units

theorem continues_byte (n : Nat) :
    continues (UInt8.ofNat (n % 64 + 128)) = true := by
  rw [continues_iff, toNat_byte (by omega)]
  omega

theorem low_byte (n : Nat) : low (UInt8.ofNat (n % 64 + 128)) = n % 64 := by
  have hadd := low_add (continues_byte n)
  rw [toNat_byte (by omega)] at hadd
  omega

/-- The bytes of a code point are read as its character. -/
theorem codes_units (hvalid : n.isValidChar) : Codes (units n) n := by
  unfold Nat.isValidChar at hvalid
  unfold units
  split
  next hone =>
    have hascii : UInt8.ofNat n < 0x80 := by
      rw [UInt8.lt_iff_toNat_lt, toNat_byte (by omega)]
      exact Nat.lt_succ_of_le hone
    have hcodes := Codes.one hascii
    rwa [toNat_byte (by omega)] at hcodes
  next hone =>
    split
    next htwo =>
      have hlead : n / 64 % 32 + 192 < 256 := by omega
      have hcode : (n / 64 % 32 + 192) % 32 * 64 + n % 64 = n := by omega
      have hcodes := Codes.two
        (between_byte hlead (by simp only [UInt8.reduceToNat]; omega)
          (by simp only [UInt8.reduceToNat]; omega))
        (continues_byte n)
      rwa [toNat_byte hlead, low_byte, hcode] at hcodes
    next htwo =>
      split
      next hthree =>
        have hlead : n / 4096 % 16 + 224 < 256 := by omega
        have hcode : (n / 4096 % 16 + 224) % 16 * 4096 + n / 64 % 64 * 64 +
            n % 64 = n := by omega
        have hsecond : second3 (UInt8.ofNat (n / 4096 % 16 + 224))
            (UInt8.ofNat (n / 64 % 64 + 128)) = true := by
          rw [second3_iff, toNat_byte hlead, toNat_byte (by omega)]
          exact ⟨continues_byte _, by omega, by omega⟩
        have hcodes := Codes.three
          (between_byte hlead (by simp only [UInt8.reduceToNat]; omega)
            (by simp only [UInt8.reduceToNat]; omega))
          hsecond (continues_byte n)
        rwa [toNat_byte hlead, low_byte, low_byte, hcode] at hcodes
      next hthree =>
        have hlead : n / 262144 % 8 + 240 < 256 := by omega
        have hcode : (n / 262144 % 8 + 240) % 8 * 262144 +
            n / 4096 % 64 * 4096 + n / 64 % 64 * 64 + n % 64 = n := by omega
        have hsecond : second4 (UInt8.ofNat (n / 262144 % 8 + 240))
            (UInt8.ofNat (n / 4096 % 64 + 128)) = true := by
          rw [second4_iff, toNat_byte hlead, toNat_byte (by omega)]
          exact ⟨continues_byte _, by omega, by omega⟩
        have hcodes := Codes.four
          (between_byte hlead (by simp only [UInt8.reduceToNat]; omega)
            (by simp only [UInt8.reduceToNat]; omega))
          hsecond (continues_byte (n / 64)) (continues_byte n)
        rwa [toNat_byte hlead, low_byte, low_byte, low_byte, hcode] at hcodes

/-- A character is read off its encoding and off nothing else. -/
theorem next?_eq_some_iff :
    next? bytes = some (c, rest) ↔ bytes = String.utf8EncodeChar c ++ rest := by
  rw [encodeChar_eq]
  constructor
  · intro hnext
    obtain ⟨used, n, hcodes, rfl, rfl⟩ := exists_codes hnext
    obtain ⟨hvalid, hunits⟩ := hcodes.units_eq
    rw [toNat_ofNat hvalid, hunits]
  · rintro rfl
    have hnext := (codes_units c.valid).next? rest
    rwa [show Char.ofNat c.val.toNat = c from Char.ofNat_toNat c] at hnext

end Workflow.Utf8
