import Workflow.Proofs.Clock.Instant
import Workflow.Proofs.Text.Trim

/-!
# Instants are read back

The text of an instant that a clock can show is read as that instant
(`parse_render`), whatever the number of its fraction digits, the sign of its
year or a leap second.  Each part of the text is read off in front of the
next one, so there is one lemma for each part, about all texts that may
follow it.
-/

namespace Workflow.Instant

open Clock (Date)
open Text (Spells isBlank_eq_false_of_isDigit trimLeft_cons)

/-! ## Digits in front of a text -/

theorem digitsValue_eq (ds : List Char) :
    digitsValue ds = Nat.ofDigitChars 10 ds 0 := by
  simp [digitsValue, Nat.ofDigitChars, Nat.mul_comm]

/-- No digit follows. -/
def Stops (rest : List Char) : Prop :=
  rest.takeWhile Char.isDigit = []

@[simp] theorem stops_cons {c : Char} {rest : List Char} :
    Stops (c :: rest) ↔ c.isDigit = false := by
  cases hdigit : c.isDigit <;> simp [Stops, hdigit]

section Numbers

variable {width size n : Nat} {ds rest : List Char}

theorem takeWhile_isDigit_append (hds : Spells size n ds)
    (hrest : Stops rest) : (ds ++ rest).takeWhile Char.isDigit = ds := by
  rw [List.takeWhile_append_of_pos hds.isDigit, hrest, List.append_nil]

/-- As many digits as may be read, or all that there are. -/
theorem takeWhile_isDigit_take (hds : Spells size n ds) (hle : size ≤ width)
    (hrest : size = width ∨ Stops rest) :
    ((ds ++ rest).take width).takeWhile Char.isDigit = ds := by
  have hlength := hds.length
  rw [List.take_append, List.take_of_length_le (by omega)]
  refine takeWhile_isDigit_append hds ?_
  rcases hrest with rfl | hrest
  · simp [hlength, Stops]
  · unfold Stops
    match rest, hrest with
    | [], _ => simp
    | c :: rest, hrest =>
        have hstop : c.isDigit = false := stops_cons.mp hrest
        cases width - ds.length <;> simp [hstop]

theorem number_append (hds : Spells size n ds) (hpos : 0 < size)
    (hle : size ≤ width) (hrest : size = width ∨ Stops rest)
    (hfits : n < 2 ^ 63) : number width (ds ++ rest) = .ok (n, rest) := by
  have htake := takeWhile_isDigit_take hds hle hrest
  have hvalue : digitsValue ds = n := (digitsValue_eq ds).trans hds.value
  have hwidth : Width.fits 63 n = true :=
    decide_eq_true hfits
  match ds, hds, htake, hvalue with
  | [], hds, _, _ => exact absurd hds.length hpos.ne
  | c :: ds, hds, htake, hvalue =>
      have hblank : Text.isBlank c = false :=
        isBlank_eq_false_of_isDigit (hds.isDigit c List.mem_cons_self)
      have htrim : Text.trimLeft (c :: ds ++ rest) = c :: ds ++ rest :=
        trimLeft_cons hblank
      simp only [number, htrim, htake]
      simp [hvalue, hwidth]

theorem bounded_padded {low high : Nat} (hlow : low ≤ n) (hhigh : n ≤ high)
    (hlt : n < 100) :
    bounded low high ((padded 2 n).toList ++ rest) = .ok (n, rest) := by
  have hnumber : number 2 ((padded 2 n).toList ++ rest) = .ok (n, rest) :=
    number_append (spells_padded (by decide) hlt) (by decide) le_rfl (.inl rfl)
      (by omega)
  simp [bounded, hnumber, bind, Except.bind, hlow, hhigh]

end Numbers

theorem mark_cons {c : Char} {rest : List Char}
    (hblank : Text.isBlank c = false) : mark c (c :: rest) = .ok rest := by
  simp [mark, trimLeft_cons hblank]

/-! ## The parts of a text -/

theorem unspaced_append {size n : Nat} {ds rest : List Char}
    (hds : Spells size n ds) (hpos : 0 < size) (hrest : Stops rest)
    (hfits : n < 2 ^ 63) : year.unspaced (ds ++ rest) = .ok (n, rest) := by
  have hnumber : number (ds ++ rest).length (ds ++ rest) = .ok (n, rest) :=
    number_append hds hpos (by simp [hds.length]) (.inr hrest) hfits
  match ds, hds, hnumber with
  | [], hds, _ => exact absurd hds.length hpos.ne
  | c :: ds, hds, hnumber =>
      have hdigit : c.isDigit = true := hds.isDigit c List.mem_cons_self
      rw [List.cons_append] at hnumber ⊢
      simp only [year.unspaced, hdigit, if_true]
      exact hnumber

/-- A year that starts with a digit has no sign. -/
theorem year_of_isDigit {c : Char} {cs rest : List Char} {value : Nat}
    (hdigit : c.isDigit = true) (hnumber : number 4 (c :: cs) = .ok (value, rest))
    (hfits : Width.fitsSigned 32 value = true) :
    year (c :: cs) = .ok ((value : Int), rest) := by
  have hdash : c ≠ '-' := by rintro rfl; exact absurd hdigit (by decide)
  have hplus : c ≠ '+' := by rintro rfl; exact absurd hdigit (by decide)
  unfold year
  rw [trimLeft_cons (isBlank_eq_false_of_isDigit hdigit)]
  split
  · next heq => exact absurd (List.cons.inj heq).1 hdash
  · next heq => exact absurd (List.cons.inj heq).1 hplus
  · simp only [hnumber, bind, Except.bind, hfits, if_true]

/-- A year is read back in front of a mark. -/
theorem year_yearText {y : Int} (hlow : minYear ≤ y) (hhigh : y ≤ maxYear)
    {rest : List Char} (hrest : Stops rest) :
    year ((yearText y).toList ++ rest) = .ok (y, rest) := by
  unfold minYear at hlow
  unfold maxYear at hhigh
  have hspan : (Width.span 31 : Int) = 2147483648 := rfl
  have hfits : Width.fitsSigned 32 y = true := by
    simp [Width.fitsSigned, hspan]
    omega
  -- The digits of a year behind a sign are as many as it takes.
  have hsigned : year.unspaced ((padded 4 y.natAbs).toList ++ rest) =
      .ok (y.natAbs, rest) :=
    unspaced_append (spells_padded_max 4 y.natAbs) (by omega) hrest (by omega)
  unfold yearText
  split
  · next hyear =>
      have hyear : 0 ≤ y ∧ y ≤ 9999 := by simpa using hyear
      have hcast : (y.toNat : Int) = y := by omega
      have hdigits : Spells 4 y.toNat (padded 4 y.toNat).toList :=
        spells_padded (by decide) (by omega)
      have hnumber : number 4 ((padded 4 y.toNat).toList ++ rest) =
          .ok (y.toNat, rest) :=
        number_append hdigits (by decide) le_rfl (.inl rfl) (by omega)
      match (padded 4 y.toNat).toList, hdigits, hnumber with
      | [], hdigits, _ => exact absurd hdigits.length (by decide)
      | c :: ds, hdigits, hnumber =>
          have hdigit := hdigits.isDigit c List.mem_cons_self
          rw [List.cons_append] at hnumber ⊢
          have hyear := year_of_isDigit hdigit hnumber (hcast.symm ▸ hfits)
          rwa [hcast] at hyear
  · next hyear =>
      have hdash : Text.isBlank '-' = false := by decide
      have hplus : Text.isBlank '+' = false := by decide
      split
      · next hneg =>
          have hcast : -|y| = y := by rw [abs_of_neg hneg, neg_neg]
          simp [year, trimLeft_cons hdash, hsigned, bind, Except.bind, hcast,
            hfits]
      · next hpos =>
          have hcast : (y.natAbs : Int) = y := by omega
          simp [year, trimLeft_cons hplus, hsigned, bind, Except.bind, hcast,
            hfits]

/-- A fraction of up to nine digits. -/
theorem fraction_append {size n : Nat} {ds rest : List Char}
    (hds : Spells size n ds) (hpos : 0 < size) (hle : size ≤ 9)
    (hrest : Stops rest) :
    fraction ('.' :: (ds ++ rest)) = .ok (n * 10 ^ (9 - size), rest) := by
  have htake := takeWhile_isDigit_append hds hrest
  have hvalue : digitsValue ds = n := (digitsValue_eq ds).trans hds.value
  have hlength := hds.length
  have hnine : ds.take 9 = ds := List.take_of_length_le (by omega)
  match ds, htake, hvalue, hlength, hnine with
  | [], _, _, hlength, _ => exact absurd hlength hpos.ne
  | c :: ds, htake, hvalue, hlength, hnine =>
      simp only [fraction, htake]
      simp only [List.cons_append, hnine, hvalue, hlength]
      simp [← hlength]

/-- The fraction that a number of nanoseconds is written with. -/
def fractionText (nanos : Nat) : String :=
  if nanos = 0 then ""
  else if nanos % 1000000 = 0 then "." ++ padded 3 (nanos / 1000000)
  else if nanos % 1000 = 0 then "." ++ padded 6 (nanos / 1000)
  else "." ++ padded 9 nanos

theorem fraction_fractionText {nanos : Nat} (hlt : nanos < 1000000000) :
    fraction ((fractionText nanos).toList ++ ['Z']) = .ok (nanos, ['Z']) := by
  have hstops : Stops ['Z'] := stops_cons.mpr (by decide)
  have hpart {size n : Nat} (hpos : 0 < size) (hle : size ≤ 9)
      (hn : n < 10 ^ size) (hvalue : n * 10 ^ (9 - size) = nanos) :
      fraction (("." ++ padded size n).toList ++ ['Z']) =
        .ok (nanos, ['Z']) := by
    rw [← hvalue, ← fraction_append (spells_padded hpos hn) hpos hle hstops]
    simp
  unfold fractionText
  split
  · next hzero => simp [hzero, fraction]
  · split
    · exact hpart (by decide) (by decide) (by omega) (by omega)
    · split
      · exact hpart (by decide) (by decide) (by omega) (by omega)
      · exact hpart (by decide) (by decide) (by omega) (by omega)

theorem toList_render (at_ : Instant) :
    at_.render.toList =
      at_.wholeText.toList ++
        ((fractionText (at_.nanos % 1000000000)).toList ++ ['Z']) := by
  simp [render, fractionText]

/-! ## Whole texts -/

/-- A second 60 is read as the end of second 59. -/
theorem Valid.fold_leap {at_ : Instant} (hvalid : at_.Valid) :
    (if at_.parts.2 % 60 + at_.nanos / 1000000000 = 60 then
        (59, at_.nanos % 1000000000 + 1000000000)
      else
        (at_.parts.2 % 60 + at_.nanos / 1000000000,
          at_.nanos % 1000000000)) =
      (at_.parts.2 % 60, at_.nanos) := by
  rcases hvalid.leap with ⟨hleap, -⟩ | ⟨hleap, hlast, -⟩
  · rw [if_neg (by omega), hleap, Nat.add_zero, Prod.mk.injEq]
    omega
  · rw [if_pos (by omega), Prod.mk.injEq]
    omega

/-- The day, the hour, the minute and the second make the instant. -/
theorem of_parts (at_ : Instant) :
    (⟨at_.parts.1.toDays * 86400 +
        (at_.parts.2 / 3600 * 3600 + at_.parts.2 / 60 % 60 * 60 +
          at_.parts.2 % 60 : Nat) - 0, at_.nanos⟩ : Instant) = at_ := by
  have hseconds := at_.seconds_eq
  cases at_
  simp only [mk.injEq, and_true] at hseconds ⊢
  omega

/-- The text of an instant is read as the instant. -/
theorem parse_render {at_ : Instant} (hvalid : at_.Valid) :
    parse at_.render = .ok at_ := by
  have hsecond := hvalid.second_le
  have hclock := at_.clock_lt
  have hdate := at_.date_le
  have hvalidDate := at_.valid_date
  obtain ⟨⟨hmonth, hmonths⟩, hday, hdays⟩ := Date.valid_iff.mp hvalidDate
  have hyear (rest : List Char) :
      year ((yearText at_.parts.1.year).toList ++ '-' :: rest) =
        .ok (at_.parts.1.year, '-' :: rest) :=
    year_yearText hvalid.minYear_le hvalid.le_maxYear
      (stops_cons.mpr (by decide))
  have hfraction := fraction_fractionText
    (show at_.nanos % 1000000000 < 1000000000 by omega)
  have hdash : Text.isBlank '-' = false := by decide
  have hcolon : Text.isBlank ':' = false := by decide
  unfold parse
  rw [toList_render, toList_wholeText]
  simp only [List.append_assoc, List.cons_append, hyear, bind, Except.bind]
  simp only [mark_cons hdash]
  rw [bounded_padded (by omega) (by omega) (by omega)]
  simp only [mark_cons hdash]
  rw [bounded_padded (by omega) (by omega) (by omega)]
  simp only [decide_true, Bool.or_true, Bool.true_or, if_true]
  rw [bounded_padded (by omega) (by omega) (by omega)]
  simp only [mark_cons hcolon]
  rw [bounded_padded (by omega) (by omega) (by omega)]
  simp only [mark_cons hcolon]
  rw [bounded_padded (by omega) (by omega) (by omega)]
  have hnames : namesUtc (Text.trimLeft ['Z']) = false := by decide
  have hoffset : offset (Text.trimLeft ['Z']) = .ok (0, []) := rfl
  have hempty : (Text.trimLeft []).isEmpty = true := rfl
  have hlow : ¬ at_.parts.1.year < minYear := by
    have := hvalid.minYear_le
    omega
  have hhigh : ¬ at_.parts.1.year > maxYear := by
    have := hvalid.le_maxYear
    omega
  have heta : (⟨at_.parts.1.year, at_.parts.1.month, at_.parts.1.day⟩ : Date) =
      at_.parts.1 := rfl
  simp only [hfraction, hnames, hoffset, hvalid.fold_leap, heta, of_parts]
  simp [hempty, hvalidDate, hlow, hhigh, hvalid.minYear_le, hvalid.le_maxYear]

end Workflow.Instant
