import Workflow.Clock.Instant
import Workflow.Proofs.Clock.Calendar
import Workflow.Proofs.Text.Digits

/-!
# Instants and their texts

The text that an instant has in a row tells the year, and then every part of the
time with a fixed number of digits, down to the microsecond.  Within the years
of four digits such texts are in the order of time (`renderMicros_lt_iff`); a
year with a sign, or a difference below the microsecond, is lost on them.
-/

namespace Workflow.Instant

open Clock (Date)
open Text (Spells)

/-- What a clock can show: a time in a known year, where only the last second
of a minute may run on. -/
structure Valid (at_ : Instant) : Prop where
  minYear_le : minYear ≤ at_.parts.1.year
  le_maxYear : at_.parts.1.year ≤ maxYear
  nanos_lt : at_.nanos < 1000000000 ∨
    at_.nanos < 2000000000 ∧ at_.seconds % 60 = 59

/-- A year of four digits. -/
def FourDigits (at_ : Instant) : Prop :=
  0 ≤ at_.parts.1.year ∧ at_.parts.1.year ≤ 9999

/-! ## Numbers with leading zeros -/

theorem toList_padded (width n : Nat) :
    (padded width n).toList =
      List.replicate (width - (Nat.toDigits 10 n).length) '0' ++
        Nat.toDigits 10 n := by
  simp [padded, Nat.repr_eq_ofList_toDigits]

theorem spells_padded_max (width n : Nat) :
    Spells (max width (Nat.toDigits 10 n).length) n
      (padded width n).toList := by
  have hwidth : max width (Nat.toDigits 10 n).length =
      width - (Nat.toDigits 10 n).length + (Nat.toDigits 10 n).length := by
    omega
  rw [toList_padded, hwidth]
  exact Text.spells_replicate_append (Text.spells_toDigits n)

theorem spells_padded {width n : Nat} (hwidth : 0 < width)
    (hlt : n < 10 ^ width) : Spells width n (padded width n).toList := by
  have hlength : (Nat.toDigits 10 n).length ≤ width :=
    (Nat.length_toDigits_le_iff (by decide) hwidth).mpr hlt
  have hspells := spells_padded_max width n
  rwa [Nat.max_eq_left hlength] at hspells

/-! ## The parts of an instant -/

section Parts

variable {at_ : Instant}

/-- The second of the day. -/
theorem clock_lt (at_ : Instant) : at_.parts.2 < 86400 := by
  simp only [parts]
  omega

theorem clock_eq (at_ : Instant) :
    (at_.parts.2 : Int) = at_.seconds % 86400 :=
  Int.toNat_of_nonneg (by omega)

theorem seconds_eq (at_ : Instant) :
    at_.seconds = at_.parts.1.toDays * 86400 + at_.parts.2 := by
  rw [clock_eq]
  simp only [parts, Date.toDays_ofDays]
  omega

/-- The dates are in the order of the days. -/
theorem date_before_iff (at_ later : Instant) :
    at_.parts.1.Before later.parts.1 ↔
      at_.seconds / 86400 < later.seconds / 86400 :=
  Date.before_ofDays_iff

theorem valid_date (at_ : Instant) : at_.parts.1.valid = true :=
  Date.valid_ofDays _

/-- Only the last second of a minute runs on. -/
theorem Valid.leap (hvalid : at_.Valid) :
    (at_.nanos / 1000000000 = 0 ∧
        at_.nanos % 1000000000 / 1000 = at_.nanos / 1000) ∨
      (at_.nanos / 1000000000 = 1 ∧ at_.parts.2 % 60 = 59 ∧
        at_.nanos % 1000000000 / 1000 + 1000000 = at_.nanos / 1000) := by
  have hclock := at_.clock_eq
  rcases hvalid.nanos_lt with hlt | ⟨hlt, hlast⟩
  · exact .inl ⟨by omega, by rw [Nat.mod_eq_of_lt hlt]⟩
  · omega

/-- Only the last second of a minute is written as 60. -/
theorem Valid.second_le (hvalid : at_.Valid) :
    at_.parts.2 % 60 + at_.nanos / 1000000000 ≤ 60 := by
  rcases hvalid.leap with ⟨hleap, -⟩ | ⟨hleap, hlast, -⟩ <;> omega

end Parts

/-- The text up to the whole second, part by part. -/
theorem toList_wholeText (at_ : Instant) :
    at_.wholeText.toList =
      (yearText at_.parts.1.year).toList ++
        '-' :: ((padded 2 at_.parts.1.month).toList ++
        '-' :: ((padded 2 at_.parts.1.day).toList ++
        'T' :: ((padded 2 (at_.parts.2 / 3600)).toList ++
        ':' :: ((padded 2 (at_.parts.2 / 60 % 60)).toList ++
        ':' :: (padded 2
          (at_.parts.2 % 60 + at_.nanos / 1000000000)).toList)))) := by
  simp [wholeText]

theorem toList_renderMicros (at_ : Instant) :
    at_.renderMicros.toList =
      (yearText at_.parts.1.year).toList ++
        '-' :: ((padded 2 at_.parts.1.month).toList ++
        '-' :: ((padded 2 at_.parts.1.day).toList ++
        'T' :: ((padded 2 (at_.parts.2 / 3600)).toList ++
        ':' :: ((padded 2 (at_.parts.2 / 60 % 60)).toList ++
        ':' :: ((padded 2
          (at_.parts.2 % 60 + at_.nanos / 1000000000)).toList ++
        '.' :: ((padded 6 (at_.nanos % 1000000000 / 1000)).toList ++
        ['Z'])))))) := by
  simp [renderMicros, toList_wholeText]

/-! ## The order of the texts -/

/-- The order of time up to the microsecond. -/
def MicrosBefore (at_ later : Instant) : Prop :=
  at_.seconds < later.seconds ∨
    at_.seconds = later.seconds ∧ at_.nanos / 1000 < later.nanos / 1000

theorem spells_year {at_ : Instant} (hyear : at_.FourDigits) :
    Spells 4 at_.parts.1.year.toNat (yearText at_.parts.1.year).toList := by
  obtain ⟨hlow, hhigh⟩ := hyear
  rw [yearText, if_pos (by simp [hlow, hhigh])]
  exact spells_padded (by decide) (by omega)

theorem spells_append_lt_iff {width m n : Nat} {c : Char}
    {ds es rest other : List Char} (hds : Spells width m ds)
    (hes : Spells width n es) :
    ds ++ c :: rest < es ++ c :: other ↔ m < n ∨ m = n ∧ rest < other := by
  rw [hds.append_lt_iff hes]
  simp

theorem padded_append_lt_iff {width m n : Nat} {c : Char}
    {rest other : List Char} (hwidth : 0 < width) (hm : m < 10 ^ width)
    (hn : n < 10 ^ width) :
    (padded width m).toList ++ c :: rest <
        (padded width n).toList ++ c :: other ↔
      m < n ∨ m = n ∧ rest < other :=
  spells_append_lt_iff (spells_padded hwidth hm) (spells_padded hwidth hn)

/-- Numbers are in the order of their quotients and remainders. -/
theorem div_mod_lt_iff {base m n : Nat} {rest : Prop} :
    (m / base < n / base ∨ m / base = n / base ∧
        (m % base < n % base ∨ m % base = n % base ∧ rest)) ↔
      m < n ∨ m = n ∧ rest := by
  have hm := Nat.div_add_mod m base
  have hn := Nat.div_add_mod n base
  rcases Nat.lt_trichotomy m n with hlt | rfl | hgt
  · have hle : m / base ≤ n / base := Nat.div_le_div_right hlt.le
    rcases Nat.lt_or_eq_of_le hle with hdiv | hdiv
    · simp [hdiv, hlt]
    · rw [hdiv] at hm
      have hmod : m % base < n % base := by omega
      simp [hdiv, hmod, hlt]
  · simp
  · have hle : n / base ≤ m / base := Nat.div_le_div_right hgt.le
    have hnot : ¬ m / base < n / base := by omega
    rcases Nat.lt_or_eq_of_le hle with hdiv | hdiv
    · simp [hnot, hdiv.ne', hgt.not_gt, hgt.ne']
    · rw [hdiv] at hn
      have hmod : n % base < m % base := by omega
      simp [hnot, hmod.not_gt, hmod.ne', hgt.not_gt, hgt.ne']

theorem date_le (at_ : Instant) :
    at_.parts.1.month ≤ 12 ∧ at_.parts.1.day ≤ 31 := by
  obtain ⟨⟨-, hmonth⟩, -, hday⟩ := Date.valid_iff.mp at_.valid_date
  refine ⟨hmonth, hday.trans ?_⟩
  unfold Clock.daysInMonth
  repeat' split
  all_goals omega

/-- With years of four digits the texts are in the order of time. -/
theorem renderMicros_lt_iff {at_ later : Instant} (hvalid : at_.Valid)
    (hlater : later.Valid) (hyear : at_.FourDigits)
    (hyears : later.FourDigits) :
    at_.renderMicros < later.renderMicros ↔ at_.MicrosBefore later := by
  have hsecond := hvalid.second_le
  have hsecond' := hlater.second_le
  have hclock := at_.clock_lt
  have hclock' := later.clock_lt
  have hdate := at_.date_le
  have hdate' := later.date_le
  have hdates := date_before_iff at_ later
  have hdates' := date_before_iff later at_
  rw [String.lt_iff, toList_renderMicros, toList_renderMicros,
    spells_append_lt_iff (spells_year hyear) (spells_year hyears)]
  simp (disch := omega) only [padded_append_lt_iff]
  simp only [Date.Before, FourDigits, MicrosBefore] at *
  have hnanos := hvalid.nanos_lt
  have hnanos' := hlater.nanos_lt
  have hseconds := at_.clock_eq
  have hseconds' := later.clock_eq
  rcases lt_trichotomy (at_.seconds / 86400) (later.seconds / 86400) with
    hlt | heq | hgt
  · have := hdates.mpr hlt
    omega
  -- On one day the hours, minutes and seconds are quotients and remainders of the
  -- clock, and a second 60 comes after all others of its minute.
  · have hsame : at_.parts.1 = later.parts.1 := by simp only [parts, heq]
    have hhour (clock : Nat) : clock / 3600 = clock / 60 / 60 := by omega
    simp only [hsame, lt_irrefl, true_and, false_or, hhour, div_mod_lt_iff,
      List.lt_irrefl, and_false, or_false]
    rcases hvalid.leap with ⟨hleap, hlow⟩ | ⟨hleap, hlast, hlow⟩ <;>
      rcases hlater.leap with ⟨hleap', hlow'⟩ | ⟨hleap', hlast', hlow'⟩ <;>
      rw [hleap, hleap', ← hlow, ← hlow'] <;> omega
  · have := hdates'.mpr hgt
    omega

end Workflow.Instant
