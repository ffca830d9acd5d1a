import Mathlib.Order.Nat
import Mathlib.Tactic.IntervalCases
import Workflow.Clock.Calendar

/-!
# Dates and days

Days and dates are two names for the same thing, in the same order: every
number of days is that of a date (`toDays_ofDays`) which exists
(`valid_ofDays`), and of two days the earlier one has the earlier date
(`before_ofDays_iff`).

The calendar repeats after 400 years that start in March, which are 4
centuries of 24 or 25 cycles of four years; the years of an era follow from
this, and the months of a year from the lengths 31, 30, 31, 30, 31.
-/

namespace Workflow.Clock

/-- Days from 1 March of the year 0 to 1 March of a year. -/
def daysBeforeMarch (year : Int) : Int :=
  365 * year + year / 4 - year / 100 + year / 400

/-- The days of a year before a date, where the year starts in March. -/
def dayFromMarch (month day : Nat) : Nat :=
  (153 * ((month + 9) % 12) + 2) / 5 + day - 1

/-! ## Years -/

theorem daysBeforeMarch_mono {year later : Int} (hle : year ≤ later) :
    daysBeforeMarch year ≤ daysBeforeMarch later := by
  unfold daysBeforeMarch
  omega

/-- A year that starts in March ends with the February of the next year. -/
theorem daysBeforeMarch_succ (year : Int) :
    daysBeforeMarch (year + 1) =
      daysBeforeMarch year + if leapYear (year + 1) then 366 else 365 := by
  unfold daysBeforeMarch leapYear
  split <;> simp at * <;> omega

/-- An era as centuries, cycles of four years, years and days. -/
structure Cycles (dayOfEra century cycle year day : Int) : Prop where
  sum : dayOfEra = 36524 * century + 1461 * cycle + 365 * year + day
  century_le : 0 ≤ century ∧ century ≤ 3
  cycle_le : 0 ≤ cycle ∧ cycle ≤ 24
  year_le : 0 ≤ year ∧ year ≤ 3
  day_nonneg : 0 ≤ day
  /-- Only a leap year has a day more. -/
  day_le : day < 365 ∨ day = 365 ∧ year = 3 ∧ (cycle < 24 ∨ century = 3)

theorem exists_cycles {dayOfEra : Int} (hlow : 0 ≤ dayOfEra)
    (hhigh : dayOfEra < 146097) :
    ∃ century cycle year day, Cycles dayOfEra century cycle year day := by
  let century := min (dayOfEra / 36524) 3
  let inCentury := dayOfEra - 36524 * century
  let inCycle := inCentury % 1461
  let year := min (inCycle / 365) 3
  refine ⟨century, inCentury / 1461, year, inCycle - 365 * year, ?_⟩
  constructor <;> omega

namespace Cycles

variable {dayOfEra century cycle year day : Int}

/-- The year that the days of an era lead to. -/
theorem yearOfEra_eq (hcycles : Cycles dayOfEra century cycle year day) :
    (dayOfEra - dayOfEra / 1460 + dayOfEra / 36524 - dayOfEra / 146096) / 365 =
      100 * century + 4 * cycle + year := by
  obtain ⟨hsum, hcentury, hcycle, hyear, hnonneg, hday⟩ := hcycles
  -- The last day of an era is the only one that the century lengths miss.
  have hlast : 1461 * cycle + 365 * year + day < 36524 ∨
      1461 * cycle + 365 * year + day = 36524 ∧ century = 3 := by
    rcases hday with hday | ⟨rfl, rfl, hday | hday⟩ <;> omega
  have hcenturies : dayOfEra / 36524 - dayOfEra / 146096 = century := by
    rcases hlast with hlast | ⟨hlast, rfl⟩
    · have : dayOfEra / 36524 = century := by omega
      omega
    · omega
  have hleapDays : dayOfEra / 1460 =
      25 * century + cycle +
        (24 * century + cycle + 365 * year + day) / 1460 := by
    omega
  omega

/-- The day of the year that the days of an era lead to. -/
theorem dayOfYear_eq (hcycles : Cycles dayOfEra century cycle year day) :
    let yearOfEra := 100 * century + 4 * cycle + year
    dayOfEra - (365 * yearOfEra + yearOfEra / 4 - yearOfEra / 100) = day := by
  obtain ⟨hsum, hcentury, hcycle, hyear, -, -⟩ := hcycles
  dsimp only
  omega

/-- The eras and the years of an era before a day. -/
theorem daysBeforeMarch_eq (hcycles : Cycles dayOfEra century cycle year day)
    (era : Int) :
    daysBeforeMarch (100 * century + 4 * cycle + year + era * 400) + day =
      era * 146097 + dayOfEra := by
  obtain ⟨hsum, hcentury, hcycle, hyear, -, -⟩ := hcycles
  unfold daysBeforeMarch
  omega

/-- The day lies in its year. -/
theorem day_lt (hcycles : Cycles dayOfEra century cycle year day)
    (era : Int) :
    let marchYear := 100 * century + 4 * cycle + year + era * 400
    day < if leapYear (marchYear + 1) then 366 else 365 := by
  obtain ⟨-, hcentury, hcycle, hyear, -, hday⟩ := hcycles
  dsimp only
  rcases hday with hday | ⟨rfl, rfl, hleap⟩
  · split <;> omega
  · have hleapYear :
        leapYear (100 * century + 4 * cycle + 3 + era * 400 + 1) = true := by
      unfold leapYear
      simp
      omega
    rw [if_pos hleapYear]
    omega

end Cycles

/-! ## Months -/

/-- The date of a day of a year that starts in March. -/
def Date.ofMarch (year : Int) (dayOfYear : Nat) : Date :=
  let monthFromMarch := (5 * dayOfYear + 2) / 153
  let month :=
    if monthFromMarch < 10 then monthFromMarch + 3 else monthFromMarch - 9
  ⟨if month ≤ 2 then year + 1 else year, month,
    dayOfYear - (153 * monthFromMarch + 2) / 5 + 1⟩

/-- Every number of days leads to a year and a day of it. -/
theorem Date.exists_ofMarch (days : Int) :
    ∃ (year : Int) (dayOfYear : Nat),
      Date.ofDays days = Date.ofMarch year dayOfYear ∧
        days + 719468 = daysBeforeMarch year + dayOfYear ∧
        dayOfYear < if leapYear (year + 1) then 366 else 365 := by
  obtain ⟨century, cycle, year, day, hcycles⟩ :=
    exists_cycles (show 0 ≤ (days + 719468) % 146097 by omega) (by omega)
  obtain ⟨dayOfYear, rfl⟩ := Int.eq_ofNat_of_zero_le hcycles.day_nonneg
  let era := (days + 719468) / 146097
  have hsum := hcycles.daysBeforeMarch_eq era
  have hlt := hcycles.day_lt era
  refine ⟨100 * century + 4 * cycle + year + era * 400, dayOfYear, ?_,
    by omega, ?_⟩
  · simp only [ofDays, ofMarch, hcycles.yearOfEra_eq, hcycles.dayOfYear_eq,
      Date.mk.injEq]
    have hmonth : ((5 * dayOfYear + 2) / 153 : Int) =
        ((5 * dayOfYear + 2) / 153 : Nat) := by omega
    rw [hmonth]
    generalize hmonths : (5 * dayOfYear + 2) / 153 = months
    repeat' split
    all_goals omega
  · dsimp only at hlt
    split at hlt <;> split <;> omega

namespace Date

variable {date other : Date}

theorem valid_iff :
    date.valid = true ↔
      (1 ≤ date.month ∧ date.month ≤ 12) ∧
        1 ≤ date.day ∧ date.day ≤ daysInMonth date.year date.month := by
  simp [valid, and_assoc]

/-- The year of a date where the years start in March. -/
def marchYear (date : Date) : Int :=
  if date.month ≤ 2 then date.year - 1 else date.year

theorem toDays_eq (date : Date) :
    date.toDays =
      daysBeforeMarch date.marchYear + dayFromMarch date.month date.day -
        719468 := by
  simp only [toDays, daysBeforeMarch, dayFromMarch, marchYear]
  omega

theorem valid_ofMarch {year : Int} {dayOfYear : Nat}
    (hlt : dayOfYear < if leapYear (year + 1) then 366 else 365) :
    (ofMarch year dayOfYear).valid = true := by
  have hmonth : (5 * dayOfYear + 2) / 153 ≤ 11 := by split at hlt <;> omega
  rw [valid_iff]
  unfold ofMarch daysInMonth
  dsimp only
  generalize hm : (5 * dayOfYear + 2) / 153 = m at hmonth ⊢
  -- Each of the twelve months has its own length, the last one that of February.
  interval_cases m <;> simp <;> split at hlt <;> simp_all <;> omega

theorem toDays_ofMarch {year : Int} {dayOfYear : Nat}
    (hle : dayOfYear < 366) :
    (ofMarch year dayOfYear).toDays =
      daysBeforeMarch year + dayOfYear - 719468 := by
  rw [toDays_eq]
  unfold marchYear dayFromMarch ofMarch
  dsimp only
  have hmonth : (5 * dayOfYear + 2) / 153 ≤ 11 := by omega
  generalize hm : (5 * dayOfYear + 2) / 153 = m at hmonth ⊢
  interval_cases m <;>
    simp only [Nat.reduceLT, Nat.reduceLeDiff, ↓reduceIte, Nat.reduceAdd, Nat.reduceSub,
      Int.add_sub_cancel] <;>
    omega

theorem valid_ofDays (days : Int) : (ofDays days).valid = true := by
  obtain ⟨year, dayOfYear, heq, -, hlt⟩ := exists_ofMarch days
  rw [heq]
  exact valid_ofMarch hlt

theorem toDays_ofDays (days : Int) : (ofDays days).toDays = days := by
  obtain ⟨year, dayOfYear, heq, hsum, hlt⟩ := exists_ofMarch days
  have hle : dayOfYear < 366 := by split at hlt <;> omega
  rw [heq, toDays_ofMarch hle]
  omega

/-! ## The order of dates -/

/-- One date comes before another. -/
def Before (date later : Date) : Prop :=
  date.year < later.year ∨ date.year = later.year ∧
    (date.month < later.month ∨
      date.month = later.month ∧ date.day < later.day)

/-- A month ends where the next one starts. -/
theorem toDays_first_succ {year : Int} {month : Nat}
    (hmonth : 1 ≤ month ∧ month < 12) :
    (⟨year, month + 1, 1⟩ : Date).toDays =
      (⟨year, month, 1⟩ : Date).toDays + daysInMonth year month := by
  obtain ⟨hlow, hhigh⟩ := hmonth
  have hyear := daysBeforeMarch_succ (year - 1)
  rw [Int.sub_add_cancel] at hyear
  rw [toDays_eq, toDays_eq]
  unfold marchYear dayFromMarch daysInMonth
  interval_cases month <;> simp <;> (try split at hyear) <;> simp_all <;>
    omega

/-- A month ends before a later one of the year starts. -/
theorem toDays_first_of_lt (year : Int) {month later : Nat}
    (hmonth : 1 ≤ month) (hlt : month < later) (hlater : later ≤ 12) :
    (⟨year, month, 1⟩ : Date).toDays + daysInMonth year month ≤
      (⟨year, later, 1⟩ : Date).toDays := by
  induction later, hlt using Nat.le_induction with
  | base => exact (toDays_first_succ ⟨hmonth, by omega⟩).ge
  | succ later hlt ih =>
      rw [toDays_first_succ ⟨by omega, by omega⟩]
      have := ih (by omega)
      omega

/-- A year ends before a later one starts. -/
theorem toDays_december_lt {year later : Int} (hlt : year < later) :
    (⟨year, 12, 31⟩ : Date).toDays < (⟨later, 1, 1⟩ : Date).toDays := by
  have hmono : daysBeforeMarch year ≤ daysBeforeMarch (later - 1) :=
    daysBeforeMarch_mono (by omega)
  rw [toDays_eq, toDays_eq]
  simp [marchYear, dayFromMarch]
  omega

/-- The days of a month follow its first one. -/
theorem toDays_eq_first (hvalid : date.valid = true) :
    date.toDays + 1 = (⟨date.year, date.month, 1⟩ : Date).toDays + date.day := by
  obtain ⟨-, hday, -⟩ := valid_iff.mp hvalid
  rw [toDays_eq, toDays_eq]
  simp only [marchYear, dayFromMarch]
  omega

/-- A month starts no earlier than the months before it. -/
theorem toDays_first_le (year : Int) {month later : Nat}
    (hmonth : 1 ≤ month) (hle : month ≤ later) (hlater : later ≤ 12) :
    (⟨year, month, 1⟩ : Date).toDays ≤ (⟨year, later, 1⟩ : Date).toDays := by
  rcases Nat.lt_or_eq_of_le hle with hlt | rfl
  · have := toDays_first_of_lt year hmonth hlt hlater
    omega
  · exact le_refl _

/-- A date lies between the first and the last of its year. -/
theorem toDays_within_year (hvalid : date.valid = true) :
    (⟨date.year, 1, 1⟩ : Date).toDays ≤ date.toDays ∧
      date.toDays ≤ (⟨date.year, 12, 31⟩ : Date).toDays := by
  have hdate := toDays_eq_first hvalid
  obtain ⟨⟨hlow, hhigh⟩, hday, hlast⟩ := valid_iff.mp hvalid
  have hfirst := toDays_first_le date.year le_rfl hlow hhigh
  have hdecember :
      (⟨date.year, 12, 31⟩ : Date).toDays + 1 =
        (⟨date.year, 12, 1⟩ : Date).toDays + 31 :=
    toDays_eq_first (by rfl)
  refine ⟨by omega, ?_⟩
  rcases Nat.lt_or_eq_of_le hhigh with hlt | heq
  · have := toDays_first_of_lt date.year hlow hlt le_rfl
    omega
  · rw [heq] at hdate
    have : daysInMonth date.year date.month = 31 := by rw [heq]; rfl
    omega

theorem toDays_lt_toDays (hvalid : date.valid = true)
    (hother : other.valid = true) (hbefore : date.Before other) :
    date.toDays < other.toDays := by
  have hdate := toDays_eq_first hvalid
  have hlater := toDays_eq_first hother
  obtain ⟨⟨hlow, hhigh⟩, hday, hlast⟩ := valid_iff.mp hvalid
  obtain ⟨⟨hlow', hhigh'⟩, hday', hlast'⟩ := valid_iff.mp hother
  rcases hbefore with hyear | ⟨hyear, hmonth | ⟨hmonth, hlt⟩⟩
  · have hdecember := toDays_december_lt hyear
    have hupper := (toDays_within_year hvalid).2
    have hlower := (toDays_within_year hother).1
    omega
  · have hmonths := toDays_first_of_lt date.year hlow hmonth hhigh'
    rw [hyear] at hmonths hdate hlast
    omega
  · rw [hyear, hmonth] at hdate
    omega

theorem before_trichotomy (date other : Date) :
    date.Before other ∨ date = other ∨ other.Before date := by
  obtain ⟨year, month, day⟩ := date
  obtain ⟨year', month', day'⟩ := other
  simp only [Before, Date.mk.injEq]
  omega

/-- Days and their dates are in the same order. -/
theorem before_ofDays_iff {days later : Int} :
    (ofDays days).Before (ofDays later) ↔ days < later := by
  have hlt {a b : Int} (hbefore : (ofDays a).Before (ofDays b)) : a < b := by
    simpa only [toDays_ofDays] using
      toDays_lt_toDays (valid_ofDays a) (valid_ofDays b) hbefore
  refine ⟨hlt, fun h => ?_⟩
  rcases before_trichotomy (ofDays days) (ofDays later) with
    hbefore | heq | hbefore
  · exact hbefore
  · have := congrArg toDays heq
    rw [toDays_ofDays, toDays_ofDays] at this
    omega
  · have := hlt hbefore
    omega

end Date

end Workflow.Clock
