import Mathlib.Data.Int.Order.Basic
import Mathlib.Tactic.IntervalCases

/-!
# The proleptic Gregorian calendar

Dates are counted in days from 1970-01-01.  The count is made in years that start in March, so that the leap day is
the last day of its year; the inverse takes cycles of 400, 100, 4 and 1 years off the count.
-/

namespace Calendar

structure Date where
  year : Int
  month : Nat
  day : Nat
  deriving DecidableEq

def isLeap (year : Int) : Bool := year % 4 = 0 && (year % 100 ≠ 0 || year % 400 = 0)

def daysInMonth (year : Int) : Nat → Nat
  | 2 => if isLeap year then 29 else 28
  | 4 | 6 | 9 | 11 => 30
  | _ => 31

variable (year : Int)

theorem daysInMonth_le (month : Nat) : daysInMonth year month ≤ 31 := by
  unfold daysInMonth
  split <;> try split
  all_goals omega

namespace Date

/-- The date exists. -/
structure Valid (date : Date) : Prop where
  month_pos : 1 ≤ date.month
  month_le : date.month ≤ 12
  day_pos : 1 ≤ date.day
  day_le : date.day ≤ daysInMonth date.year date.month

instance (date : Date) : Decidable date.Valid :=
  decidable_of_iff (1 ≤ date.month ∧ date.month ≤ 12 ∧ 1 ≤ date.day ∧ date.day ≤ daysInMonth date.year date.month)
    ⟨fun h => ⟨h.1, h.2.1, h.2.2.1, h.2.2.2⟩, fun h => ⟨h.month_pos, h.month_le, h.day_pos, h.day_le⟩⟩

end Date

/-! ## Years that start in March -/

/-- The days before a year. -/
def yearStart (year : Int) : Int := 365 * year + year / 4 - year / 100 + year / 400

/-- The days of a year before a month, where March is month 0. -/
def monthStart (month : Nat) : Nat := (153 * month + 2) / 5

/-- The days from March 1 of the year 0 to the epoch. -/
def epoch : Int := 719468

/-- The days from the epoch to a date. -/
def toDays (date : Date) : Int :=
  if date.month ≤ 2 then yearStart (date.year - 1) + monthStart (date.month + 9) + date.day - 1 - epoch
  else yearStart date.year + monthStart (date.month - 3) + date.day - 1 - epoch

/-- A day of a year, and the year. -/
structure YearDay where
  year : Int
  day : Nat

/-- The year of a day, and the day in the year. -/
def yearDay (days : Int) : YearDay :=
  let era := days / 146097
  let dayOfEra := (days % 146097).toNat
  let century := min (dayOfEra / 36524) 3
  let dayOfCentury := dayOfEra - 36524 * century
  let leapCycle := dayOfCentury / 1461
  let dayOfCycle := dayOfCentury % 1461
  let yearOfCycle := min (dayOfCycle / 365) 3
  ⟨400 * era + 100 * century + 4 * leapCycle + yearOfCycle, dayOfCycle - 365 * yearOfCycle⟩

/-- The date of a day of a month which is counted from March. -/
def ofMarch (year : Int) (month day : Nat) : Date :=
  if month < 10 then ⟨year, month + 3, day⟩ else ⟨year + 1, month - 9, day⟩

/-- The date of a day. -/
def ofDays (days : Int) : Date :=
  let yearDay := yearDay (days + epoch)
  let month := (5 * yearDay.day + 2) / 153
  ofMarch yearDay.year month (yearDay.day - monthStart month + 1)

theorem yearStart_cycles {era century cycle year : Int} (hcentury : 0 ≤ century ∧ century ≤ 3)
    (hcycle : 0 ≤ cycle ∧ cycle ≤ 24) (hyear : 0 ≤ year ∧ year ≤ 3) :
    yearStart (400 * era + 100 * century + 4 * cycle + year) =
      146097 * era + 36524 * century + 1461 * cycle + 365 * year := by
  unfold yearStart
  omega

/-- The cycles of a year. -/
theorem exists_cycles : ∃ era century cycle rest : Int, (0 ≤ century ∧ century ≤ 3) ∧
    (0 ≤ cycle ∧ cycle ≤ 24) ∧ (0 ≤ rest ∧ rest ≤ 3) ∧ year = 400 * era + 100 * century + 4 * cycle + rest :=
  ⟨year / 400, year % 400 / 100, year % 100 / 4, year % 4, by omega, by omega, by omega, by omega⟩

theorem isLeap_cycles {era century cycle rest : Int} (hcentury : 0 ≤ century ∧ century ≤ 3)
    (hcycle : 0 ≤ cycle ∧ cycle ≤ 24) (hrest : 0 ≤ rest ∧ rest ≤ 3) :
    isLeap (400 * era + 100 * century + 4 * cycle + rest + 1) = true ↔
      rest = 3 ∧ (cycle = 24 → century = 3) := by
  simp only [isLeap, Bool.and_eq_true, Bool.or_eq_true, decide_eq_true_eq]
  omega

/-- A year has a leap day at its end if the next calendar year has one. -/
theorem yearStart_succ :
    yearStart (year + 1) = yearStart year + if isLeap (year + 1) then 366 else 365 := by
  obtain ⟨era, century, cycle, rest, hcentury, hcycle, hrest, rfl⟩ := exists_cycles year
  have hleap := @isLeap_cycles era century cycle rest hcentury hcycle hrest
  rw [yearStart_cycles hcentury hcycle hrest]
  by_cases hinner : rest < 3
  · rw [if_neg fun h => absurd (hleap.1 h).1 (by omega), Int.add_assoc, yearStart_cycles hcentury hcycle (by omega)]
    omega
  by_cases hcycles : cycle < 24
  · have hnext : 400 * era + 100 * century + 4 * cycle + rest + 1 = 400 * era + 100 * century + 4 * (cycle + 1) + 0 := by
      omega
    rw [if_pos (hleap.2 ⟨by omega, by omega⟩), hnext, yearStart_cycles hcentury (by omega) (by omega)]
    omega
  by_cases hcenturies : century < 3
  · have hnext : 400 * era + 100 * century + 4 * cycle + rest + 1 = 400 * era + 100 * (century + 1) + 4 * 0 + 0 := by
      omega
    rw [if_neg fun h => absurd ((hleap.1 h).2 (by omega)) (by omega), hnext,
      yearStart_cycles (by omega) (by omega) (by omega)]
    omega
  · have hnext : 400 * era + 100 * century + 4 * cycle + rest + 1 = 400 * (era + 1) + 100 * 0 + 4 * 0 + 0 := by
      omega
    rw [if_pos (hleap.2 ⟨by omega, by omega⟩), hnext, yearStart_cycles (by omega) (by omega) (by omega)]
    omega

theorem yearStart_mono {first second : Int} (h : first ≤ second) : yearStart first ≤ yearStart second := by
  unfold yearStart
  omega

/-- The year of a day is the only one that has the day. -/
theorem year_unique {first second : Int} {days : Int} (hfirst : yearStart first ≤ days ∧ days < yearStart (first + 1))
    (hsecond : yearStart second ≤ days ∧ days < yearStart (second + 1)) : first = second := by
  by_contra hne
  rcases Int.lt_or_gt_of_ne hne with hlt | hlt
  · have hmono := yearStart_mono (Int.add_one_le_iff.2 hlt)
    omega
  · have hmono := yearStart_mono (Int.add_one_le_iff.2 hlt)
    omega

/-- The cycles find the year of a day. -/
theorem yearDay_spec (days : Int) :
    yearStart (yearDay days).year + (yearDay days).day = days ∧ days < yearStart ((yearDay days).year + 1) := by
  unfold yearDay
  extract_lets era dayOfEra century dayOfCentury leapCycle dayOfCycle yearOfCycle
  have hcentury : (0 : Int) ≤ century ∧ (century : Int) ≤ 3 := by omega
  have hcycle : (0 : Int) ≤ leapCycle ∧ (leapCycle : Int) ≤ 24 := by omega
  have hyear : (0 : Int) ≤ yearOfCycle ∧ (yearOfCycle : Int) ≤ 3 := by omega
  have hstart := @yearStart_cycles era century leapCycle yearOfCycle hcentury hcycle hyear
  have hleap := @isLeap_cycles era century leapCycle yearOfCycle hcentury hcycle hyear
  dsimp only
  rw [yearStart_succ, hstart]
  refine ⟨by omega, ?_⟩
  split
  · omega
  · next h =>
      have hrule : ¬(yearOfCycle = 3 ∧ (leapCycle = 24 → century = 3)) := by
        rintro ⟨hlast, hfull⟩
        exact h (hleap.2 ⟨by omega, by omega⟩)
      by_cases hlast : yearOfCycle = 3
      · by_cases hfull : leapCycle = 24
        · omega
        · omega
      · omega

/-- The year of a day, and the day in it, are the only ones. -/
theorem yearDay_eq {days year : Int} {day : Nat} (hday : yearStart year + day = days)
    (hlast : days < yearStart (year + 1)) : yearDay days = ⟨year, day⟩ := by
  obtain ⟨hstart, hend⟩ := yearDay_spec days
  have hyear : (yearDay days).year = year := year_unique ⟨by omega, hend⟩ ⟨by omega, hlast⟩
  cases hsplit : yearDay days with
  | mk other count =>
    rw [hsplit] at hstart hyear
    dsimp only at hstart hyear
    subst hyear
    have hcount : count = day := by omega
    rw [hcount]

/-! ## Dates and days -/

/-- The days of a month which is counted from March. -/
def lengthOf (year : Int) (month : Nat) : Nat := daysInMonth (ofMarch year month 1).year (ofMarch year month 1).month

variable {month : Nat}

theorem toDays_ofMarch (hmonth : month ≤ 11) (day : Nat) :
    toDays (ofMarch year month day) = yearStart year + monthStart month + day - 1 - epoch := by
  unfold toDays ofMarch
  by_cases hlate : month < 10
  · simp [hlate]
  · have hcount : month - 9 + 9 = month := by omega
    have hsmall : month - 9 ≤ 2 := by omega
    simp [hlate, hcount, hsmall]

/-- Every date is one of a month which is counted from March. -/
theorem exists_ofMarch {date : Date} (h : date.Valid) : ∃ year month, month ≤ 11 ∧ date = ofMarch year month date.day ∧
    1 ≤ date.day ∧ date.day ≤ lengthOf year month := by
  obtain ⟨year, month, day⟩ := date
  obtain ⟨hmonth, hmonth', hday, hday'⟩ := h
  dsimp only at hmonth hmonth' hday hday' ⊢
  by_cases hlate : month ≤ 2
  · have hnot : ¬month + 9 < 10 := by omega
    have hdate : ofMarch (year - 1) (month + 9) = fun day => ⟨year, month, day⟩ := by
      funext day
      simp [ofMarch, hnot]
    refine ⟨year - 1, month + 9, by omega, by rw [hdate], hday, ?_⟩
    rw [lengthOf, hdate]
    exact hday'
  · have hearly : month - 3 < 10 := by omega
    have hcount : month - 3 + 3 = month := by omega
    have hdate : ofMarch year (month - 3) = fun day => ⟨year, month, day⟩ := by
      funext day
      simp [ofMarch, hearly, hcount]
    refine ⟨year, month - 3, by omega, by rw [hdate], hday, ?_⟩
    rw [lengthOf, hdate]
    exact hday'

theorem valid_ofMarch {year : Int} {day : Nat} (hmonth : month ≤ 11) (hday : 1 ≤ day)
    (hday' : day ≤ lengthOf year month) : (ofMarch year month day).Valid := by
  unfold lengthOf ofMarch at *
  by_cases hlate : month < 10
  · rw [if_pos hlate] at hday' ⊢
    exact ⟨by dsimp only; omega, by dsimp only; omega, hday, hday'⟩
  · rw [if_neg hlate] at hday' ⊢
    exact ⟨by dsimp only; omega, by dsimp only; omega, hday, hday'⟩

/-- The months fill the year. -/
theorem monthStart_add_lengthOf (hmonth : month ≤ 11) :
    (monthStart month + lengthOf year month : Int) =
      if month = 11 then yearStart (year + 1) - yearStart year else monthStart (month + 1) := by
  by_cases hlast : month = 11
  · subst hlast
    rw [if_pos rfl, yearStart_succ]
    have hlength : lengthOf year 11 = if isLeap (year + 1) then 29 else 28 := rfl
    rw [hlength, monthStart]
    split <;> omega
  · rw [if_neg hlast]
    have hbefore : month ≤ 10 := by omega
    interval_cases month <;> rfl

/-- The month of a day of the year. -/
theorem month_eq_iff {day : Nat} (hmonth : month ≤ 11) (hday : day ≤ 365) :
    (5 * day + 2) / 153 = month ↔ monthStart month ≤ day ∧ (month ≤ 10 → day < monthStart (month + 1)) := by
  unfold monthStart
  omega

/-- A day of a month is a day of its year. -/
theorem day_lt {year : Int} {month day : Nat} (hmonth : month ≤ 11) (hday' : day < lengthOf year month) :
    (monthStart month + day : Int) < yearStart (year + 1) - yearStart year ∧
      (month ≤ 10 → monthStart month + day < monthStart (month + 1)) := by
  have hfill := monthStart_add_lengthOf year hmonth
  have hyear := yearStart_succ year
  by_cases hlast : month = 11
  · rw [if_pos hlast] at hfill
    omega
  · rw [if_neg hlast] at hfill
    have hnext : monthStart (month + 1) ≤ 337 := by
      unfold monthStart
      omega
    split at hyear <;> omega

/-- A date has its year and its month in the count. -/
theorem ofDays_ofMarch {year : Int} {day : Nat} (hmonth : month ≤ 11) (hday : 1 ≤ day)
    (hday' : day ≤ lengthOf year month) :
    ofDays (yearStart year + monthStart month + day - 1 - epoch) = ofMarch year month day := by
  obtain ⟨hyear, hnext⟩ := @day_lt year month (day - 1) hmonth (by omega)
  have hlength : yearStart (year + 1) - yearStart year ≤ 366 := by
    rw [yearStart_succ]
    split <;> omega
  have hsplit : yearDay (yearStart year + monthStart month + day - 1 - epoch + epoch) =
      ⟨year, monthStart month + (day - 1)⟩ := yearDay_eq (by omega) (by omega)
  have hcount : (5 * (monthStart month + (day - 1)) + 2) / 153 = month :=
    (month_eq_iff hmonth (by omega)).2 ⟨by omega, hnext⟩
  have hrest : monthStart month + (day - 1) - monthStart month + 1 = day := by omega
  simp only [ofDays, hsplit, hcount, hrest]

theorem ofDays_toDays {date : Date} (h : date.Valid) : ofDays (toDays date) = date := by
  obtain ⟨year, month, hmonth, hdate, hday, hday'⟩ := exists_ofMarch h
  rw [hdate, toDays_ofMarch year hmonth, ofDays_ofMarch hmonth hday hday']

/-- The date of a day, as a date of a month which is counted from March. -/
theorem exists_ofDays (days : Int) : ∃ year month day, month ≤ 11 ∧ day < lengthOf year month ∧
    ofDays days = ofMarch year month (day + 1) ∧ yearStart year + monthStart month + day = days + epoch := by
  obtain ⟨hstart, hend⟩ := yearDay_spec (days + epoch)
  have hyear := yearStart_succ (yearDay (days + epoch)).year
  have hday : (yearDay (days + epoch)).day ≤ 365 := by
    split at hyear <;> omega
  have hmonth : (5 * (yearDay (days + epoch)).day + 2) / 153 ≤ 11 := by omega
  obtain ⟨hbefore, hafter⟩ := (month_eq_iff hmonth hday).1 rfl
  have hfill := monthStart_add_lengthOf (yearDay (days + epoch)).year hmonth
  refine ⟨_, _, (yearDay (days + epoch)).day - monthStart ((5 * (yearDay (days + epoch)).day + 2) / 153), hmonth, ?_,
    rfl, by omega⟩
  split at hfill
  · omega
  · next hlast =>
      have hnext := hafter (by omega)
      omega

theorem toDays_ofDays (days : Int) : toDays (ofDays days) = days := by
  obtain ⟨year, month, day, hmonth, -, hdate, hcount⟩ := exists_ofDays days
  rw [hdate, toDays_ofMarch year hmonth]
  omega

theorem valid_ofDays (days : Int) : (ofDays days).Valid := by
  obtain ⟨year, month, day, hmonth, hday, hdate, -⟩ := exists_ofDays days
  rw [hdate]
  exact valid_ofMarch hmonth (by omega) hday

/-- The year of a day, in years of 365 days. -/
theorem year_bounds (days : Int) {low high : Int} (hlow : yearStart low ≤ days + epoch)
    (hhigh : days + epoch < yearStart high) : low ≤ (ofDays days).year ∧ (ofDays days).year ≤ high := by
  obtain ⟨year, month, day, hmonth, hday, hdate, hcount⟩ := exists_ofDays days
  have hafter : low ≤ year := by
    by_contra hbefore
    have hmono := @yearStart_mono (year + 1) low (by omega)
    have hin := (day_lt hmonth hday).1
    omega
  have hbefore : year < high := by
    by_contra hafter
    have hmono := @yearStart_mono high year (by omega)
    omega
  rw [hdate, ofMarch]
  split <;> dsimp only <;> omega

example : toDays ⟨1970, 1, 1⟩ = 0 := by decide

end Calendar
