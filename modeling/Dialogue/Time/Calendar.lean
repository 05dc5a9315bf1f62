/-! # The Gregorian calendar

    Days are counted from 1 January 1970, through the calendar extended to all years. Years begin in
    March inside this module, so that a leap day is the last day of its year: 400 years have 146097
    days, the first three centuries of them 36524 each, four years 1461 but for a last group that
    may lack its leap day. -/

namespace Dialogue.Time

/-- A day of the Gregorian calendar, which goes back before its introduction. -/
structure Date where
  year : Int
  month : Nat
  day : Nat
  deriving DecidableEq, Repr

namespace Date

/-- The year has a twenty-ninth of February. -/
def isLeap (year : Int) : Bool := year % 4 = 0 && (year % 100 ≠ 0 || year % 400 = 0)

/-- How long a month is. -/
def daysInMonth (year : Int) (month : Nat) : Nat :=
  if month = 2 then if isLeap year then 29 else 28
  else if month = 4 ∨ month = 6 ∨ month = 9 ∨ month = 11 then 30
  else 31

/-- There is such a month and it has such a day. -/
def IsValid (d : Date) : Prop :=
  1 ≤ d.month ∧ d.month ≤ 12 ∧ 1 ≤ d.day ∧ d.day ≤ daysInMonth d.year d.month

instance (d : Date) : Decidable d.IsValid := by unfold IsValid; infer_instance

/-! ### Years and months from March -/

/-- Days before 1 March of the year `y`, from 1 March of the year 0 on. -/
def yearStart (y : Int) : Int := 365 * y + y / 4 - y / 100 + y / 400

/-- The year a day falls in. -/
def yearOf (n : Int) : Int :=
  let inCycle := n % 146097
  let centuries := min (inCycle / 36524) 3
  let inCentury := inCycle - 36524 * centuries
  let years := min (inCentury % 1461 / 365) 3
  400 * (n / 146097) + 100 * centuries + 4 * (inCentury / 1461) + years

/-- Days before the month `m` in a year, March being 0. -/
def monthStart (m : Int) : Int := (153 * m + 2) / 5

/-- The month that a day of the year falls in. -/
def monthOf (day : Int) : Int := (5 * day + 2) / 153

theorem monthStart_monthOf_le (d : Int) : monthStart (monthOf d) ≤ d := by
  simp only [monthStart, monthOf]
  omega

/-! ### Dates and days -/

/-- Days from 1 March of the year 0 to 1 January 1970. -/
def epoch : Int := 719468

/-- Days since 1 January 1970. -/
def toDays (d : Date) : Int :=
  if d.month ≤ 2 then yearStart (d.year - 1) + monthStart (d.month + 9) + (d.day - 1) - epoch
  else yearStart d.year + monthStart (d.month - 3) + (d.day - 1) - epoch

/-- The date that is `n` days after the first of January 1970. -/
def ofDays (n : Int) : Date :=
  let n := n + epoch
  let y := yearOf n
  let inYear := n - yearStart y
  let m := monthOf inYear
  let day := (inYear - monthStart m + 1).toNat
  if m < 10 then ⟨y, (m + 3).toNat, day⟩ else ⟨y + 1, (m - 9).toNat, day⟩

end Date
end Dialogue.Time
