/-! # Dates

Dates of the Gregorian calendar, carried backwards and forwards over all the years from
`firstYear` to `lastYear`; year 0 exists and comes before year 1.  A date that does not
exist cannot be written down: its proof of `Date.Valid` would be missing.

`Date.dayNumber` numbers the days without a gap, and week days follow from it alone.
-/
namespace Cron.Calendar

/-- The first year of the calendar. -/
def firstYear : Int := -262143

/-- The last year of the calendar. -/
def lastYear : Int := 262142

/-- Whether February has 29 days in the year. -/
def isLeap (y : Int) : Bool := y % 4 == 0 && (y % 100 != 0 || y % 400 == 0)

/-- The number of days of a month, January being month 1. -/
def monthLength (y : Int) : Nat → Nat
  | 2 => if isLeap y then 29 else 28
  | 4 | 6 | 9 | 11 => 30
  | _ => 31

/-- Whether a year, a month and a day make up a date of the calendar. -/
def Date.Valid (y : Int) (m d : Nat) : Prop :=
  firstYear ≤ y ∧ y ≤ lastYear ∧ 1 ≤ m ∧ m ≤ 12 ∧ 1 ≤ d ∧ d ≤ monthLength y m

instance (y : Int) (m d : Nat) : Decidable (Date.Valid y m d) := by
  unfold Date.Valid; infer_instance

/-- A date of the calendar. -/
structure Date where
  year : Int
  month : Nat
  day : Nat
  valid : Date.Valid year month day
  deriving DecidableEq

theorem monthLength_ge (y : Int) (m : Nat) : 28 ≤ monthLength y m := by
  unfold monthLength; split <;> (try split) <;> omega

namespace Date

/-- The date with the given year, month and day, if it exists. -/
def ofCivil? (y : Int) (m d : Nat) : Option Date :=
  if h : Valid y m d then some ⟨y, m, d, h⟩ else none

/-- The day after, if the calendar has not ended. -/
def next? (t : Date) : Option Date :=
  have h := t.valid
  if hd : t.day < monthLength t.year t.month then
    some ⟨t.year, t.month, t.day + 1, by unfold Valid at *; omega⟩
  else if hm : t.month < 12 then
    some ⟨t.year, t.month + 1, 1, by
      have := monthLength_ge t.year (t.month + 1); unfold Valid at *; omega⟩
  else if hy : t.year < lastYear then
    some ⟨t.year + 1, 1, 1, by
      have := monthLength_ge (t.year + 1) 1; unfold Valid at *; omega⟩
  else none

end Date

/-- The number of days from the first day of year 1 to the first day of the year; it is
negative before year 1. -/
def daysBeforeYear (y : Int) : Int :=
  365 * (y - 1) + (y - 1) / 4 - (y - 1) / 100 + (y - 1) / 400

/-- The number of days of the year before the given month. -/
def daysBeforeMonth (y : Int) : Nat → Nat
  | 0 => 0
  | 1 => 0
  | m + 1 => daysBeforeMonth y m + monthLength y m

namespace Date

/-- The number of the day, counted from the first day of year 1, which is day 1. -/
def dayNumber (t : Date) : Int :=
  daysBeforeYear t.year + daysBeforeMonth t.year t.month + t.day

/-- The day of the week, counted from Sunday, which is 0. -/
def weekday (t : Date) : Nat := (t.dayNumber % 7).toNat

end Date
end Cron.Calendar
