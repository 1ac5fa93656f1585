import Cron.Calendar.Date
import Cron.Field
import Cron.Text

/-! # Instants

An instant is a date with a time of day, down to the nanosecond, and with no time zone.
A second may run on for one more, as a leap second does; this is not kept to those seconds
that ever did.

Schedules know whole minutes only: `startOfMinute` drops what is finer, `nextMinute?`
steps a minute ahead, and `minuteNumber` numbers the minutes without a gap.

Years 0 to 9999 are written with four digits.  The others carry a sign, and have at least
four digits after it.
-/
namespace Cron.Calendar

/-- Whether four numbers make up a time of day. -/
def Instant.Valid (hour minute second nanosecond : Nat) : Prop :=
  hour < 24 ∧ minute < 60 ∧ second < 60 ∧ nanosecond < 2000000000

instance (h m s n : Nat) : Decidable (Instant.Valid h m s n) := by
  unfold Instant.Valid; infer_instance

/-- A date with a time of day. -/
structure Instant where
  date : Date
  hour : Nat
  minute : Nat
  second : Nat
  nanosecond : Nat
  valid : Instant.Valid hour minute second nanosecond
  deriving DecidableEq

namespace Instant

/-- The instant of a date with the given time of day, if a clock shows such a time: only the
last second of a minute is shown to run on. -/
def ofClock? (date : Date) (hour minute second nanosecond : Nat) : Option Instant :=
  if h : Valid hour minute second nanosecond ∧ (second = 59 ∨ nanosecond < 1000000000) then
    some ⟨date, hour, minute, second, nanosecond, h.1⟩
  else none

/-- The instant at which the minute of the given instant begins. -/
def startOfMinute (t : Instant) : Instant :=
  ⟨t.date, t.hour, t.minute, 0, 0, by have := t.valid; unfold Valid at *; omega⟩

/-- The nanoseconds of the second, counted anew where the second runs on. -/
def fraction (t : Instant) : Nat := t.nanosecond % 1000000000

/-- The instant a minute later, if the calendar has not ended.  Seconds and fractions of a
second stay as they are, but the new second does not run on. -/
def nextMinute? (t : Instant) : Option Instant :=
  have h := t.valid
  have hf : t.fraction < 1000000000 := Nat.mod_lt _ (by decide)
  if hm : t.minute < 59 then
    some ⟨t.date, t.hour, t.minute + 1, t.second, t.fraction, by unfold Valid at *; omega⟩
  else if hh : t.hour < 23 then
    some ⟨t.date, t.hour + 1, 0, t.second, t.fraction, by unfold Valid at *; omega⟩
  else
    t.date.next?.map (fun d => ⟨d, 0, 0, t.second, t.fraction, by unfold Valid at *; omega⟩)

/-- The number of the minute, counted from the beginning of the day before year 1. -/
def minuteNumber (t : Instant) : Int :=
  (t.date.dayNumber * 24 + t.hour) * 60 + t.minute

/-- What a field of a schedule looks at. -/
def value (t : Instant) : Field → UInt32
  | .minute => t.minute.toUInt32
  | .hour => t.hour.toUInt32
  | .dayOfMonth => t.date.day.toUInt32
  | .month => t.date.month.toUInt32
  | .dayOfWeek => t.date.weekday.toUInt32

end Instant

/-! ## Texts -/

/-- The text of a year. -/
def yearText (y : Int) : List Char :=
  if 0 ≤ y ∧ y ≤ 9999 then Numeral.padded 4 y.toNat
  else (if y < 0 then '-' else '+') :: Numeral.padded 4 y.natAbs

/-- The text of a date, year first. -/
def Date.text (t : Date) : List Char :=
  yearText t.year ++ '-' :: Numeral.padded 2 t.month ++ '-' :: Numeral.padded 2 t.day

/-- The short name of a day of the week, counted from Sunday. -/
def weekdayName : Nat → String
  | 0 => "Sun"
  | 1 => "Mon"
  | 2 => "Tue"
  | 3 => "Wed"
  | 4 => "Thu"
  | 5 => "Fri"
  | _ => "Sat"

namespace Instant

/-- Hour and minute, with a colon between them. -/
def clockText (t : Instant) : List Char :=
  Numeral.padded 2 t.hour ++ ':' :: Numeral.padded 2 t.minute

/-- The text by which data holds an instant, such as `2026-02-02T14:30:00`. -/
def text (t : Instant) : String :=
  .ofList (t.date.text ++ 'T' :: t.clockText ++ ':' :: Numeral.padded 2 t.second)

/-- The text that a reader is shown, such as `2026-02-02 14:30 (Mon)`. -/
def display (t : Instant) : String :=
  .ofList (t.date.text ++ ' ' :: t.clockText) ++ " (" ++ weekdayName t.date.weekday ++ ")"

end Instant

end Cron.Calendar
