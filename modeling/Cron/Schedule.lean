import Cron.Calendar.Instant
import Cron.Expression

/-! # Schedules

An instant is a run of an expression if each of the five fields holds of it; the two
fields about days are no exception, both have to hold.

There are two ways to decide this.  `Expression.runsAt` works on the raw texts and knows
no bounds, so it also answers for expressions with faults.  A `Schedule` is an expression
whose five texts were read once, within the bounds of their fields.
-/
namespace Cron

open Calendar (Instant)

/-- Whether the instant satisfies the raw texts of all five fields. -/
def Expression.runsAt (e : Expression) (t : Instant) : Bool :=
  Field.all.all (fun f => f.textHolds (e.get f) (t.value f))

/-- The patterns of the five fields. -/
structure Schedule where
  minute : Pattern
  hour : Pattern
  dayOfMonth : Pattern
  month : Pattern
  dayOfWeek : Pattern
  /-- Whether Sundays run besides what the pattern of the week days says. -/
  alsoSunday : Bool
  deriving DecidableEq, Repr

namespace Schedule

/-- Reads the text of one field of an expression. -/
def readField (e : Expression) (f : Field) : Except Expression.Fault Pattern :=
  (f.read (e.get f)).mapError (.field f)

/-- Reads the five texts of an expression; the first fault counts.  The text `7` of the
week days adds the Sundays, whose number is 0. -/
def ofExpression (e : Expression) : Except Expression.Fault Schedule := do
  let minute ← readField e .minute
  let hour ← readField e .hour
  let dayOfMonth ← readField e .dayOfMonth
  let month ← readField e .month
  let dayOfWeek ← readField e .dayOfWeek
  return ⟨minute, hour, dayOfMonth, month, dayOfWeek, e.dayOfWeek == "7"⟩

/-- Reads a line. -/
def ofLine (line : String) : Except Expression.Fault Schedule := do
  ofExpression (← Expression.ofLine line)

/-- The pattern of one field. -/
def pattern (s : Schedule) : Field → Pattern
  | .minute => s.minute
  | .hour => s.hour
  | .dayOfMonth => s.dayOfMonth
  | .month => s.month
  | .dayOfWeek => s.dayOfWeek

/-- Whether the instant is a run of the schedule. -/
def runsAt (s : Schedule) (t : Instant) : Bool :=
  let weekday := t.date.weekday.toUInt32
  s.minute.holds t.minute.toUInt32 && s.hour.holds t.hour.toUInt32 &&
    s.dayOfMonth.holds t.date.day.toUInt32 && s.month.holds t.date.month.toUInt32 &&
    (s.dayOfWeek.holds weekday || (weekday == 0 && s.alsoSunday))

end Schedule
end Cron
