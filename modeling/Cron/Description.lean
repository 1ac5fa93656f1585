import Cron.Expression

/-! # Descriptions

A *preset* is a well-known schedule with a name and a description of its own.

A line without faults is told in plain English.  If it is the line of a preset, to the
letter, the preset's own description is taken; otherwise each field that restricts
anything adds a phrase.  A line whose minute is `*` is told as `Every minute`, whatever
its other fields say, and a line with a fault has one description for all faults.
-/
namespace Cron

/-! ## Presets -/

/-- A well-known schedule. -/
structure Preset where
  name : String
  expression : String
  description : String
  deriving DecidableEq, Repr

namespace Preset

/-- All presets, in the order in which they are shown. -/
def all : List Preset := [
  ⟨"Every minute", "* * * * *", "Runs every minute"⟩,
  ⟨"Every 5 minutes", "*/5 * * * *", "Runs every 5 minutes"⟩,
  ⟨"Every 15 minutes", "*/15 * * * *", "Runs every 15 minutes"⟩,
  ⟨"Every 30 minutes", "*/30 * * * *", "Runs every 30 minutes"⟩,
  ⟨"Every hour", "0 * * * *", "Runs at minute 0 of every hour"⟩,
  ⟨"Every 6 hours", "0 */6 * * *", "Runs at minute 0 every 6 hours"⟩,
  ⟨"Every day at midnight", "0 0 * * *", "Runs at 00:00 every day"⟩,
  ⟨"Every day at noon", "0 12 * * *", "Runs at 12:00 every day"⟩,
  ⟨"Every Sunday at midnight", "0 0 * * 0", "Runs at 00:00 every Sunday"⟩,
  ⟨"Every Monday at 9 AM", "0 9 * * 1", "Runs at 09:00 every Monday"⟩,
  ⟨"First day of month", "0 0 1 * *", "Runs at 00:00 on day 1 of every month"⟩,
  ⟨"Every weekday at 8 AM", "0 8 * * 1-5", "Runs at 08:00 Monday-Friday"⟩]

/-- The preset whose expression is exactly the given line. -/
def find? (line : String) : Option Preset := all.find? (fun p => p.expression == line)

end Preset

/-! ## Phrases -/

namespace Description

/-- What is said of a line with a fault. -/
def ofFaulty : String := "Invalid cron expression"

/-- What follows the mark `*/` with which a text begins. -/
def stride? : List Char → Option (List Char)
  | '*' :: '/' :: n => some n
  | _ => none

/-- Whether a count asks for the plural: it is a number above one that fits in 32 bits. -/
def isPlural (count : List Char) : Bool :=
  (Numeral.unsigned? (Text.trim count)).any (fun n => 1 < n && n < 4294967296)

/-- A count as it was written, with its unit in the singular or the plural. -/
def counted (count : List Char) (unit : String) : String :=
  .ofList count ++ " " ++ unit ++ (if isPlural count then "s" else "")

/-- The phrase of the hour. -/
def hourPhrase (text : String) : String :=
  if text = "*" then " of every hour"
  else
    match stride? text.toList with
    | some n => " every " ++ counted n "hour"
    | none => " past hour " ++ text

/-- The phrase of the day of the month: a list or a range asks for the plural. -/
def dayPhrase (text : String) : String :=
  if text = "*" then ""
  else if text.toList.contains ',' || text.toList.contains '-' then " on days " ++ text
  else " on day " ++ text

/-- The phrase of the month. -/
def monthPhrase (text : String) : String :=
  if text = "*" then "" else " in month " ++ text

/-- The phrase of the day of the week; the working week and the weekend have names. -/
def weekdayPhrase (text : String) : String :=
  if text = "*" then ""
  else if text = "1-5" then " on weekdays"
  else if text = "0,6" ∨ text = "6,0" then " on weekends"
  else " on day-of-week " ++ text

/-- Whether the minute is the only field that may say anything but `*`. -/
def minuteOnly (e : Expression) : Bool :=
  e.hour == "*" && e.dayOfMonth == "*" && e.month == "*" && e.dayOfWeek == "*"

/-- The phrases of all fields but the minute. -/
def laterPhrases (e : Expression) : String :=
  hourPhrase e.hour ++ dayPhrase e.dayOfMonth ++ monthPhrase e.month ++ weekdayPhrase e.dayOfWeek

/-- The description of an expression, by its fields. -/
def ofExpression (e : Expression) : String :=
  if e.minute = "*" then "Every minute"
  else
    match stride? e.minute.toList with
    | some n =>
      if minuteOnly e then "Every " ++ counted n "minute"
      else "Every " ++ counted n "minute" ++ "," ++ laterPhrases e
    | none => "At minute " ++ e.minute ++ laterPhrases e

/-- The description of a line. -/
def ofLine (line : String) : String :=
  match Expression.ofLine line with
  | .error _ => ofFaulty
  | .ok e =>
    if !e.verdict.valid then ofFaulty
    else
      match Preset.find? line with
      | some p => p.description
      | none => ofExpression e

example : ofLine "30 9 * * 1-5" = "At minute 30 past hour 9 on weekdays" := by decide +kernel

end Description
end Cron
