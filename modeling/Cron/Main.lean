import Cron.CommandLine.Report
import Std.Time

/-! # The program

Gathers what a report depends on besides the arguments, which is the settings file and the
local time, and writes the report out.
-/
namespace Cron.Main

open Calendar (Date Instant)

/-- What the system says of an error, with the number it has there. -/
def reasonOf : IO.Error → String
  | .inappropriateType _ code reason | .permissionDenied _ code reason
  | .invalidArgument _ code reason | .resourceExhausted _ code reason =>
    reason.capitalize ++ " (os error " ++ toString code ++ ")"
  | e => toString e

/-- What is found where a settings file is looked for.  A name that leads nowhere has no file,
whatever keeps it from leading there. -/
def readSettings (name : String) : IO Settings.File := do
  try
    return .bytes (← IO.FS.readBinFile name)
  catch e =>
    try
      discard (IO.FS.realPath name)
      return .locked (reasonOf e)
    catch _ => return .missing

/-- The current time of the local clock, and universal time if the time zone is not known. -/
def localClock : IO Std.Time.PlainDateTime := do
  try Std.Time.PlainDateTime.now
  catch _ =>
    let now ← Std.Time.Timestamp.now
    return .ofWallTime (.ofTimestamp now Std.Time.TimeZone.UTC.offset)

/-- The instant that a clock shows. -/
def instantOf? (clock : Std.Time.PlainDateTime) : Option Instant := do
  let date ← Date.ofCivil? clock.year clock.month.val.toNat clock.day.val.toNat
  Instant.ofClock? date clock.hour.val.toNat clock.minute.val.toNat 0 0

end Cron.Main

/-- Reports on the arguments. -/
def main (args : List String) : IO UInt32 := do
  let some now := Cron.Main.instantOf? (← Cron.Main.localClock)
    | throw (IO.userError "the clock shows no time of the calendar")
  let report ← match Cron.CommandLine.Request.ofArguments args with
    | .error refusal => pure (Cron.CommandLine.Report.ofRefusal refusal)
    | .ok request =>
      let file ← Cron.Main.readSettings request.settingsFile
      pure (Cron.CommandLine.Report.ofRequest request file now)
  IO.print report.output
  IO.eprint report.errors
  return report.exitCode.toUInt32
