import Cron.Exchange
import Cron.Hcl.Body

/-! # Settings

The settings of the command line: how much it logs, and the limits of its previews.  They
come from a file in HCL, and what the file does not say keeps its default.  A file that
cannot be read, does not parse, holds a value of the wrong kind or a limit of zero is
refused as a whole.
-/
namespace Cron

/-- The settings of the command line. -/
structure Settings where
  logLevel : String := "warn"
  limits : Preview.Limits := {}
  deriving DecidableEq, Repr

namespace Settings

/-- The file that is looked for unless another is named. -/
def defaultFile : String := "cronexpr.hcl"

/-- Why a settings file is refused. -/
inductive Fault where
  /-- Its text is no HCL, or a value is of the wrong kind. -/
  | malformed
  /-- It asks for previews without runs. -/
  | zeroCount
  /-- It asks for previews that look at no minute. -/
  | zeroHorizon
  /-- It cannot be read. -/
  | unreadable (reason : String)
  deriving DecidableEq, Repr

/-- What is said of the fault, where the file that has it is named if there is one.  The details
of a parse error, which would follow, are left out. -/
def Fault.message (fault : Fault) (file? : Option String := none) : String :=
  match fault, file? with
  | malformed, none => "Configuration error: parse error"
  | malformed, some name => "Configuration error: parse error in " ++ name
  | zeroCount, _ => "Configuration error: scheduler.count must be at least 1"
  | zeroHorizon, _ => "Configuration error: scheduler.max_iterations must be at least 1"
  | unreadable reason, _ => "I/O error: " ++ reason

/-! ## From bodies to settings -/

/-- The limits whose two members have the given values. -/
def limitsOfParts? (count horizon : Option Hcl.Value) : Option Preview.Limits :=
  Preview.Limits.ofParts? Hcl.Value.nat? count horizon

/-- The limits that a value denotes: an object, or an array of the members in their order,
which may go on behind them. -/
def limitsOfValue? : Hcl.Value → Option Preview.Limits
  | .array vs => limitsOfParts? vs[0]? vs[1]?
  | .object ms => do
    limitsOfParts? (← Hcl.Value.lookUp ms "count") (← Hcl.Value.lookUp ms "max_iterations")
  | _ => none

/-- The value of the setting that stands for a name, if there is any entry of that name.
The look-up fails where blocks stand for it. -/
def valueOf (items : List Hcl.Item) (name : String) : Option (Option Hcl.Value) :=
  match Hcl.Body.standing items name with
  | [] => some none
  | [.setting _ v] => some (some v)
  | _ => none

/-- Whether a block has a label, and one that names neither limit. -/
def isForeign : Hcl.Item → Bool
  | .block _ (l :: _) _ => l != "count" && l != "max_iterations"
  | _ => false

/-- The limits that the entries denote which stand for one name.  A block with a label is an
object whose only member has the label for its key, and so it leaves the defaults unless the
label names a limit. -/
def limitsOfEntries? : List Hcl.Item → Option Preview.Limits
  | [] => some {}
  | [.setting _ v] => limitsOfValue? v
  | [.block _ [] body] => do
    limitsOfParts? (← valueOf body "count") (← valueOf body "max_iterations")
  | items => if items.all isForeign then some {} else none

/-- The settings that a body denotes. -/
def ofBody? (items : List Hcl.Item) : Option Settings := do
  let standard : Settings := {}
  let level ← valueOf items "log_level"
  let limits ← limitsOfEntries? (Hcl.Body.standing items "scheduler")
  return ⟨(level.map Hcl.Value.asText).getD standard.logLevel, limits⟩

/-! ## From files to settings -/

/-- Refuses limits of zero. -/
def check (s : Settings) : Except Fault Settings :=
  if s.limits.count = 0 then .error .zeroCount
  else if s.limits.horizon = 0 then .error .zeroHorizon
  else .ok s

/-- The settings that a text denotes. -/
def ofHcl (text : String) : Except Fault Settings :=
  match (Hcl.Body.ofText? text).bind ofBody? with
  | some s => s.check
  | none => .error .malformed

/-- What is found where a settings file is looked for. -/
inductive File where
  /-- The name leads to nothing that exists: there is no file, or the way to it is broken, or a
  directory on the way does not let itself be searched. -/
  | missing
  /-- Something is there, and does not let itself be read. -/
  | locked (reason : String)
  | bytes (content : ByteArray)

/-- The settings of a file, which has to be there. -/
def ofFile : File → Except Fault Settings
  | .missing => .error (.unreadable "No such file or directory (os error 2)")
  | .locked reason => .error (.unreadable reason)
  | .bytes content =>
    match String.fromUTF8? content with
    | some text => ofHcl text
    | none => .error (.unreadable "stream did not contain valid UTF-8")

/-- The settings of a file, and the defaults if its name leads to nothing. -/
def ofFileOrDefault : File → Except Fault Settings
  | .missing => .ok {}
  | file => ofFile file

end Settings
end Cron
