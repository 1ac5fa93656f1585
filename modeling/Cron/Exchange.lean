import Cron.Description
import Cron.Json.Value
import Cron.Preview

/-! # Forms of exchange

How the records of the library are written as JSON values, and read back from them.  A
record is written as an object with its members in the order of its fields.  It is read
from such an object, in any order and with any other members besides, or from an array of
its members in their order.
-/
namespace Cron

open Json (Value)

namespace Expression

/-- The form of an expression. -/
def toJson (e : Expression) : Value :=
  .record (e.entries.map (fun p => (p.1.label, .text p.2)))

/-- The expression of a given form.  All five texts have to be there. -/
def ofJson? : Value → Option Expression
  | .array [m, h, d, mo, w] => do
    return ⟨← m.text?, ← h.text?, ← d.text?, ← mo.text?, ← w.text?⟩
  | .object ms =>
    if Json.keysAreTexts ms then do
      let text (f : Field) : Option String := (Json.require ms f.label).bind Value.text?
      return ⟨← text .minute, ← text .hour, ← text .dayOfMonth, ← text .month,
        ← text .dayOfWeek⟩
    else none
  | _ => none

end Expression

namespace Verdict

/-- The form of a verdict. -/
def toJson (v : Verdict) : Value :=
  .record [("valid", .bool v.valid), ("errors", .array (v.errors.map .text))]

/-- The verdict whose two members have the given forms. -/
def ofParts? (valid errors : Value) : Option Verdict := do
  return ⟨← valid.bool?, ← (← errors.items?).mapM Value.text?⟩

/-- The verdict of a given form.  Both members have to be there. -/
def ofJson? : Value → Option Verdict
  | .array [valid, errors] => ofParts? valid errors
  | .object ms =>
    if Json.keysAreTexts ms then do
      ofParts? (← Json.require ms "valid") (← Json.require ms "errors")
    else none
  | _ => none

end Verdict

namespace Preview.Limits

/-- The form of the limits of a preview. -/
def toJson (l : Limits) : Value :=
  .record [("count", .nat l.count.toNat), ("max_iterations", .nat l.horizon.toNat)]

/-- The limits of a given form. -/
def ofJson? : Value → Option Limits
  | .array [] => ofParts? Value.nat? none none
  | .array [c] => ofParts? Value.nat? (some c) none
  | .array [c, h] => ofParts? Value.nat? (some c) (some h)
  | .object ms =>
    if Json.keysAreTexts ms then do
      ofParts? Value.nat? (← Json.lookUp ms "count") (← Json.lookUp ms "max_iterations")
    else none
  | _ => none

end Preview.Limits

/-- The form of a preset. -/
def Preset.toJson (p : Preset) : Value :=
  .record [("name", .text p.name), ("expression", .text p.expression),
    ("description", .text p.description)]

end Cron
