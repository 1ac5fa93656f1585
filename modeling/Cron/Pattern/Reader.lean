import Cron.Pattern
import Cron.Text

/-! # Reading a field text

The shape of a text is settled by the marks in it, looked for in a fixed order: a slash
makes it a step, a hyphen a range, a comma a list, and a text without marks is a single
number.  The text `*` stands apart and is taken exactly as it is, while blanks around
numbers do not matter.

Bounds are optional.  Without them only the syntax counts: a range need not ascend, and a
list or step base that fails is then a fault of shape.
-/
namespace Cron.Pattern

/-- A number of a field: blanks around it are dropped, one plus sign may lead it, and a
numeral too large for the type stands for the largest number. -/
def number? (cs : List Char) : Option UInt32 :=
  (Numeral.unsigned? (Text.trim cs)).map UInt32.ofNatClamp

/-- Whether a number keeps within the bounds, if there are any. -/
def within (limits : Option Bounds) (v : UInt32) : Bool :=
  limits.all (fun b => b.contains v)

/-- A number of a field that keeps within the bounds. -/
def boundedNumber? (limits : Option Bounds) (cs : List Char) : Option UInt32 :=
  (number? cs).filter (within limits)

/-- The fault of missing the bounds or, if there are none, the fault of shape. -/
def missed (limits : Option Bounds) (fault : Bounds → Fault) : Fault :=
  match limits with
  | some b => fault b
  | none => .shape

/-- Accepts the two ends of a range: both within the bounds, and ascending. -/
def checkRange (limits : Option Bounds) (a b : UInt32) : Except Fault (UInt32 × UInt32) :=
  match limits with
  | none => .ok (a, b)
  | some d =>
    if !d.contains a then .error (.start d)
    else if !d.contains b then .error (.stop d)
    else if b ≤ a then .error .order
    else .ok (a, b)

/-- Reads `a-b`. -/
def readRange (limits : Option Bounds) (cs : List Char) : Except Fault (UInt32 × UInt32) :=
  match cs.splitOn '-' with
  | [x, y] =>
    match number? x, number? y with
    | some a, some b => checkRange limits a b
    | _, _ => .error .rangeNumber
  | _ => .error .rangeShape

/-- Reads what stands before the slash of a step. -/
def readBase (limits : Option Bounds) (cs : List Char) : Except Fault Base :=
  if cs = ['*'] then .ok .any
  else if cs.contains '-' then (readRange limits cs).map (fun r => .range r.1 r.2)
  else
    match boundedNumber? limits cs with
    | some a => .ok (.start a)
    | none => .error (missed limits .start)

/-- Reads a step; its number is looked at before its base. -/
def readStep (limits : Option Bounds) (cs : List Char) : Except Fault Pattern :=
  match cs.splitOn '/' with
  | [base, stride] =>
    match (number? stride).filter (fun n => n != 0) with
    | some n => (readBase limits base).map (fun b => .step b n)
    | none => .error .stepNumber
  | _ => .error .stepShape

/-- Reads `a,b,c`. -/
def readList (limits : Option Bounds) (cs : List Char) : Except Fault Pattern :=
  match (cs.splitOn ',').mapM (boundedNumber? limits) with
  | some vs => .ok (.list vs)
  | none => .error (missed limits .list)

/-- Reads a text without marks. -/
def readSingle (limits : Option Bounds) (cs : List Char) : Except Fault Pattern :=
  match number? cs with
  | none => .error .shape
  | some v => if within limits v then .ok (.single v) else .error (missed limits .number)

/-- Reads the characters of a field text. -/
def readChars (limits : Option Bounds) (cs : List Char) : Except Fault Pattern :=
  if (Text.trim cs).isEmpty then .error .empty
  else if cs = ['*'] then .ok .any
  else if cs.contains '/' then readStep limits cs
  else if cs.contains '-' then (readRange limits cs).map (fun r => .range r.1 r.2)
  else if cs.contains ',' then readList limits cs
  else readSingle limits cs

/-- Reads a field text by its syntax alone. -/
def read (text : String) : Except Fault Pattern := readChars none text.toList

/-- Whether a number satisfies a raw field text.  A text that is no pattern holds of nothing. -/
def textHolds (text : String) (v : UInt32) : Bool :=
  match read text with
  | .ok p => p.holds v
  | .error _ => false

end Cron.Pattern

namespace Cron.Field

/-- Reads a field text and holds it to the bounds of the field. -/
def read (f : Field) (text : String) : Except Pattern.Fault Pattern :=
  Pattern.readChars (some f.bounds) text.toList

/-- Whether a number satisfies a raw text of the field.  In the field of the week days the
text `7` also takes the 0 of a Sunday. -/
def textHolds (f : Field) (text : String) (v : UInt32) : Bool :=
  Pattern.textHolds text v || (f == .dayOfWeek && v == 0 && text == "7")

end Cron.Field
