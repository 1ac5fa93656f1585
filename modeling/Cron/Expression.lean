import Cron.Pattern.Reader

/-! # Schedule expressions

An expression is the five raw field texts of a schedule line.  Nothing about the texts is
assumed: they are kept as they were written, and `verdict` says what is wrong with them.
A line is cut into its words to become an expression (`ofLine`), and the five texts joined
by single spaces are a line again (`line`).
-/
namespace Cron

/-- The five field texts of a schedule line, as they were written. -/
structure Expression where
  minute : String
  hour : String
  dayOfMonth : String
  month : String
  dayOfWeek : String
  deriving DecidableEq, Repr

namespace Expression

/-- Why a line or an expression is no schedule. -/
inductive Fault where
  /-- The line has some other number of words than five. -/
  | wordCount (found : Nat)
  /-- The text of a field is no pattern of that field. -/
  | field (field : Field) (cause : Pattern.Fault)
  deriving DecidableEq, Repr

/-- What is said of a field text that is no pattern of its field. -/
def Fault.fieldMessage (f : Field) (cause : Pattern.Fault) : String :=
  f.title ++ ": " ++ cause.message

/-- What is said of the fault. -/
def Fault.message : Fault → String
  | wordCount _ => "Invalid cron expression: must have exactly 5 fields"
  | field f cause => fieldMessage f cause

/-- The expression that every minute satisfies. -/
def everyMinute : Expression := ⟨"*", "*", "*", "*", "*"⟩

/-- The text of one field. -/
def get (e : Expression) : Field → String
  | .minute => e.minute
  | .hour => e.hour
  | .dayOfMonth => e.dayOfMonth
  | .month => e.month
  | .dayOfWeek => e.dayOfWeek

/-- The expression with the text of one field replaced. -/
def set (e : Expression) (f : Field) (text : String) : Expression :=
  match f with
  | .minute => { e with minute := text }
  | .hour => { e with hour := text }
  | .dayOfMonth => { e with dayOfMonth := text }
  | .month => { e with month := text }
  | .dayOfWeek => { e with dayOfWeek := text }

/-- The fields with their texts, in the order in which they are written. -/
def entries (e : Expression) : List (Field × String) := Field.all.map (fun f => (f, e.get f))

/-- Cuts a line into its words, which have to be five. -/
def ofLine (line : String) : Except Fault Expression :=
  match Text.words line.toList with
  | [m, h, d, mo, w] =>
    .ok ⟨.ofList m, .ofList h, .ofList d, .ofList mo, .ofList w⟩
  | ws => .error (.wordCount ws.length)

/-- The five texts, joined by single spaces. -/
def line (e : Expression) : String :=
  e.minute ++ " " ++ e.hour ++ " " ++ e.dayOfMonth ++ " " ++ e.month ++ " " ++ e.dayOfWeek

theorem get_set (e : Expression) (f g : Field) (text : String) :
    (e.set f text).get g = if g = f then text else e.get g := by
  cases f <;> cases g <;> rfl

example : everyMinute.line = "* * * * *" := by decide

end Expression

/-- What a check of an expression finds: a flag, and one message for each fault. -/
structure Verdict where
  valid : Bool
  errors : List String
  deriving DecidableEq, Repr

namespace Verdict

/-- The verdict that consists of the given messages. -/
def ofErrors (errors : List String) : Verdict := ⟨errors.isEmpty, errors⟩

end Verdict

/-- What is wrong with the text of a field of the expression, if anything is. -/
def Expression.fieldError? (e : Expression) (f : Field) : Option String :=
  match f.read (e.get f) with
  | .ok _ => none
  | .error cause => some (Fault.fieldMessage f cause)

/-- Checks every field by itself and collects all that is wrong, in the order of the fields. -/
def Expression.verdict (e : Expression) : Verdict :=
  .ofErrors (Field.all.filterMap e.fieldError?)

/-- Checks a line: one message if it has not five words, and that of its expression otherwise. -/
def Verdict.ofLine (line : String) : Verdict :=
  match Expression.ofLine line with
  | .ok e => e.verdict
  | .error fault => ⟨false, [fault.message]⟩

end Cron
