import Cron.Field

/-! # Patterns

A pattern is what the text of one field says, once it has been read.  It stands for a set
of numbers: `p.holds v` tells whether `v` belongs to the set of `p`.

Each way in which a text can fail to be a pattern is one constructor of `Pattern.Fault`.  The
faults about bounds carry the bounds that were missed.
-/
namespace Cron

/-- Where a step pattern begins, and how far it goes. -/
inductive Pattern.Base where
  /-- From zero on, written `*/n`. -/
  | any
  /-- From `a` on, written `a/n`. -/
  | start (first : UInt32)
  /-- From `a` up to `b`, written `a-b/n`. -/
  | range (first last : UInt32)
  deriving DecidableEq, Repr

/-- What the text of one field says. -/
inductive Pattern where
  /-- Every number, written `*`. -/
  | any
  /-- One number. -/
  | single (value : UInt32)
  /-- The numbers of a list, which may repeat itself, written `a,b,c`. -/
  | list (values : List UInt32)
  /-- The numbers from `a` to `b`, both included, written `a-b`. -/
  | range (first last : UInt32)
  /-- Every `n`-th number, counted from the beginning of the base. -/
  | step (base : Pattern.Base) (stride : UInt32)
  deriving DecidableEq, Repr

namespace Pattern

/-- Whether `n` divides `d`.  Nothing is a multiple of zero here, not even zero. -/
def isMultiple (d n : UInt32) : Bool := n != 0 && d % n == 0

/-- Whether a number belongs to the set that the pattern stands for. -/
def holds : Pattern → UInt32 → Bool
  | any, _ => true
  | single a, v => v == a
  | list vs, v => vs.contains v
  | range a b, v => decide (a ≤ v) && decide (v ≤ b)
  | step .any n, v => isMultiple v n
  | step (.start a) n, v => decide (a ≤ v) && isMultiple (v - a) n
  | step (.range a b) n, v => decide (a ≤ v) && decide (v ≤ b) && isMultiple (v - a) n

/-- Whether the pattern is the plain `*`. -/
def isAny : Pattern → Bool
  | any => true
  | _ => false

/-! ## Faults -/

/-- Why the text of a field is no pattern. -/
inductive Fault where
  /-- Nothing but blanks. -/
  | empty
  /-- More than one slash. -/
  | stepShape
  /-- What follows the slash is no number above zero. -/
  | stepNumber
  /-- More than one hyphen. -/
  | rangeShape
  /-- One side of the hyphen is no number. -/
  | rangeNumber
  /-- The first number of a range, or the base of a step, misses the bounds. -/
  | start (missed : Bounds)
  /-- The last number of a range misses the bounds. -/
  | stop (missed : Bounds)
  /-- A range does not ascend. -/
  | order
  /-- A part of a list is no number within the bounds. -/
  | list (missed : Bounds)
  /-- No shape at all fits. -/
  | shape
  /-- A single number misses the bounds. -/
  | number (missed : Bounds)
  deriving DecidableEq, Repr

/-- Both ends of the bounds, as a message names them. -/
def Fault.between (b : Bounds) : String := toString b.least ++ " and " ++ toString b.greatest

/-- What is said of the fault. -/
def Fault.message : Fault → String
  | empty => "Field cannot be empty"
  | stepShape => "Invalid step format. Use */n or start-end/step"
  | stepNumber => "Step value must be a positive number"
  | rangeShape => "Invalid range format. Use n-m"
  | rangeNumber => "Range values must be numbers"
  | start b => "Start value must be between " ++ between b
  | stop b => "End value must be between " ++ between b
  | order => "Start value must be less than end value"
  | list b => "All values must be between " ++ between b
  | shape => "Must be a number, *, range (n-m), list (n,m), or step (*/n)"
  | number b => "Value must be between " ++ between b

end Pattern
end Cron
