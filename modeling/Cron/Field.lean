/-! # The five fields

A schedule line has five fields: minute, hour, day of the month, month, day of the week.
Each field has its bounds, the least and the greatest number that may stand in it.  In
the field of the week days both 0 and 7 stand for Sunday.
-/
namespace Cron

/-- The least and the greatest number of a field. -/
structure Bounds where
  least : UInt32
  greatest : UInt32
  deriving DecidableEq, Repr

/-- Whether a number lies within the bounds, both ends included. -/
def Bounds.contains (b : Bounds) (v : UInt32) : Bool :=
  decide (b.least ≤ v) && decide (v ≤ b.greatest)

theorem Bounds.contains_iff {b : Bounds} {v : UInt32} :
    b.contains v = true ↔ b.least.toNat ≤ v.toNat ∧ v.toNat ≤ b.greatest.toNat := by
  simp [contains, UInt32.le_iff_toNat_le]

/-- The fields of a schedule line, in the order in which they are written. -/
inductive Field where
  | minute
  | hour
  | dayOfMonth
  | month
  | dayOfWeek
  deriving DecidableEq, Repr

namespace Field

/-- All five fields in the order in which they are written. -/
def all : List Field := [minute, hour, dayOfMonth, month, dayOfWeek]

/-- The name by which data names the field. -/
def label : Field → String
  | minute => "minute"
  | hour => "hour"
  | dayOfMonth => "dayOfMonth"
  | month => "month"
  | dayOfWeek => "dayOfWeek"

/-- The name by which messages name the field. -/
def title : Field → String
  | minute => "Minute"
  | hour => "Hour"
  | dayOfMonth => "Day of Month"
  | month => "Month"
  | dayOfWeek => "Day of Week"

/-- The numbers that may stand in the field. -/
def bounds : Field → Bounds
  | minute => ⟨0, 59⟩
  | hour => ⟨0, 23⟩
  | dayOfMonth => ⟨1, 31⟩
  | month => ⟨1, 12⟩
  | dayOfWeek => ⟨0, 7⟩

/-- Texts that may stand in the field, to show to whoever fills it in. -/
def samples : Field → List String
  | minute => ["0", "15", "30", "45", "*/5", "0-30", "0,15,30,45"]
  | hour => ["0", "12", "18", "*/6", "9-17", "0,6,12,18"]
  | dayOfMonth => ["1", "15", "28", "*/5", "1-15", "1,15,30"]
  | month => ["1", "6", "12", "*/3", "1-6", "1,4,7,10"]
  | dayOfWeek => ["0", "1", "5", "1-5", "0,6"]

/-- The field of a given name, if there is one. -/
def ofLabel? (name : String) : Option Field := all.find? (fun f => f.label == name)

/-- What is said of a name that no field has. -/
def unknownMessage (name : String) : String := "Unknown field: " ++ name

theorem mem_all (f : Field) : f ∈ all := by cases f <;> decide

theorem ofLabel?_label (f : Field) : ofLabel? f.label = some f := by cases f <;> decide

end Field
end Cron
