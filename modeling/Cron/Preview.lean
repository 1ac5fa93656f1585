import Cron.Schedule

/-! # Previews

A preview lists the next runs of a schedule.  It looks at one minute after the other, from
the one after the start on, and ends when it has as many runs as were asked for, when it
has looked at as many minutes as its limits allow, or where the calendar ends.
-/
namespace Cron

open Calendar (Instant)

namespace Preview

/-- How much a preview shows, and how far it looks. -/
structure Limits where
  /-- The number of runs to show. -/
  count : UInt64 := 5
  /-- The number of minutes to look at; by default as many as a year of 365 days has. -/
  horizon : UInt32 := 525600
  deriving DecidableEq, Repr

namespace Limits

/-- A number of runs: a natural number with room in 64 bits. -/
def countOf? (n : Nat) : Option UInt64 :=
  if n < UInt64.size then some n.toUInt64 else none

/-- A number of minutes: a natural number with room in 32 bits. -/
def horizonOf? (n : Nat) : Option UInt32 :=
  if n < UInt32.size then some n.toUInt32 else none

/-- The limits that two values of a data format denote, where `nat?` tells which values are
natural numbers.  A value that is missing leaves the default. -/
def ofParts? {α : Type} (nat? : α → Option Nat) (count horizon : Option α) : Option Limits := do
  let standard : Limits := {}
  let c ← match count with
    | none => some standard.count
    | some v => (nat? v).bind countOf?
  let h ← match horizon with
    | none => some standard.horizon
    | some v => (nat? v).bind horizonOf?
  return ⟨c, h⟩

end Limits

/-- Looks at the `horizon` minutes after `t`, and stops early once `wanted` more runs are
found.  The runs found so far come last first. -/
def search (s : Schedule) : (horizon wanted : Nat) → Instant → List Instant → List Instant
  | 0, _, _, found => found.reverse
  | _, 0, _, found => found.reverse
  | h + 1, w + 1, t, found =>
    match t.nextMinute? with
    | none => found.reverse
    | some u =>
      if s.runsAt u then search s h w u (u :: found) else search s h (w + 1) u found

/-- The next `count` runs of a line after the start, in ascending order.  A line with a
fault has no runs. -/
def runsAfter (horizon : UInt32) (line : String) (start : Instant) (count : UInt64) :
    List Instant :=
  match Schedule.ofLine line with
  | .ok s => search s horizon.toNat count.toNat start.startOfMinute []
  | .error _ => []

/-- As many runs after the start as the limits name, unless another count is asked for. -/
def runs (limits : Limits) (line : String) (start : Instant) (count? : Option UInt64) :
    List Instant :=
  runsAfter limits.horizon line start (count?.getD limits.count)

end Preview
end Cron
