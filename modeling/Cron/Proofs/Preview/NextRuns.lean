import Cron.Preview
import Cron.Proofs.Calendar.MinuteLine
import Cron.Proofs.Schedule.Reading

/-! # The next runs

The search of a preview carries the runs found so far along and has three ways to end.  Seen
from outside it only picks from the stretch of minutes before it: those at which the schedule
runs, and of these the first ones (`search_eq`).  So a preview is told without a search
(`AreNextRuns`), and by the raw texts of the line instead of its patterns.
-/
namespace Cron.Preview

open Calendar (Instant)
open Calendar.Instant (minutesAfter isStretch_startOfMinute lt_of_minuteNumber_lt lt_irrefl)

/-- The instants are the first `count` ones at which `holds` among the whole minutes after the
start, the last of these `horizon` minutes after the minute in which the start lies. -/
structure AreNextRuns (holds : Instant → Bool) (start : Instant) (horizon count : Nat)
    (runs : List Instant) : Prop where
  /-- They are picked from all minutes up to the horizon, or to the end of the calendar. -/
  eq_take_filter : ∃ minutes, start.startOfMinute.IsStretch horizon minutes ∧
    runs = (minutes.filter holds).take count
  /-- Each of them comes after the start, ... -/
  start_lt : ∀ t ∈ runs, start < t
  /-- ... is a whole minute, ... -/
  isWhole : ∀ t ∈ runs, t.IsWhole
  /-- ... and lies within the horizon. -/
  le_horizon : ∀ t ∈ runs, t.minuteNumber ≤ start.startOfMinute.minuteNumber + horizon
  /-- They ascend, ... -/
  ascending : runs.Pairwise (· < ·)
  /-- ... none is repeated, ... -/
  nodup : runs.Nodup
  /-- ... and none is skipped: a minute that is missing comes after as many as were wanted. -/
  mem_or_later : ∀ u, u.IsWhole → holds u = true →
    start.startOfMinute.minuteNumber < u.minuteNumber →
    u.minuteNumber ≤ start.startOfMinute.minuteNumber + horizon →
    u ∈ runs ∨ runs.length = count ∧ ∀ t ∈ runs, t < u

/-- What the first elements of an ascending list leave out comes after all of them. -/
theorem mem_take_or_later {minutes : List Instant} (h : minutes.Pairwise (· < ·)) (n : Nat)
    {u : Instant} (hu : u ∈ minutes) :
    u ∈ minutes.take n ∨ (minutes.take n).length = n ∧ ∀ t ∈ minutes.take n, t < u := by
  rw [← List.take_append_drop n minutes, List.mem_append] at hu
  rcases hu with hu | hu
  · exact Or.inl hu
  · refine Or.inr ⟨?_, fun t ht => ?_⟩
    · have hlen := List.length_pos_of_mem hu
      rw [List.length_drop] at hlen
      rw [List.length_take]
      omega
    · rw [← List.take_append_drop n minutes] at h
      exact (List.pairwise_append.mp h).2.2 t ht u hu

/-- All that is said of the next runs follows from where they are picked. -/
theorem AreNextRuns.of_stretch {holds : Instant → Bool} {start : Instant} {horizon : Nat}
    {minutes : List Instant} (h : start.startOfMinute.IsStretch horizon minutes) (count : Nat) :
    AreNextRuns holds start horizon count ((minutes.filter holds).take count) := by
  have hasc : (minutes.filter holds).Pairwise (· < ·) := h.ascending.filter holds
  have hascTake : ((minutes.filter holds).take count).Pairwise (· < ·) :=
    hasc.sublist (List.take_sublist ..)
  have hmem : ∀ t ∈ (minutes.filter holds).take count, t.IsWhole ∧
      start.startOfMinute.minuteNumber < t.minuteNumber ∧
      t.minuteNumber ≤ start.startOfMinute.minuteNumber + horizon := fun t ht =>
    (h.mem_iff t).mp (List.mem_of_mem_filter (List.mem_of_mem_take ht))
  refine ⟨⟨minutes, h, rfl⟩, fun t ht => ?_, fun t ht => (hmem t ht).1,
    fun t ht => (hmem t ht).2.2, hascTake, ?_, ?_⟩
  · exact lt_of_minuteNumber_lt (hmem t ht).2.1
  · refine hascTake.imp ?_
    rintro t u hlt rfl
    exact lt_irrefl t hlt
  · intro u hwhole hholds hlt hle
    have hu : u ∈ minutes.filter holds :=
      List.mem_filter.mpr ⟨(h.mem_iff u).mpr ⟨hwhole, hlt, hle⟩, hholds⟩
    exact mem_take_or_later hasc count hu

/-- The next runs are runs. -/
theorem AreNextRuns.holds_of_mem {holds : Instant → Bool} {start : Instant} {horizon count : Nat}
    {runs : List Instant} (h : AreNextRuns holds start horizon count runs) {t : Instant}
    (ht : t ∈ runs) : holds t = true := by
  obtain ⟨minutes, -, rfl⟩ := h.eq_take_filter
  exact List.of_mem_filter (List.mem_of_mem_take ht)

/-! ## The search -/

/-- The search adds to what it was given the first runs of the stretch before it. -/
theorem search_eq (s : Schedule) (h w : Nat) (t : Instant) (found : List Instant) :
    search s h w t found =
      found.reverse ++ ((minutesAfter h t).filter s.runsAt).take w := by
  -- what is still wanted, the place and the runs found so far all change with each step
  induction h generalizing w t found with
  | zero => simp [search, minutesAfter]
  | succ h ih =>
    cases w with
    | zero => simp [search]
    | succ w =>
      rw [search, minutesAfter]
      cases hn : t.nextMinute? with
      | none => simp
      | some u =>
        by_cases hu : s.runsAt u = true
        · simp [hu, ih]
        · simp [hu, ih]

/-- A line that compiles has the runs that the search finds from nothing. -/
theorem runsAfter_eq_of_ofLine {line : String} {s : Schedule} (h : Schedule.ofLine line = .ok s)
    (horizon : UInt32) (start : Instant) (count : UInt64) :
    runsAfter horizon line start count =
      ((minutesAfter horizon.toNat start.startOfMinute).filter s.runsAt).take count.toNat := by
  rw [runsAfter, h]
  exact search_eq s _ _ _ []

/-- A line that compiles has the next runs of its schedule. -/
theorem areNextRuns_of_ofLine {line : String} {s : Schedule} (h : Schedule.ofLine line = .ok s)
    (horizon : UInt32) (start : Instant) (count : UInt64) :
    AreNextRuns s.runsAt start horizon.toNat count.toNat
      (runsAfter horizon line start count) := by
  rw [runsAfter_eq_of_ofLine h]
  exact AreNextRuns.of_stretch (isStretch_startOfMinute _ start) _

/-- A line that compiles has no runs exactly if its schedule rests at all minutes that are
looked at. -/
theorem runsAfter_eq_nil_iff {line : String} {s : Schedule} (h : Schedule.ofLine line = .ok s)
    (horizon : UInt32) (start : Instant) {count : UInt64} (hcount : 1 ≤ count) :
    runsAfter horizon line start count = [] ↔
      ∀ u, u.IsWhole → start.minuteNumber < u.minuteNumber →
        u.minuteNumber ≤ start.minuteNumber + horizon.toNat → s.runsAt u = false := by
  have hpos : count.toNat ≠ 0 := by
    have hle := UInt64.le_iff_toNat_le.mp hcount
    rw [UInt64.toNat_one] at hle
    omega
  rw [runsAfter_eq_of_ofLine h, List.take_eq_nil_iff, or_iff_right hpos, List.filter_eq_nil_iff]
  simp only [(isStretch_startOfMinute _ _).mem_iff, Bool.not_eq_true, and_imp]
  rfl

/-- A line that is not valid has no runs. -/
theorem runsAfter_eq_nil_of_not_valid {line : String}
    (h : (Verdict.ofLine line).valid = false) (horizon : UInt32) (start : Instant)
    (count : UInt64) : runsAfter horizon line start count = [] := by
  cases hs : Schedule.ofLine line with
  | error fault => rw [runsAfter, hs]
  | ok s =>
    have hvalid := Verdict.ofLine_valid_iff.mpr ⟨s, hs⟩
    exact absurd (h.symm.trans hvalid) Bool.false_ne_true

/-- **A preview shows exactly the next runs**: none if the line is not valid, and otherwise the
first ones, in order, among the minutes after the start at which the raw texts of the line
hold. -/
theorem runsAfter_areNextRuns (horizon : UInt32) (line : String) (start : Instant)
    (count : UInt64) :
    ((Verdict.ofLine line).valid = false → runsAfter horizon line start count = []) ∧
      ((Verdict.ofLine line).valid = true → ∃ e, Expression.ofLine line = .ok e ∧
        AreNextRuns e.runsAt start horizon.toNat count.toNat
          (runsAfter horizon line start count)) := by
  constructor
  · intro hinvalid
    exact runsAfter_eq_nil_of_not_valid hinvalid horizon start count
  · intro hvalid
    obtain ⟨s, hs⟩ := Verdict.ofLine_valid_iff.mp hvalid
    obtain ⟨e, he, hse⟩ := Schedule.ofLine_eq_ok_iff.mp hs
    refine ⟨e, he, ?_⟩
    have hraw : s.runsAt = e.runsAt :=
      funext (Schedule.ofExpression_eq_ok_iff.mp hse).runsAt_eq
    rw [← hraw]
    exact areNextRuns_of_ofLine hs horizon start count

/-- From within the leap second of the last minute but one there is one minute to go. -/
example : runsAfter 525600 "* * * * *"
    ⟨⟨262142, 12, 31, by decide⟩, 23, 58, 59, 1500000000, by decide⟩ 5 =
      [⟨⟨262142, 12, 31, by decide⟩, 23, 59, 0, 0, by decide⟩] := by decide +kernel

end Cron.Preview
