import Cron.Proofs.Calendar.Stretches
import Cron.Proofs.Preview.NextRuns
import Mathlib.Data.List.Infix

/-! # Previews page by page

A preview may be asked for more runs, or to look further, or to go on from the last run that it
showed.  All three are told by one list, the runs among all minutes that are looked at: a count
takes the first of them, and a horizon decides where the list ends.

To go on is not quite the same as to ask for more.  The preview that starts at the last run counts
its horizon from there, so it looks at minutes that the first one would not have come to; without
the runs among these, both pages together are the longer preview (`pages`).
-/
namespace Cron.Preview

open Calendar (Instant)
open Calendar.Instant (minutesAfter isStretch_minutesAfter minutesAfter_prefix_of_le
  filter_le_minutesAfter filter_lt_minutesAfter)

variable {t r : Instant} {xs page rest : List Instant} {n m horizon : Nat}

/-! ## Ascending numbers -/

/-- The first ones of those up to a bound are the first ones, as far as the bound. -/
theorem filter_take (h : xs.Pairwise fun u v => u.minuteNumber < v.minuteNumber) (n : Nat)
    (bound : Int) : (xs.take n).filter (fun u => u.minuteNumber ≤ bound) =
      (xs.filter fun u => u.minuteNumber ≤ bound).take n := by
  induction xs generalizing n with
  | nil => simp
  | cons u xs ih =>
    obtain ⟨hfirst, hrest⟩ := List.pairwise_cons.mp h
    cases n with
    | zero => simp
    | succ n =>
      by_cases hu : u.minuteNumber ≤ bound
      · simp [hu, ih hrest]
      · -- the others lie beyond the bound as well
        have hnone : xs.filter (fun v => v.minuteNumber ≤ bound) = [] := by
          refine List.filter_eq_nil_iff.mpr fun v hv hle => hu ?_
          have hlt := hfirst v hv
          have hbound := of_decide_eq_true hle
          omega
        simp [hu, ih hrest, hnone]

/-- What comes behind the last one of a page has the greater numbers. -/
theorem filter_behind (h : (page ++ rest).Pairwise fun u v => u.minuteNumber < v.minuteNumber)
    (hr : page.getLast? = some r) :
    (page ++ rest).filter (fun u => r.minuteNumber < u.minuteNumber) = rest := by
  obtain ⟨before, rfl⟩ := List.getLast?_eq_some_iff.mp hr
  obtain ⟨hpage, -, hbehind⟩ := List.pairwise_append.mp h
  obtain ⟨-, -, hbefore⟩ := List.pairwise_append.mp hpage
  have hlast : r ∈ before ++ [r] := List.mem_append_right before List.mem_cons_self
  rw [List.filter_append, List.filter_eq_nil_iff.mpr, List.filter_eq_self.mpr, List.nil_append]
  · intro u hu
    exact decide_eq_true (hbehind r hlast u hu)
  · intro u hu hlt
    have hru := of_decide_eq_true hlt
    rcases List.mem_append.mp hu with hu | hu
    · have hur := hbefore u hu r List.mem_cons_self
      omega
    · obtain rfl := List.mem_singleton.mp hu
      omega

/-! ## Two pages -/

/-- The last run of a page is one of the minutes that are looked at. -/
theorem isWhole_of_getLast? (ht : t.IsWhole) {holds : Instant → Bool}
    (hr : (((minutesAfter horizon t).filter holds).take n).getLast? = some r) :
    r.IsWhole ∧ t.minuteNumber < r.minuteNumber ∧ r.minuteNumber ≤ t.minuteNumber + horizon :=
  ((isStretch_minutesAfter horizon ht).mem_iff r).mp
    (List.mem_of_mem_filter (List.mem_of_mem_take (List.mem_of_getLast? hr)))

/-- The runs that a page leaves out are those among the minutes after its last run. -/
theorem exists_drop_eq (ht : t.IsWhole) (holds : Instant → Bool)
    (hr : (((minutesAfter horizon t).filter holds).take n).getLast? = some r) :
    ∃ left : Nat, left ≤ horizon ∧ r.minuteNumber + left = t.minuteNumber + horizon ∧
      ((minutesAfter horizon t).filter holds).drop n = (minutesAfter left r).filter holds := by
  obtain ⟨hwhole, hlt, hle⟩ := isWhole_of_getLast? ht hr
  obtain ⟨gone, hgone⟩ := Int.le.dest (Int.le_of_lt hlt)
  obtain ⟨left, rfl⟩ := Nat.exists_eq_add_of_le (show gone ≤ horizon by omega)
  refine ⟨left, Nat.le_add_left left gone, by omega, ?_⟩
  have hpages := (isStretch_minutesAfter (gone + left) ht).pairwise_minuteNumber.filter holds
  rw [← List.take_append_drop n ((minutesAfter (gone + left) t).filter holds)] at hpages
  have hbehind := filter_behind hpages hr
  rw [List.take_append_drop, List.filter_comm,
    filter_lt_minutesAfter left ht hwhole hgone.symm] at hbehind
  exact hbehind.symm

/-- A longer page is the shorter one and, of the page that starts at its last run, what lies within
the horizon of the first. -/
theorem take_add_runs (ht : t.IsWhole) (holds : Instant → Bool) (m : Nat)
    (hr : (((minutesAfter horizon t).filter holds).take n).getLast? = some r) :
    ((minutesAfter horizon t).filter holds).take (n + m) =
      ((minutesAfter horizon t).filter holds).take n ++
        (((minutesAfter horizon r).filter holds).take m).filter
          (fun u => u.minuteNumber ≤ t.minuteNumber + horizon) := by
  obtain ⟨left, hle, hend, hdrop⟩ := exists_drop_eq ht holds hr
  have hwhole := (isWhole_of_getLast? ht hr).1
  have hascend := (isStretch_minutesAfter horizon hwhole).pairwise_minuteNumber.filter holds
  rw [List.take_add, hdrop, filter_take hascend, List.filter_comm, ← hend,
    filter_le_minutesAfter hwhole hle]

/-- How the previews of a line after a start are parts of each other. -/
structure Pages (horizon : UInt32) (line : String) (start : Instant) : Prop where
  /-- Fewer runs are the first of more runs. -/
  count_mono : ∀ n m : UInt64, n ≤ m →
    runsAfter horizon line start n <+: runsAfter horizon line start m
  /-- A longer horizon only adds runs behind the others. -/
  horizon_mono : ∀ (further : UInt32) (n : UInt64), horizon ≤ further →
    runsAfter horizon line start n <+: runsAfter further line start n
  /-- A page and the one after its last run, as far as the horizon of the first, are one page. -/
  continued : ∀ (n m : UInt64) (r : Instant), n.toNat + m.toNat < UInt64.size →
    (runsAfter horizon line start n).getLast? = some r →
      runsAfter horizon line start (n + m) = runsAfter horizon line start n ++
        (runsAfter horizon line r m).filter
          (fun u => u.minuteNumber ≤ start.startOfMinute.minuteNumber + horizon.toNat)

/-- **A preview may be turned page by page**: no run is lost between two pages, none is shown twice,
and none changes its place. -/
theorem pages (horizon : UInt32) (line : String) (start : Instant) :
    Pages horizon line start := by
  cases hs : Schedule.ofLine line with
  | error fault =>
    have hnil : ∀ horizon start count, runsAfter horizon line start count = [] := by
      intro horizon start count
      rw [runsAfter, hs]
    refine ⟨?_, ?_, ?_⟩
    · intro n m _
      rw [hnil]
      exact List.nil_prefix
    · intro further n _
      rw [hnil]
      exact List.nil_prefix
    · intro n m r _ hr
      rw [hnil] at hr
      cases hr
  | ok s =>
    refine ⟨?_, ?_, ?_⟩
    · intro n m hle
      rw [runsAfter_eq_of_ofLine hs, runsAfter_eq_of_ofLine hs]
      exact List.take_prefix_take_left (UInt64.le_iff_toNat_le.mp hle)
    · intro further n hle
      rw [runsAfter_eq_of_ofLine hs, runsAfter_eq_of_ofLine hs]
      have hminutes := minutesAfter_prefix_of_le start.startOfMinute (UInt32.le_iff_toNat_le.mp hle)
      have hruns := hminutes.filter s.runsAt
      exact List.IsPrefix.take hruns n.toNat
    · intro n m r hroom hr
      have hsum : (n + m).toNat = n.toNat + m.toNat := by
        rw [UInt64.toNat_add, Nat.mod_eq_of_lt hroom]
      rw [runsAfter_eq_of_ofLine hs] at hr ⊢
      have hwhole := (isWhole_of_getLast? start.isWhole_startOfMinute hr).1
      rw [runsAfter_eq_of_ofLine hs, runsAfter_eq_of_ofLine hs, hsum, hwhole.startOfMinute_eq]
      exact take_add_runs start.isWhole_startOfMinute s.runsAt m.toNat hr

/-- Half hours, a hundred minutes from within a leap second on: the second page comes to twelve
o'clock, which lies beyond the horizon of the first, so the longer preview ends before it. -/
theorem pages_half_hours :
    let start : Instant := ⟨⟨2026, 2, 5, by decide⟩, 10, 15, 59, 1500000000, by decide⟩
    let last : Instant := ⟨⟨2026, 2, 5, by decide⟩, 11, 0, 0, 0, by decide⟩
    let first := runsAfter 100 "*/30 * * * *" start 2
    let second := runsAfter 100 "*/30 * * * *" last 2
    first = [⟨⟨2026, 2, 5, by decide⟩, 10, 30, 0, 0, by decide⟩, last] ∧
      second = [⟨⟨2026, 2, 5, by decide⟩, 11, 30, 0, 0, by decide⟩,
        ⟨⟨2026, 2, 5, by decide⟩, 12, 0, 0, 0, by decide⟩] ∧
      runsAfter 100 "*/30 * * * *" start 4 = first ++ second.take 1 := by
  intro start last first second
  have hfirst : first = [⟨⟨2026, 2, 5, by decide⟩, 10, 30, 0, 0, by decide⟩, last] := by
    decide +kernel
  have hcut : second.filter (fun u => u.minuteNumber ≤ start.startOfMinute.minuteNumber + 100) =
      second.take 1 := by decide +kernel
  have hlonger := (pages 100 "*/30 * * * *" start).continued 2 2 last (by decide)
    (congrArg List.getLast? hfirst)
  exact ⟨hfirst, by decide +kernel, hlonger.trans (congrArg (first ++ ·) hcut)⟩

end Cron.Preview
