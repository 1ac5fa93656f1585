import Cron.Proofs.Calendar.Stretches
import Cron.Proofs.Preview.NextRuns
import Cron.Proofs.Schedule.Dead

/-! # Previews of weekly schedules

A schedule that takes all days of all months runs in every week, once at least, if it takes a day of
the week at all: the 10080 minutes of a week have every time of day on every day of the week,
whatever months and years they belong to.  A preview that looks at as many weeks as it wants runs
therefore finds all of them (`weekly_runs_fill`), and the default looks at 52.
-/
namespace Cron

open Calendar (Instant)
open Calendar.Instant (minutesAfter isStretch_minutesAfter minutesAfter_add minutesAfter_prefix_of_le)

/-- Every time of the week comes within the week after an instant. -/
theorem Calendar.Instant.exists_next_weekly {t fin : Instant} {weekDay hour minute : Nat}
    (hweek : weekDay < 7) (hhour : hour < 24) (hminute : minute < 60)
    (hfin : t.minuteNumber + 10080 ≤ fin.minuteNumber) :
    ∃ u : Instant, (u.IsWhole ∧ u.date.weekday = weekDay ∧ u.hour = hour ∧ u.minute = minute) ∧
      t.minuteNumber < u.minuteNumber ∧ u.minuteNumber ≤ t.minuteNumber + 10080 := by
  -- the number of a minute, modulo those of a week, is that of its time of the week
  obtain ⟨n, hpos, hle, hmod⟩ : ∃ n : Nat, 1 ≤ n ∧ n ≤ 10080 ∧
      (t.minuteNumber + n) % 10080 = (weekDay * 24 + hour) * 60 + minute :=
    ⟨(((weekDay * 24 + hour) * 60 + minute - t.minuteNumber - 1) % 10080 + 1).toNat,
      by omega, by omega, by omega⟩
  have hlater : t.minuteNumber + n ≤ fin.minuteNumber := by omega
  obtain ⟨u, hwhole, hu⟩ := Instant.exists_whole_later hlater
  obtain ⟨huh, hum, -, -⟩ := u.valid
  have htime : u.minuteNumber = (u.date.dayNumber * 24 + u.hour) * 60 + u.minute := rfl
  have hday : u.date.weekday = (u.date.dayNumber % 7).toNat := rfl
  exact ⟨u, ⟨hwhole, by omega, by omega, by omega⟩, by omega, by omega⟩

namespace Schedule

variable {e : Expression} {s : Schedule} {weekDay : Nat} {t fin : Instant}

/-- A schedule that takes all days of all months and some day of the week runs in every week. -/
theorem IsReadingOf.exists_weekly_run (h : s.IsReadingOf e) (hday : s.dayOfMonth = .any)
    (hmonth : s.month = .any) (hlt : weekDay < 7) (hweek : s.TakesWeekDay weekDay)
    (hfin : t.minuteNumber + 10080 ≤ fin.minuteNumber) :
    ∃ u : Instant, (u.IsWhole ∧ s.runsAt u = true) ∧ t.minuteNumber < u.minuteNumber ∧
      u.minuteNumber ≤ t.minuteNumber + 10080 := by
  obtain ⟨hour, hh, minute, hm, hhour, hminute⟩ := h.exists_clock
  obtain ⟨u, ⟨hwhole, rfl, rfl, rfl⟩, hnext⟩ := Instant.exists_next_weekly hlt hh hm hfin
  have htakes : s.TakesDay u.date.month u.date.day := by
    rw [TakesDay, hday, hmonth]
    exact ⟨rfl, rfl⟩
  exact ⟨u, ⟨hwhole, runsAt_of_takes hhour hminute htakes hweek⟩, hnext⟩

/-- So it has a run for each of a number of weeks, as long as the calendar does not end. -/
theorem IsReadingOf.le_length_runs (h : s.IsReadingOf e) (hday : s.dayOfMonth = .any)
    (hmonth : s.month = .any) (hlt : weekDay < 7) (hweek : s.TakesWeekDay weekDay)
    (ht : t.IsWhole) (weeks : Nat) (hfin : t.minuteNumber + 10080 * weeks ≤ fin.minuteNumber) :
    weeks ≤ ((minutesAfter (10080 * weeks) t).filter s.runsAt).length := by
  -- one week after the other is cut off in front, so the start moves on
  induction weeks generalizing t with
  | zero => exact Nat.zero_le _
  | succ weeks ih =>
    have hweekEnd : t.minuteNumber + (10080 : Nat) ≤ fin.minuteNumber := by omega
    obtain ⟨v, hvwhole, hv⟩ := Instant.exists_whole_later hweekEnd
    obtain ⟨u, ⟨hwhole, hrun⟩, hltu, hleu⟩ := h.exists_weekly_run hday hmonth hlt hweek hweekEnd
    have hfirst : 0 < ((minutesAfter 10080 t).filter s.runsAt).length := by
      refine List.length_pos_of_mem (List.mem_filter.mpr ⟨?_, hrun⟩)
      exact ((isStretch_minutesAfter 10080 ht).mem_iff u).mpr ⟨hwhole, hltu, hleu⟩
    have hothers := ih hvwhole (by omega)
    have hcut : minutesAfter (10080 * (weeks + 1)) t =
        minutesAfter 10080 t ++ minutesAfter (10080 * weeks) v := by
      rw [Nat.mul_succ, Nat.add_comm (10080 * weeks)]
      exact minutesAfter_add _ ht hvwhole hv
    rw [hcut, List.filter_append, List.length_append]
    omega

end Schedule

namespace Preview

/-- A preview that looks at as many weeks as it wants runs is full. -/
theorem length_runsAfter_of_weekly {line : String} {e : Expression} {s : Schedule}
    (hs : Schedule.ofLine line = .ok s) (he : s.IsReadingOf e) (hday : s.dayOfMonth = .any)
    (hmonth : s.month = .any) {weekDay : Nat} (hlt : weekDay < 7)
    (hweek : s.TakesWeekDay weekDay) {start fin : Instant} {horizon : UInt32} {count : UInt64}
    (hfin : start.minuteNumber + horizon.toNat ≤ fin.minuteNumber)
    (hcount : count.toNat ≤ horizon.toNat / 10080) :
    (runsAfter horizon line start count).length = count.toNat := by
  have hweeks : 10080 * count.toNat ≤ horizon.toNat := by omega
  have hend : start.startOfMinute.minuteNumber + 10080 * count.toNat ≤ fin.minuteNumber := by
    have hstart : start.startOfMinute.minuteNumber = start.minuteNumber := rfl
    omega
  have hfound :=
    he.le_length_runs hday hmonth hlt hweek start.isWhole_startOfMinute count.toNat hend
  have hmore := ((minutesAfter_prefix_of_le start.startOfMinute hweeks).filter s.runsAt).length_le
  rw [runsAfter_eq_of_ofLine hs, List.length_take]
  omega

/-- The preview has as many runs as were asked for. -/
structure IsFull (s : Schedule) (start : Instant) (count : Nat) (runs : List Instant) : Prop where
  length_eq : runs.length = count
  /-- Each of them is a minute at which the schedule runs, ... -/
  runsAt : ∀ t ∈ runs, t.IsWhole ∧ s.runsAt t = true
  /-- ... and comes after the start. -/
  start_lt : ∀ t ∈ runs, start < t
  /-- No two of them are the same. -/
  ascending : runs.Pairwise (· < ·)

/-- The next runs are full if there are enough of them. -/
theorem AreNextRuns.isFull {s : Schedule} {start : Instant} {horizon count : Nat}
    {runs : List Instant} (h : AreNextRuns s.runsAt start horizon count runs)
    (hlength : runs.length = count) : IsFull s start count runs where
  length_eq := hlength
  runsAt t ht := ⟨h.isWhole t ht, h.holds_of_mem ht⟩
  start_lt := h.start_lt
  ascending := h.ascending

/-- **A weekly schedule fills its preview.**  The schedule takes all days of all months, and some
day of the week or the Sundays that the text `7` adds.  A preview shows as many of its runs as it
was asked for, if there are no more of them than whole weeks among the minutes it looks at and the
calendar does not end before.  By default it looks at 52 weeks and a day. -/
theorem weekly_runs_fill {line : String} {e : Expression} {s : Schedule}
    (hline : Expression.ofLine line = .ok e) (hs : Schedule.ofExpression e = .ok s)
    (hday : s.dayOfMonth = .any) (hmonth : s.month = .any)
    (hweek : e.dayOfWeek = "7" ∨ ∃ weekDay ≤ 6, s.dayOfWeek.holds weekDay.toUInt32 = true)
    (start : Instant) :
    (∀ (horizon : UInt32) (count : UInt64) (fin : Instant),
      fin.minuteNumber = start.minuteNumber + horizon.toNat →
        count.toNat ≤ horizon.toNat / 10080 →
          IsFull s start count.toNat (runsAfter horizon line start count)) ∧
    ∀ (count : UInt64) (fin : Instant), fin.minuteNumber = start.minuteNumber + 525600 →
      count.toNat ≤ 52 →
        IsFull s start count.toNat (runsAfter ({} : Limits).horizon line start count) := by
  have hread := Schedule.ofExpression_eq_ok_iff.mp hs
  have hofLine := Schedule.ofLine_eq_ok_iff.mpr ⟨e, hline, hs⟩
  obtain ⟨weekDay, hle, htakes⟩ : ∃ weekDay ≤ 6, s.TakesWeekDay weekDay := by
    rcases hweek with hseven | ⟨weekDay, hle, hholds⟩
    · have hsunday : s.alsoSunday = true := by rw [hread.alsoSunday, beq_iff_eq, hseven]
      exact ⟨0, Nat.zero_le 6, Or.inr ⟨rfl, hsunday⟩⟩
    · exact ⟨weekDay, hle, Or.inl hholds⟩
  have hfill : ∀ (horizon : UInt32) (count : UInt64) (fin : Instant),
      fin.minuteNumber = start.minuteNumber + horizon.toNat →
        count.toNat ≤ horizon.toNat / 10080 →
          IsFull s start count.toNat (runsAfter horizon line start count) := by
    intro horizon count fin hfin hcount
    refine (areNextRuns_of_ofLine hofLine horizon start count).isFull ?_
    exact length_runsAfter_of_weekly hofLine hread hday hmonth (by omega) htakes
      (Int.le_of_eq hfin.symm) hcount
  refine ⟨hfill, fun count fin hfin hcount => ?_⟩
  exact hfill 525600 count fin hfin hcount

/-- Sundays at six, from the leap second at the end of a year on, which is a Sunday itself: two of
them in two weeks, and 52 by default. -/
theorem weekly_runs_fill_sundays :
    let e : Expression := ⟨"0", "+06", "*", "*", "7"⟩
    let s : Schedule := ⟨.single 0, .single 6, .any, .any, .single 7, true⟩
    let start : Instant := ⟨⟨2023, 12, 31, by decide⟩, 23, 59, 59, 1500000000, by decide⟩
    Expression.ofLine "0 +06 * * 7" = .ok e ∧ Schedule.ofExpression e = .ok s ∧
      IsFull s start 2 (runsAfter 20160 "0 +06 * * 7" start 2) ∧
      IsFull s start 52 (runsAfter ({} : Limits).horizon "0 +06 * * 7" start 52) := by
  intro e s start
  have hline : Expression.ofLine "0 +06 * * 7" = .ok e := by decide +kernel
  have hs : Schedule.ofExpression e = .ok s := by decide +kernel
  have hfill := weekly_runs_fill hline hs rfl rfl (Or.inl rfl) start
  refine ⟨hline, hs, ?_, ?_⟩
  · exact hfill.1 20160 2 ⟨⟨2024, 1, 14, by decide⟩, 23, 59, 0, 0, by decide⟩ (by decide)
      (by decide)
  · exact hfill.2 52 ⟨⟨2024, 12, 30, by decide⟩, 23, 59, 0, 0, by decide⟩ (by decide) (by decide)

end Preview
end Cron
