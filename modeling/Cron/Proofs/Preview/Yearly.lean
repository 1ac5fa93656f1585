import Cron.Proofs.Calendar.YearlyDay
import Cron.Proofs.Preview.NextRuns
import Cron.Proofs.Schedule.Dead

/-! # Previews of yearly schedules

A schedule that takes a day which every year has, and every day of the week, runs in every year.
The next run is at most 366 days away, so a preview that looks at as many days is not empty.  By
default it looks at 365 days only.  That is enough unless one of them is a leap day
(`yearly_run_found`), and with a leap day among them it may fail.
-/
namespace Cron

open Calendar (Instant IsYearlyDay civilNumber isLeap spannedYear)
open Calendar.Instant (minutesAfter isStretch_startOfMinute)

/-- A run of the schedule comes within 366 days, and within 365 days if there is no leap day among
them. -/
theorem Schedule.IsReadingOf.exists_next_run {e : Expression} {s : Schedule} (h : s.IsReadingOf e)
    (hweek : ∀ weekDay ≤ 6, s.dayOfWeek.holds weekDay.toUInt32 = true) {month day : Nat}
    (hyearly : IsYearlyDay month day) (hday : s.TakesDay month day) {t fin : Instant}
    (hfin : t.daysLater? 366 = some fin) :
    ∃ u : Instant, (u.IsWhole ∧ s.runsAt u = true) ∧ t.minuteNumber < u.minuteNumber ∧
      u.minuteNumber ≤ t.minuteNumber + 366 * 1440 ∧
      (u.minuteNumber ≤ t.minuteNumber + 365 * 1440 ∨ t.MeetsLeapDay) := by
  obtain ⟨hour, hh, minute, hm, hhour, hminute⟩ := h.exists_clock
  obtain ⟨u, ⟨hwhole, rfl, rfl, rfl, rfl⟩, hnext⟩ :=
    Instant.exists_next_yearly hyearly hh hm hfin
  have hlt := u.date.weekday_lt
  have htakes : s.TakesWeekDay u.date.weekday := Or.inl (hweek _ (by omega))
  exact ⟨u, ⟨hwhole, Schedule.runsAt_of_takes hhour hminute hday htakes⟩, hnext⟩

namespace Preview

/-- A preview is not empty if a run is among the minutes it looks at. -/
theorem runsAfter_ne_nil {line : String} {s : Schedule} (h : Schedule.ofLine line = .ok s)
    {horizon : UInt32} {start u : Instant} {count : UInt64} (hcount : 1 ≤ count)
    (hwhole : u.IsWhole) (hrun : s.runsAt u = true) (hlt : start.minuteNumber < u.minuteNumber)
    (hle : u.minuteNumber ≤ start.minuteNumber + horizon.toNat) :
    runsAfter horizon line start count ≠ [] := by
  intro hnil
  have hrest := (runsAfter_eq_nil_iff h horizon start hcount).mp hnil u hwhole hlt hle
  exact Bool.false_ne_true (hrest.symm.trans hrun)

/-- The default does not reach the next run of a single time on a single day of the year, from an
earlier time on the day after, if a leap day comes first. -/
theorem runsAfter_eq_nil_of_spans_leapDay {line : String} {minute hour day month : UInt32}
    {week : Pattern} {sunday : Bool}
    (h : Schedule.ofLine line =
      .ok ⟨.single minute, .single hour, .single day, .single month, week, sunday⟩)
    {y : Int} (hleap : isLeap (spannedYear y month.toNat) = true) {start : Instant}
    (hday : start.date.dayNumber = civilNumber y month.toNat day.toNat + 1)
    (htime : start.hour * 60 + start.minute < hour.toNat * 60 + minute.toNat) (count : UInt64) :
    runsAfter ({} : Limits).horizon line start count = [] := by
  rw [runsAfter_eq_of_ofLine h, List.filter_eq_nil_iff.mpr, List.take_nil]
  intro u hu hrun
  obtain ⟨-, hlt, hle⟩ := ((isStretch_startOfMinute _ _).mem_iff u).mp hu
  have hminute := Schedule.toNat_value_of_single (f := .minute) (by decide) rfl hrun
  have hhour := Schedule.toNat_value_of_single (f := .hour) (by decide) rfl hrun
  have hday' := Schedule.toNat_value_of_single (f := .dayOfMonth) (by decide) rfl hrun
  have hmonth := Schedule.toNat_value_of_single (f := .month) (by decide) rfl hrun
  rw [Instant.toNat_value] at hminute hhour hday' hmonth
  rw [← hmonth] at hleap hday
  rw [← hday'] at hday
  rw [← hhour, ← hminute] at htime
  have hfar := Instant.lt_of_spans_leapDay hleap hday htime hlt
  exact absurd hle (Int.not_le.mpr hfar)

/-- Noon of the last day of May. -/
theorem ofLine_endOfMay : Schedule.ofLine "0 12 31 5 *" =
    .ok ⟨.single 0, .single 12, .single 31, .single 5, .any, false⟩ := by decide +kernel

/-- **A year and a day are enough for a schedule that runs every year, and the default is not.**
The schedule takes all days of the week and some day of the year other than February 29; the
fields of the time of day always leave a time.  A preview over 366 days that does not meet the end
of the calendar finds a run, and one over the default of 365 days finds one if none of its minutes
belongs to a leap day.  With a leap day it may find none. -/
theorem yearly_run_found :
    (∀ (line : String) (s : Schedule), Schedule.ofLine line = .ok s →
      (∀ weekDay ≤ 6, s.dayOfWeek.holds weekDay.toUInt32 = true) →
      ∀ month day, IsYearlyDay month day → s.month.holds month.toUInt32 = true →
        s.dayOfMonth.holds day.toUInt32 = true →
      ∀ (start fin : Instant) (count : UInt64), start.daysLater? 366 = some fin → 1 ≤ count →
        (∀ horizon : UInt32, 366 * 1440 ≤ horizon.toNat →
          runsAfter horizon line start count ≠ []) ∧
        ((∀ u ∈ minutesAfter 525600 start.startOfMinute, ¬ u.date.IsLeapDay) →
          runsAfter ({} : Limits).horizon line start count ≠ [])) ∧
    ∃ s, Schedule.ofLine "0 12 31 5 *" = .ok s ∧
      s.runsAt ⟨⟨2028, 5, 31, by decide⟩, 12, 0, 0, 0, by decide⟩ = true ∧
      ∀ count, runsAfter ({} : Limits).horizon "0 12 31 5 *"
        ⟨⟨2027, 6, 1, by decide⟩, 0, 0, 0, 0, by decide⟩ count = [] := by
  constructor
  · intro line s hs hweek month day hyearly hmonth hday start fin count hfin hcount
    obtain ⟨e, -, he⟩ := Schedule.ofLine_eq_ok_iff.mp hs
    obtain ⟨u, ⟨hwhole, hrun⟩, hlt, hle, hnear⟩ :=
      (Schedule.ofExpression_eq_ok_iff.mp he).exists_next_run hweek hyearly ⟨hmonth, hday⟩ hfin
    refine ⟨fun horizon hhorizon => ?_, fun hnone => ?_⟩
    · exact runsAfter_ne_nil hs hcount hwhole hrun hlt (by omega)
    · rcases hnear with hnear | ⟨v, hvwhole, hleap, hvlt, hvle⟩
      · exact runsAfter_ne_nil hs hcount hwhole hrun hlt hnear
      · have hmem := ((isStretch_startOfMinute 525600 start).mem_iff v).mpr
          ⟨hvwhole, hvlt, hvle⟩
        exact absurd hleap (hnone v hmem)
  · exact ⟨_, ofLine_endOfMay, by decide +kernel,
      runsAfter_eq_nil_of_spans_leapDay ofLine_endOfMay (y := 2027) (by decide) (by decide)
        (by decide)⟩

/-- From June 1 on, the next last of May is found within 366 days, and within the default if the
years have no leap day. -/
theorem yearly_run_found_endOfMay :
    runsAfter 527040 "0 12 31 5 *" ⟨⟨2027, 6, 1, by decide⟩, 0, 0, 0, 0, by decide⟩ 1 ≠ [] ∧
      runsAfter ({} : Limits).horizon "0 12 31 5 *"
        ⟨⟨2025, 6, 1, by decide⟩, 0, 0, 0, 0, by decide⟩ 1 ≠ [] := by
  have hfound := yearly_run_found.1 _ _ ofLine_endOfMay (fun _ _ => rfl) 5 31 ⟨by decide, by decide⟩
    (by decide) (by decide)
  constructor
  · have hfin := Instant.daysLater?_eq_some (n := 366)
      (t := ⟨⟨2027, 6, 1, by decide⟩, 0, 0, 0, 0, by decide⟩)
      (d := ⟨2028, 6, 1, by decide⟩) (by decide)
    exact (hfound _ _ 1 hfin (by decide)).1 527040 (by decide)
  · have hfin := Instant.daysLater?_eq_some (n := 366)
      (t := ⟨⟨2025, 6, 1, by decide⟩, 0, 0, 0, 0, by decide⟩)
      (d := ⟨2026, 6, 2, by decide⟩) (by decide)
    refine (hfound _ _ 1 hfin (by decide)).2 fun u hu hleap => ?_
    obtain ⟨-, hlt, hle⟩ := ((isStretch_startOfMinute _ _).mem_iff u).mp hu
    have hfirst := Instant.year_le_of_minuteNumber_le (Int.le_of_lt hlt)
    have hlast := Instant.year_le_of_minuteNumber_le
      (u := ⟨⟨2026, 6, 1, by decide⟩, 0, 0, 0, 0, by decide⟩)
      (Int.le_trans hle (by decide))
    change 2025 ≤ u.date.year at hfirst
    change u.date.year ≤ 2026 at hlast
    obtain hyear | hyear : u.date.year = 2025 ∨ u.date.year = 2026 := by omega
    · exact absurd hleap.isLeap (by rw [hyear]; decide)
    · exact absurd hleap.isLeap (by rw [hyear]; decide)

end Preview
end Cron
