import Cron.Proofs.Calendar.WeekDays
import Cron.Proofs.Pattern.Numbers
import Cron.Proofs.Schedule.Reading

/-! # Dead schedules

Every field of an expression is checked by itself, so an expression may compile and still have
no run, such as `0 0 30 2 *`.  It is dead only if no day of the year satisfies the fields of the
month and its day (`TakesDay`), or no day of the week satisfies its own (`TakesWeekDay`).

The other ways to be dead do not exist.  The fields of the time of day may hold a zero, and such
a field never accepts a text without numbers.  And a day of the year and a day of the week meet
in some year, February 29 included.
-/
namespace Cron.Schedule

open Calendar (Date Instant IsDayOfYear)

variable {e : Expression} {s : Schedule}

/-- Whether the day of the year satisfies the fields of the month and of its day. -/
def TakesDay (s : Schedule) (month day : Nat) : Prop :=
  s.month.holds month.toUInt32 = true ∧ s.dayOfMonth.holds day.toUInt32 = true

/-- Whether the day of the week satisfies its field, or is the Sunday that is added. -/
def TakesWeekDay (s : Schedule) (weekDay : Nat) : Prop :=
  s.dayOfWeek.holds weekDay.toUInt32 = true ∨ weekDay = 0 ∧ s.alsoSunday = true

/-- A run takes its day of the year and its day of the week. -/
theorem takes_of_runsAt {t : Instant} (h : s.runsAt t = true) :
    s.TakesDay t.date.month t.date.day ∧ s.TakesWeekDay t.date.weekday := by
  obtain ⟨hfields, hweek⟩ := runsAt_iff.mp h
  exact ⟨⟨hfields .month (by decide), hfields .dayOfMonth (by decide)⟩, hweek⟩

/-- The time of day never keeps a schedule from running. -/
theorem IsReadingOf.exists_clock (h : s.IsReadingOf e) :
    ∃ hour < 24, ∃ minute < 60,
      s.hour.holds hour.toUInt32 = true ∧ s.minute.holds minute.toUInt32 = true := by
  obtain ⟨hour, hhour, hholds⟩ := Field.exists_holds_of_read (h.read_get .hour) (by decide)
  obtain ⟨minute, hminute, hholds'⟩ := Field.exists_holds_of_read (h.read_get .minute) (by decide)
  have hle : hour.toNat ≤ 23 := (Bounds.contains_iff.mp hhour).2
  have hle' : minute.toNat ≤ 59 := (Bounds.contains_iff.mp hminute).2
  refine ⟨hour.toNat, by omega, minute.toNat, by omega, ?_⟩
  rw [Nat.toUInt32_eq, Nat.toUInt32_eq, UInt32.ofNat_toNat, UInt32.ofNat_toNat]
  exact ⟨hholds, hholds'⟩

/-- An instant whose time of day, day of the year and day of the week are taken is a run. -/
theorem runsAt_of_takes {t : Instant} (hhour : s.hour.holds t.hour.toUInt32 = true)
    (hminute : s.minute.holds t.minute.toUInt32 = true) (hday : s.TakesDay t.date.month t.date.day)
    (hweek : s.TakesWeekDay t.date.weekday) : s.runsAt t = true := by
  refine runsAt_iff.mpr ⟨fun f hf => ?_, hweek⟩
  cases f with
  | minute => exact hminute
  | hour => exact hhour
  | dayOfMonth => exact hday.2
  | month => exact hday.1
  | dayOfWeek => exact absurd rfl hf

/-- On a date whose days of the year and of the week are taken, the schedule runs at some
time. -/
theorem IsReadingOf.exists_run_on (h : s.IsReadingOf e) {d : Date}
    (hday : s.TakesDay d.month d.day) (hweek : s.TakesWeekDay d.weekday) :
    ∃ t : Instant, t.date = d ∧ s.runsAt t = true := by
  obtain ⟨hour, hh, minute, hm, hhour, hminute⟩ := h.exists_clock
  exact ⟨⟨d, hour, minute, 0, 0, ⟨hh, hm, by decide, by decide⟩⟩, rfl,
    runsAt_of_takes hhour hminute hday hweek⟩

/-- Any day of the year that is taken and any day of the week that is taken meet in a run. -/
theorem IsReadingOf.exists_run_on_days (h : s.IsReadingOf e) {month day weekDay : Nat}
    (hyear : IsDayOfYear month day) (hlt : weekDay < 7) (hday : s.TakesDay month day)
    (hweek : s.TakesWeekDay weekDay) :
    ∃ t, s.runsAt t = true ∧ t.date.month = month ∧ t.date.day = day ∧
      t.date.weekday = weekDay := by
  obtain ⟨d, rfl, rfl, rfl⟩ := Date.exists_of_weekDay hyear hlt
  obtain ⟨t, rfl, ht⟩ := h.exists_run_on hday hweek
  exact ⟨t, ht, rfl, rfl, rfl⟩

/-- **What keeps a schedule from ever running.**  It has a run if and only if some day of the
year satisfies the fields of the month and of its day, and some day of the week satisfies its
field or the text of that field is `7`.  The fields of the time of day always leave a time, and
every day of the year that is taken has a run on every day of the week that is. -/
theorem exists_run_iff (h : ofExpression e = .ok s) :
    ((∃ t, s.runsAt t = true) ↔
      (∃ month day, IsDayOfYear month day ∧ s.month.holds month.toUInt32 = true ∧
        s.dayOfMonth.holds day.toUInt32 = true) ∧
      ((∃ weekDay ≤ 6, s.dayOfWeek.holds weekDay.toUInt32 = true) ∨ e.dayOfWeek = "7")) ∧
    (∃ hour < 24, ∃ minute < 60,
      s.hour.holds hour.toUInt32 = true ∧ s.minute.holds minute.toUInt32 = true) ∧
    ∀ month day weekDay, IsDayOfYear month day → weekDay ≤ 6 → s.TakesDay month day →
      s.TakesWeekDay weekDay → ∃ t, s.runsAt t = true ∧ t.date.month = month ∧
        t.date.day = day ∧ t.date.weekday = weekDay := by
  have hread := ofExpression_eq_ok_iff.mp h
  have hseven : s.alsoSunday = true ↔ e.dayOfWeek = "7" := by
    rw [hread.alsoSunday, beq_iff_eq]
  refine ⟨⟨?_, ?_⟩, hread.exists_clock, fun month day weekDay hyear hle =>
    hread.exists_run_on_days hyear (by omega)⟩
  · rintro ⟨t, ht⟩
    obtain ⟨hday, hweek⟩ := takes_of_runsAt ht
    have hlt := t.date.weekday_lt
    refine ⟨⟨_, _, t.date.isDayOfYear, hday⟩, ?_⟩
    rcases hweek with hholds | ⟨-, hsunday⟩
    · exact Or.inl ⟨_, by omega, hholds⟩
    · exact Or.inr (hseven.mp hsunday)
  · rintro ⟨⟨month, day, hyear, hday⟩, hweek⟩
    obtain ⟨weekDay, hle, htakes⟩ : ∃ weekDay ≤ 6, s.TakesWeekDay weekDay := by
      rcases hweek with ⟨weekDay, hle, hholds⟩ | htext
      · exact ⟨weekDay, hle, Or.inl hholds⟩
      · exact ⟨0, by decide, Or.inr ⟨rfl, hseven.mpr htext⟩⟩
    obtain ⟨t, ht, -⟩ := hread.exists_run_on_days hyear (by omega) hday htakes
    exact ⟨t, ht⟩

/-- Steps that leave one hour and one minute, on a February 29 that is a Monday. -/
theorem exists_run_iff_leap_monday :
    let e : Expression := ⟨"*/70", "*/25", "29", "2", "1"⟩
    let s : Schedule := ⟨.step .any 70, .step .any 25, .single 29, .single 2, .single 1, false⟩
    ofExpression e = .ok s ∧ ∃ t, s.runsAt t = true := by
  intro e s
  have h : ofExpression e = .ok s := by decide +kernel
  have hyear : IsDayOfYear 2 29 := ⟨by decide, by decide, by decide, by decide⟩
  exact ⟨h, (exists_run_iff h).1.mpr
    ⟨⟨2, 29, hyear, by decide, by decide⟩, Or.inl ⟨1, by decide, by decide⟩⟩⟩

end Cron.Schedule
