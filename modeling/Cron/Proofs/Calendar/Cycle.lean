import Cron.Proofs.Calendar.MinuteLine

/-! # The cycle of 400 years

The rule for leap years is the same again after 400 years.  These have 146097 days, which are
whole weeks, so the calendar repeats itself with all its week days: the date that is so many
days later has the same month, the same day and the same day of the week
(`Date.exists_cycles_later`).

The calendar is finite, so a date need not have a counterpart in every cycle.  It has one where
the number that the counterpart would have lies between those of two dates.
-/
namespace Cron.Calendar

/-! ## Years -/

theorem isLeap_add_cycles (y k : Int) : isLeap (y + 400 * k) = isLeap y := by
  have h4 : (y + 400 * k) % 4 = y % 4 := by omega
  have h100 : (y + 400 * k) % 100 = y % 100 := by omega
  have h400 : (y + 400 * k) % 400 = y % 400 := by omega
  rw [isLeap, isLeap, h4, h100, h400]

theorem monthLength_add_cycles (y k : Int) (m : Nat) :
    monthLength (y + 400 * k) m = monthLength y m := by
  simp only [monthLength, isLeap_add_cycles]

theorem daysBeforeMonth_add_cycles (y k : Int) (m : Nat) :
    daysBeforeMonth (y + 400 * k) m = daysBeforeMonth y m := by
  induction m with
  | zero => rfl
  | succ m ih =>
    rcases Nat.eq_zero_or_pos m with rfl | hpos
    · rfl
    · rw [daysBeforeMonth_succ _ hpos, daysBeforeMonth_succ _ hpos, ih, monthLength_add_cycles]

/-- 400 years have 146097 days. -/
theorem daysBeforeYear_add_cycles (y k : Int) :
    daysBeforeYear (y + 400 * k) = daysBeforeYear y + 146097 * k := by
  unfold daysBeforeYear
  omega

/-! ## Dates -/

namespace Date

variable {t u : Date} {n : Nat}

/-- The date a number of days later, if the calendar has not ended. -/
def later? : Nat → Date → Option Date
  | 0, t => some t
  | n + 1, t => t.next?.bind (later? n)

/-- The date so many days later is the one whose number is so much greater. -/
theorem later?_eq_some_iff : t.later? n = some u ↔ u.dayNumber = t.dayNumber + n := by
  induction n generalizing t with
  | zero =>
    rw [later?, Option.some.injEq, Int.natCast_zero, Int.add_zero]
    constructor
    · rintro rfl
      rfl
    · exact fun h => eq_of_dayNumber_eq h.symm
  | succ n ih =>
    rw [later?]
    cases hn : t.next? with
    | none =>
      have hlast := dayNumber_le_of_next? hn u
      simp only [Option.bind_none, reduceCtorEq, false_iff]
      omega
    | some v =>
      have hv := dayNumber_of_next? hn
      rw [Option.bind_some, ih]
      omega

/-- A whole number of cycles away from a date there is one with the same month, day and day of
the week, if its number lies between those of two dates. -/
theorem exists_cycles_later (t first last : Date) (k : Int)
    (hfirst : first.dayNumber ≤ t.dayNumber + 146097 * k)
    (hlast : t.dayNumber + 146097 * k ≤ last.dayNumber) :
    ∃ u : Date, u.dayNumber = t.dayNumber + 146097 * k ∧ u.month = t.month ∧ u.day = t.day ∧
      u.weekday = t.weekday := by
  obtain ⟨-, -, hm1, hm12, hd1, hd⟩ := t.valid
  have hnumber : civilNumber (t.year + 400 * k) t.month t.day = t.dayNumber + 146097 * k := by
    rw [civilNumber, daysBeforeMonth_add_cycles, daysBeforeYear_add_cycles, dayNumber]
    omega
  have hlen : t.day ≤ monthLength (t.year + 400 * k) t.month := by
    rwa [monthLength_add_cycles]
  obtain ⟨u, -, hmonth, hday, hu⟩ :=
    exists_of_between first last hm1 hm12 hd1 hlen (hnumber ▸ hfirst) (hnumber ▸ hlast)
  refine ⟨u, hu.trans hnumber, hmonth, hday, ?_⟩
  rw [weekday, weekday, hu, hnumber]
  omega

end Date

/-! ## Instants -/

namespace Instant

variable {t u : Instant}

/-- The same time of day a number of days later, if the calendar has not ended. -/
def daysLater? (n : Nat) (t : Instant) : Option Instant :=
  (t.date.later? n).map fun d => ⟨d, t.hour, t.minute, t.second, t.nanosecond, t.valid⟩

theorem daysLater?_eq_some {n : Nat} {d : Date} (h : d.dayNumber = t.date.dayNumber + n) :
    t.daysLater? n = some ⟨d, t.hour, t.minute, t.second, t.nanosecond, t.valid⟩ := by
  rw [daysLater?, Date.later?_eq_some_iff.mpr h]
  rfl

theorem value_eq_of_date {d : Date} {second nanosecond : Nat}
    (hvalid : Valid t.hour t.minute second nanosecond) (hmonth : d.month = t.date.month)
    (hday : d.day = t.date.day) (hweek : d.weekday = t.date.weekday) (f : Field) :
    value ⟨d, t.hour, t.minute, second, nanosecond, hvalid⟩ f = t.value f := by
  cases f <;> simp only [value, hmonth, hday, hweek]

/-- After a cycle all fields look at the same numbers. -/
theorem value_of_daysLater? (h : t.daysLater? 146097 = some u) (f : Field) :
    u.value f = t.value f := by
  obtain ⟨d, hd, rfl⟩ := Option.map_eq_some_iff.mp h
  have hnumber := Date.later?_eq_some_iff.mp hd
  obtain ⟨v, hv, hmonth, hday, hweek⟩ :=
    t.date.exists_cycles_later t.date d 1 (by omega) (by omega)
  obtain rfl : v = d := Date.eq_of_dayNumber_eq (by omega)
  exact value_eq_of_date _ hmonth hday hweek f

/-- Every instant has a counterpart among the whole minutes of the cycle after a start, if the
calendar does not end within that cycle. -/
theorem exists_whole_in_cycle (t : Instant) {start fin : Instant}
    (h : start.daysLater? 146097 = some fin) :
    ∃ u : Instant, u.IsWhole ∧ start.minuteNumber < u.minuteNumber ∧
      u.minuteNumber ≤ start.minuteNumber + 146097 * 1440 ∧ ∀ f, u.value f = t.value f := by
  obtain ⟨last, hlast, -⟩ := Option.map_eq_some_iff.mp h
  have hnumber := Date.later?_eq_some_iff.mp hlast
  obtain ⟨hh, hm, -, -⟩ := t.valid
  obtain ⟨hsh, hsm, -, -⟩ := start.valid
  -- the greatest number of cycles that leads no further than one cycle behind the start
  obtain ⟨k, hlt, hle⟩ : ∃ k : Int, start.minuteNumber < t.minuteNumber + 146097 * 1440 * k ∧
      t.minuteNumber + 146097 * 1440 * k ≤ start.minuteNumber + 146097 * 1440 :=
    ⟨(start.minuteNumber + 146097 * 1440 - t.minuteNumber) / (146097 * 1440), by omega, by omega⟩
  simp only [minuteNumber] at hlt hle ⊢
  obtain ⟨d, hd, hmonth, hday, hweek⟩ :=
    t.date.exists_cycles_later start.date last k (by omega) (by omega)
  have hvalid : Valid t.hour t.minute 0 0 := ⟨hh, hm, by decide, by decide⟩
  refine ⟨⟨d, t.hour, t.minute, 0, 0, hvalid⟩, ⟨rfl, rfl⟩, ?_, ?_,
    value_eq_of_date hvalid hmonth hday hweek⟩
  · simp only [hd]
    omega
  · simp only [hd]
    omega

end Instant
end Cron.Calendar
