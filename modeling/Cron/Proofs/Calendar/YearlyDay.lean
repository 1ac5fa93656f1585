import Cron.Proofs.Calendar.Cycle
import Cron.Proofs.Calendar.WeekDays

/-! # The return of a day

Every day of the year but February 29 comes in every year.  Until it comes again there are as many
days as the year has whose end of February lies between, which may be the year of the one day or of
the other (`civilNumber_succ`).  If these are 366 days, the leap day itself lies between
(`leapDay_between`).

So a day and a time of day come within the 366 days after any instant, and within the 365 days
after it unless there is a leap day among them (`Instant.exists_next_yearly`).
-/
namespace Cron.Calendar

/-- A day that every year has. -/
def IsYearlyDay (month day : Nat) : Prop := IsDayOfYear month day ∧ ¬ (month = 2 ∧ day = 29)

/-- February 29. -/
def Date.IsLeapDay (t : Date) : Prop := t.month = 2 ∧ t.day = 29

/-- The year whose end of February lies between a day of the month in one year and in the next. -/
def spannedYear (y : Int) (month : Nat) : Int := if month ≤ 2 then y else y + 1

variable {y : Int} {m d : Nat}

theorem IsYearlyDay.le_monthLength (h : IsYearlyDay m d) (y : Int) : d ≤ monthLength y m := by
  obtain ⟨⟨-, -, -, hd⟩, hne⟩ := h
  rw [monthLength_eq]
  split
  · rename_i hfeb
    obtain ⟨rfl, -⟩ := hfeb
    change d ≤ 29 at hd
    omega
  · exact hd

/-- Only leap years have a leap day. -/
theorem Date.IsLeapDay.isLeap {t : Date} (h : t.IsLeapDay) : isLeap t.year = true := by
  obtain ⟨-, -, -, -, -, hd⟩ := t.valid
  rw [h.1, h.2] at hd
  refine eq_true_of_ne_false fun hcommon => ?_
  simp [monthLength, hcommon] at hd

/-! ## From year to year -/

/-- From March on, the days that are left of a year do not depend on the year. -/
theorem daysBeforeMonth_add_yearLength (y z : Int) (hm : 3 ≤ m) :
    daysBeforeMonth y m + yearLength z = daysBeforeMonth z m + yearLength y := by
  obtain ⟨k, rfl⟩ := Nat.exists_eq_add_of_le hm
  clear hm
  induction k with
  | zero =>
    simp only [daysBeforeMonth, monthLength, yearLength]
    split <;> split <;> rfl
  | succ k ih =>
    have hlen : monthLength y (3 + k) = monthLength z (3 + k) := by
      rw [monthLength_eq, monthLength_eq, if_neg (by omega), if_neg (by omega)]
    rw [← Nat.add_assoc, daysBeforeMonth_succ _ (by omega), daysBeforeMonth_succ _ (by omega), hlen]
    omega

/-- A day comes again after as many days as the year has whose end of February lies between. -/
theorem civilNumber_succ (hm : 1 ≤ m) :
    civilNumber (y + 1) m d = civilNumber y m d + yearLength (spannedYear y m) := by
  rw [civilNumber, civilNumber, daysBeforeYear_succ]
  unfold spannedYear
  split
  · -- up to February the days before the month are the same in all years
    rename_i hle
    obtain rfl | rfl : m = 1 ∨ m = 2 := by omega
    · simp only [daysBeforeMonth]
      omega
    · simp only [daysBeforeMonth, monthLength]
      omega
  · have hrest := daysBeforeMonth_add_yearLength y (y + 1) (show 3 ≤ m by omega)
    omega

/-- A day comes later in later years. -/
theorem civilNumber_mono (hm : 1 ≤ m) {z : Int} (h : y ≤ z) :
    civilNumber y m d ≤ civilNumber z m d := by
  obtain ⟨k, rfl⟩ := Int.le.dest h
  clear h
  induction k with
  | zero => simp
  | succ k ih =>
    have hsucc := civilNumber_succ (y := y + k) (d := d) hm
    rw [Int.natCast_succ, ← Int.add_assoc]
    omega

/-- A date that comes after its day in one year does not come before that day in the next. -/
theorem Date.civilNumber_succ_le {t : Date} (hlt : civilNumber y t.month t.day < t.dayNumber) :
    civilNumber (y + 1) t.month t.day ≤ t.dayNumber := by
  have hm : 1 ≤ t.month := t.isDayOfYear.1
  refine civilNumber_mono hm (Int.not_lt.mp fun hle => ?_)
  have hback := civilNumber_mono (d := t.day) hm (show t.year ≤ y by omega)
  exact absurd hlt (Int.not_lt.mpr hback)

/-- If the year whose end of February lies between is a leap year, its leap day lies between. -/
theorem leapDay_between (h : IsYearlyDay m d) (hleap : isLeap (spannedYear y m) = true) :
    civilNumber y m d < civilNumber (spannedYear y m) 2 29 ∧
      civilNumber (spannedYear y m) 2 29 < civilNumber (y + 1) m d := by
  have hlen := h.le_monthLength
  obtain ⟨⟨hm, hm12, hd, hlongest⟩, hne⟩ := h
  unfold spannedYear at hleap ⊢
  split at hleap
  · rename_i hle
    rw [if_pos hle]
    have hend : civilNumber y 2 29 ≤ daysBeforeYear (y + 1) :=
      civilNumber_le_year (by decide) (by decide) (by rw [monthLength_of_isLeap hleap]; decide)
    have hbegin := daysBeforeYear_lt_civilNumber (y := y + 1) (m := m) hd
    refine ⟨?_, by omega⟩
    obtain rfl | rfl : m = 1 ∨ m = 2 := by omega
    · change d ≤ 31 at hlongest
      simp only [civilNumber, daysBeforeMonth, monthLength]
      omega
    · change d ≤ 29 at hlongest
      simp only [civilNumber]
      omega
  · rename_i hle
    rw [if_neg hle]
    have hend := civilNumber_le_year hm hm12 (hlen y)
    have hbegin := daysBeforeYear_lt_civilNumber (y := y + 1) (m := 2) (show 1 ≤ 29 by decide)
    have hfebruary : daysBeforeMonth (y + 1) 3 = 60 := by
      simp [daysBeforeMonth, monthLength, hleap]
    have hmono := daysBeforeMonth_mono (y + 1) (show 3 ≤ m by omega)
    refine ⟨by omega, ?_⟩
    simp only [civilNumber, daysBeforeMonth, monthLength]
    omega

/-! ## Minutes -/

namespace Instant

variable {t fin : Instant} {hour minute : Nat}

/-- One of the minutes of the 365 days after the instant belongs to a leap day. -/
def MeetsLeapDay (t : Instant) : Prop :=
  ∃ u : Instant, u.IsWhole ∧ u.date.IsLeapDay ∧ t.minuteNumber < u.minuteNumber ∧
    u.minuteNumber ≤ t.minuteNumber + 365 * 1440

/-- Each minute of a day is the beginning of one. -/
theorem exists_whole_on (day : Date) {n : Int} (hle : day.dayNumber * 1440 ≤ n)
    (hlt : n < day.dayNumber * 1440 + 1440) :
    ∃ u : Instant, u.date = day ∧ u.IsWhole ∧ u.minuteNumber = n := by
  have hvalid : Valid ((n - day.dayNumber * 1440) / 60).toNat
      ((n - day.dayNumber * 1440) % 60).toNat 0 0 := by
    unfold Valid
    omega
  refine ⟨⟨day, _, _, 0, 0, hvalid⟩, rfl, ⟨rfl, rfl⟩, ?_⟩
  simp only [minuteNumber]
  omega

/-- There is a last time before an instant that a day and a time of day came, or would have come
if the calendar had begun earlier. -/
theorem exists_year_before (t : Instant) (h : IsYearlyDay m d) (hhour : hour < 24)
    (hminute : minute < 60) : ∃ y,
      (civilNumber y m d * 24 + hour) * 60 + minute ≤ t.minuteNumber ∧
      t.minuteNumber < (civilNumber (y + 1) m d * 24 + hour) * 60 + minute := by
  have hlen := h.le_monthLength
  obtain ⟨⟨hm, hm12, hd, -⟩, -⟩ := h
  obtain ⟨hth, htm, -, -⟩ := t.valid
  have hbegin := t.date.daysBefore_lt_dayNumber
  have hend := t.date.dayNumber_le_year
  by_cases hle : (civilNumber t.date.year m d * 24 + hour) * 60 + minute ≤ t.minuteNumber
  · have hnext := daysBeforeYear_lt_civilNumber (y := t.date.year + 1) (m := m) hd
    refine ⟨t.date.year, hle, ?_⟩
    simp only [minuteNumber]
    omega
  · have hprev := civilNumber_le_year hm hm12 (hlen (t.date.year - 1))
    rw [Int.sub_add_cancel] at hprev
    refine ⟨t.date.year - 1, ?_, by rwa [Int.sub_add_cancel, ← Int.not_le]⟩
    simp only [minuteNumber]
    omega

/-- Where a day came at the latest at an instant and does not come within the 365 days after it,
one of their minutes belongs to a leap day. -/
theorem exists_leapDay_within (h : IsYearlyDay m d) (hhour : hour < 24) (hminute : minute < 60)
    (hprev : (civilNumber y m d * 24 + hour) * 60 + minute ≤ t.minuteNumber)
    (hfar : t.minuteNumber + 365 * 1440 < (civilNumber (y + 1) m d * 24 + hour) * 60 + minute)
    (last : Date) (hlast : civilNumber (y + 1) m d ≤ last.dayNumber) :
    t.MeetsLeapDay := by
  have hsucc := civilNumber_succ (y := y) (d := d) h.1.1
  have hleap : isLeap (spannedYear y m) = true := by
    refine eq_true_of_ne_false fun hcommon => ?_
    have hyear : yearLength (spannedYear y m) = 365 := by simp [yearLength, hcommon]
    omega
  have hyear : yearLength (spannedYear y m) = 366 := if_pos hleap
  obtain ⟨hafter, hbefore⟩ := leapDay_between h hleap
  obtain ⟨hth, htm, -, -⟩ := t.valid
  have htime : t.minuteNumber = (t.date.dayNumber * 24 + t.hour) * 60 + t.minute := rfl
  obtain ⟨leapDay, -, hmonth, hday, hnumber⟩ :=
    Date.exists_of_between t.date last (y := spannedYear y m) (m := 2) (d := 29) (by decide)
      (by decide) (by decide) (by rw [monthLength_of_isLeap hleap]; decide) (by omega) (by omega)
  -- it is not over at the instant, and begins within 365 days: the later of both is its minute
  obtain ⟨v, hv, hwhole, hvnumber⟩ := exists_whole_on leapDay
    (n := max (leapDay.dayNumber * 1440) (t.minuteNumber + 1)) (by omega) (by omega)
  refine ⟨v, hwhole, ?_, by omega, by omega⟩
  rw [hv]
  exact ⟨hmonth, hday⟩

/-- A day that every year has comes at any time of day within the 366 days after an instant, and
within 365 days if no minute of them belongs to a leap day. -/
theorem exists_next_yearly (h : IsYearlyDay m d) (hhour : hour < 24) (hminute : minute < 60)
    (hfin : t.daysLater? 366 = some fin) :
    ∃ u : Instant, (u.IsWhole ∧ u.date.month = m ∧ u.date.day = d ∧ u.hour = hour ∧
        u.minute = minute) ∧
      t.minuteNumber < u.minuteNumber ∧ u.minuteNumber ≤ t.minuteNumber + 366 * 1440 ∧
      (u.minuteNumber ≤ t.minuteNumber + 365 * 1440 ∨ t.MeetsLeapDay) := by
  obtain ⟨hm, hm12, hd, -⟩ := h.1
  obtain ⟨last, hlater, -⟩ := Option.map_eq_some_iff.mp hfin
  have hlast := Date.later?_eq_some_iff.mp hlater
  obtain ⟨hth, htm, -, -⟩ := t.valid
  have htime : t.minuteNumber = (t.date.dayNumber * 24 + t.hour) * 60 + t.minute := rfl
  obtain ⟨y, hprev, hnext⟩ := t.exists_year_before h hhour hminute
  have hsucc := civilNumber_succ (y := y) (d := d) hm
  have hyear : yearLength (spannedYear y m) ≤ 366 := by
    unfold yearLength
    split <;> decide
  obtain ⟨day, -, hmonth, hday, hnumber⟩ :=
    Date.exists_of_between t.date last hm hm12 hd
      (h.le_monthLength (y + 1)) (by omega) (by omega)
  have hu : minuteNumber ⟨day, hour, minute, 0, 0, hhour, hminute, by decide, by decide⟩ =
      (civilNumber (y + 1) m d * 24 + hour) * 60 + minute := by
    rw [minuteNumber, hnumber]
  refine ⟨_, ⟨⟨rfl, rfl⟩, hmonth, hday, rfl, rfl⟩, by rwa [hu], by omega, ?_⟩
  rw [hu]
  by_cases hnear : (civilNumber (y + 1) m d * 24 + hour) * 60 + minute ≤
      t.minuteNumber + 365 * 1440
  · exact Or.inl hnear
  · exact Or.inr (exists_leapDay_within h hhour hminute hprev (by omega) last (by omega))

/-- On the day after a day that comes back over a leap day, no later time of that day comes within
365 days. -/
theorem lt_of_spans_leapDay {u : Instant} (hleap : isLeap (spannedYear y u.date.month) = true)
    (hday : t.date.dayNumber = civilNumber y u.date.month u.date.day + 1)
    (htime : t.hour * 60 + t.minute < u.hour * 60 + u.minute)
    (hlt : t.minuteNumber < u.minuteNumber) : t.minuteNumber + 365 * 1440 < u.minuteNumber := by
  have hyear : yearLength (spannedYear y u.date.month) = 366 := if_pos hleap
  have hsucc := civilNumber_succ (y := y) (d := u.date.day) u.date.isDayOfYear.1
  obtain ⟨hhour, hminute, -, -⟩ := u.valid
  simp only [minuteNumber] at hlt ⊢
  have hnext := Date.civilNumber_succ_le (y := y) (t := u.date) (by omega)
  omega

end Instant
end Cron.Calendar
