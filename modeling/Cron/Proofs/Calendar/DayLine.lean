import Cron.Calendar.Date

/-! # The line of days

The numbers of the days follow the dates without a gap: the day after has the next number
(`Date.dayNumber_of_next?`), no two dates share a number (`Date.eq_of_dayNumber_eq`), and the
date without a day after has the greatest number of all (`Date.dayNumber_le_of_next?`).

All of it comes down to two facts, one about years and one about months: the days before the
next one are the days before this one and the days of this one.
-/
namespace Cron.Calendar

/-- The number of days of a year. -/
def yearLength (y : Int) : Nat := if isLeap y then 366 else 365

theorem monthLength_le (y : Int) (m : Nat) : monthLength y m ≤ 31 := by
  unfold monthLength
  split <;> (try split) <;> omega

theorem daysBeforeYear_succ (y : Int) :
    daysBeforeYear (y + 1) = daysBeforeYear y + yearLength y := by
  unfold daysBeforeYear yearLength
  by_cases h : isLeap y = true
  · rw [if_pos h]
    simp only [isLeap, Bool.and_eq_true, Bool.or_eq_true, beq_iff_eq, bne_iff_ne] at h
    omega
  · rw [if_neg h]
    simp only [isLeap, Bool.and_eq_true, Bool.or_eq_true, beq_iff_eq, bne_iff_ne] at h
    omega

theorem daysBeforeYear_mono {y z : Int} (h : y ≤ z) : daysBeforeYear y ≤ daysBeforeYear z := by
  unfold daysBeforeYear
  omega

theorem daysBeforeMonth_succ (y : Int) {m : Nat} (h : 1 ≤ m) :
    daysBeforeMonth y (m + 1) = daysBeforeMonth y m + monthLength y m := by
  obtain ⟨m, rfl⟩ := Nat.exists_eq_add_of_le' h
  rfl

theorem daysBeforeMonth_mono (y : Int) {m n : Nat} (h : m ≤ n) :
    daysBeforeMonth y m ≤ daysBeforeMonth y n := by
  obtain ⟨d, rfl⟩ := Nat.exists_eq_add_of_le h
  clear h
  induction d with
  | zero => exact Nat.le_refl _
  | succ d ih =>
    refine Nat.le_trans ih ?_
    rcases Nat.eq_zero_or_pos (m + d) with hz | hpos
    · simp [hz, ← Nat.add_assoc, daysBeforeMonth]
    · rw [← Nat.add_assoc, daysBeforeMonth_succ y hpos]
      exact Nat.le_add_right _ _

/-- The twelve months make up the year. -/
theorem daysBeforeMonth_thirteen (y : Int) : daysBeforeMonth y 13 = yearLength y := by
  simp only [daysBeforeMonth, monthLength, yearLength]
  split <;> rfl

/-! ## Days of any year -/

/-- The number of a day in a year, which may be one before or after those of the calendar. -/
def civilNumber (y : Int) (m d : Nat) : Int := daysBeforeYear y + daysBeforeMonth y m + d

section CivilNumber

variable {y : Int} {m d : Nat}

/-- The days up to the end of the month. -/
theorem civilNumber_le_month (hm : 1 ≤ m) (hd : d ≤ monthLength y m) :
    civilNumber y m d ≤ daysBeforeYear y + daysBeforeMonth y (m + 1) := by
  rw [civilNumber, daysBeforeMonth_succ _ hm]
  omega

/-- The days up to the end of the year. -/
theorem civilNumber_le_year (hm : 1 ≤ m) (hm12 : m ≤ 12) (hd : d ≤ monthLength y m) :
    civilNumber y m d ≤ daysBeforeYear (y + 1) := by
  have hmonth := civilNumber_le_month hm hd
  have hmono := daysBeforeMonth_mono y (show m + 1 ≤ 13 by omega)
  rw [daysBeforeMonth_thirteen] at hmono
  rw [daysBeforeYear_succ]
  omega

theorem daysBeforeYear_lt_civilNumber (hd : 1 ≤ d) : daysBeforeYear y < civilNumber y m d := by
  unfold civilNumber
  omega

end CivilNumber

namespace Date

variable {t u : Date}

theorem weekday_lt (t : Date) : t.weekday < 7 := by
  unfold weekday
  omega

/-- The days up to the end of the month. -/
theorem dayNumber_le_month (t : Date) :
    t.dayNumber ≤ daysBeforeYear t.year + daysBeforeMonth t.year (t.month + 1) := by
  obtain ⟨_, _, hm, _, _, hd⟩ := t.valid
  exact civilNumber_le_month hm hd

/-- The days up to the end of the year. -/
theorem dayNumber_le_year (t : Date) : t.dayNumber ≤ daysBeforeYear (t.year + 1) := by
  obtain ⟨_, _, hm, hm12, _, hd⟩ := t.valid
  exact civilNumber_le_year hm hm12 hd

theorem daysBefore_lt_dayNumber (t : Date) :
    daysBeforeYear t.year + daysBeforeMonth t.year t.month < t.dayNumber := by
  obtain ⟨_, _, _, _, hd, _⟩ := t.valid
  rw [dayNumber]
  omega

theorem dayNumber_lt_of_year_lt (h : t.year < u.year) : t.dayNumber < u.dayNumber := by
  have ht := t.dayNumber_le_year
  have hu := u.daysBefore_lt_dayNumber
  have hmono := daysBeforeYear_mono (show t.year + 1 ≤ u.year by omega)
  omega

theorem year_le_of_dayNumber_le (h : t.dayNumber ≤ u.dayNumber) : t.year ≤ u.year :=
  Int.not_lt.mp fun hlt => absurd h (Int.not_le.mpr (dayNumber_lt_of_year_lt hlt))

theorem dayNumber_lt_of_month_lt (hy : t.year = u.year) (h : t.month < u.month) :
    t.dayNumber < u.dayNumber := by
  have ht := t.dayNumber_le_month
  have hu := u.daysBefore_lt_dayNumber
  have hmono := daysBeforeMonth_mono u.year (show t.month + 1 ≤ u.month from h)
  rw [hy] at ht
  omega

/-- Two dates with one number are one date. -/
theorem eq_of_dayNumber_eq (h : t.dayNumber = u.dayNumber) : t = u := by
  have hy : t.year = u.year := by
    rcases Int.lt_trichotomy t.year u.year with hlt | he | hgt
    · exact absurd h (Int.ne_of_lt (dayNumber_lt_of_year_lt hlt))
    · exact he
    · exact absurd h.symm (Int.ne_of_lt (dayNumber_lt_of_year_lt hgt))
  have hm : t.month = u.month := by
    rcases Nat.lt_trichotomy t.month u.month with hlt | he | hgt
    · exact absurd h (Int.ne_of_lt (dayNumber_lt_of_month_lt hy hlt))
    · exact he
    · exact absurd h.symm (Int.ne_of_lt (dayNumber_lt_of_month_lt hy.symm hgt))
  have hd : t.day = u.day := by
    rw [dayNumber, dayNumber, hy, hm] at h
    omega
  cases t
  cases u
  obtain ⟨rfl, rfl, rfl⟩ := And.intro hy (And.intro hm hd)
  rfl

/-- A day is a date if its number lies between those of two dates. -/
theorem exists_of_between (first last : Date) {y : Int} {m d : Nat} (hm : 1 ≤ m) (hm12 : m ≤ 12)
    (hd : 1 ≤ d) (hlen : d ≤ monthLength y m) (hfirst : first.dayNumber ≤ civilNumber y m d)
    (hlast : civilNumber y m d ≤ last.dayNumber) :
    ∃ t : Date, t.year = y ∧ t.month = m ∧ t.day = d ∧ t.dayNumber = civilNumber y m d := by
  have hyear : firstYear ≤ y := by
    refine Int.not_lt.mp fun hlt => ?_
    -- all days of the year would come before the first year of the calendar
    have hle := civilNumber_le_year hm hm12 hlen
    have hmono := daysBeforeYear_mono (show y + 1 ≤ first.year by
      have := first.valid.1
      omega)
    have hpos := first.daysBefore_lt_dayNumber
    omega
  have hyear' : y ≤ lastYear := by
    refine Int.not_lt.mp fun hlt => ?_
    -- all days of the year would come after the last year of the calendar
    have hlt' := daysBeforeYear_lt_civilNumber (y := y) (m := m) hd
    have hmono := daysBeforeYear_mono (show last.year + 1 ≤ y by
      have := last.valid.2.1
      omega)
    have hend := last.dayNumber_le_year
    omega
  exact ⟨⟨y, m, d, hyear, hyear', hm, hm12, hd, hlen⟩, rfl, rfl, rfl, rfl⟩

/-! ## The day after -/

/-- On the last day of a month all days of the month are counted. -/
theorem dayNumber_of_monthEnd (h : ¬ t.day < monthLength t.year t.month) :
    t.dayNumber = daysBeforeYear t.year + daysBeforeMonth t.year (t.month + 1) := by
  obtain ⟨_, _, hm, _, _, hd⟩ := t.valid
  rw [dayNumber, daysBeforeMonth_succ _ hm]
  omega

/-- On the last day of a year all days of the year are counted. -/
theorem dayNumber_of_yearEnd (hd : ¬ t.day < monthLength t.year t.month)
    (hm : ¬ t.month < 12) : t.dayNumber = daysBeforeYear (t.year + 1) := by
  have hdec : t.month = 12 := by
    obtain ⟨_, _, _, hm12, _, _⟩ := t.valid
    omega
  rw [dayNumber_of_monthEnd hd, hdec, daysBeforeMonth_thirteen, daysBeforeYear_succ]

/-- The day after has the next number. -/
theorem dayNumber_of_next? (h : t.next? = some u) : u.dayNumber = t.dayNumber + 1 := by
  unfold next? at h
  split at h
  · obtain rfl := Option.some.inj h
    simp only [dayNumber]
    omega
  · rename_i hd
    split at h
    · obtain rfl := Option.some.inj h
      rw [dayNumber_of_monthEnd hd]
      rfl
    · rename_i hm
      split at h
      · obtain rfl := Option.some.inj h
        rw [dayNumber_of_yearEnd hd hm]
        simp [dayNumber, daysBeforeMonth]
      · cases h

/-- A date without a day after is the last one of the calendar. -/
theorem dayNumber_le_of_next? (h : t.next? = none) (u : Date) : u.dayNumber ≤ t.dayNumber := by
  unfold next? at h
  split at h
  · cases h
  · rename_i hd
    split at h
    · cases h
    · rename_i hm
      split at h
      · cases h
      · rename_i hy
        have hu : u.year ≤ t.year := by
          obtain ⟨_, hlast, _⟩ := u.valid
          omega
        rw [dayNumber_of_yearEnd hd hm]
        exact Int.le_trans u.dayNumber_le_year (daysBeforeYear_mono (by omega))

end Date
end Cron.Calendar
