import Cron.Proofs.Calendar.DayLine

/-! # Days of the year and of the week

A day of the year is a month and a day that some year has; February 29 is one of them.  Each of
them falls on each day of the week in some year (`Date.exists_of_weekDay`).  The leap years from
2000 to 2024 are enough: from one to the next there are 1461 days, which are five days more than
whole weeks, so seven of them in a row begin on seven different days of the week.
-/
namespace Cron.Calendar

/-- The number of days that a month has in the years in which it is longest. -/
def longestMonth : Nat → Nat
  | 2 => 29
  | 4 | 6 | 9 | 11 => 30
  | _ => 31

/-- Whether some year has the day of the month. -/
def IsDayOfYear (month day : Nat) : Prop :=
  1 ≤ month ∧ month ≤ 12 ∧ 1 ≤ day ∧ day ≤ longestMonth month

instance (month day : Nat) : Decidable (IsDayOfYear month day) := by
  unfold IsDayOfYear; infer_instance

theorem one_le_longestMonth (m : Nat) : 1 ≤ longestMonth m := by
  unfold longestMonth
  split <;> decide

/-- Only February is ever shorter than the longest month of its name. -/
theorem monthLength_eq (y : Int) (m : Nat) :
    monthLength y m = if m = 2 ∧ isLeap y = false then 28 else longestMonth m := by
  unfold monthLength longestMonth
  split
  · cases isLeap y <;> rfl
  all_goals simp_all

theorem monthLength_le_longest (y : Int) (m : Nat) : monthLength y m ≤ longestMonth m := by
  rw [monthLength_eq]
  split
  · rename_i h
    rw [h.1]
    decide
  · exact Nat.le_refl _

theorem Date.isDayOfYear (t : Date) : IsDayOfYear t.month t.day := by
  obtain ⟨-, -, hm1, hm12, hd1, hd⟩ := t.valid
  exact ⟨hm1, hm12, hd1, Nat.le_trans hd (monthLength_le_longest _ _)⟩

/-! ## Leap years -/

variable {y z : Int}

theorem monthLength_of_isLeap (h : isLeap y = true) (m : Nat) :
    monthLength y m = longestMonth m := by
  simp [monthLength_eq, h]

theorem daysBeforeMonth_of_isLeap (hy : isLeap y = true) (hz : isLeap z = true) (m : Nat) :
    daysBeforeMonth y m = daysBeforeMonth z m := by
  induction m with
  | zero => rfl
  | succ m ih =>
    rcases Nat.eq_zero_or_pos m with rfl | hpos
    · rfl
    · rw [daysBeforeMonth_succ _ hpos, daysBeforeMonth_succ _ hpos, ih, monthLength_of_isLeap hy,
        monthLength_of_isLeap hz]

variable {i : Int}

theorem isLeap_olympiads (h0 : 0 ≤ i) (h6 : i ≤ 6) : isLeap (2000 + 4 * i) = true := by
  simp only [isLeap, Bool.and_eq_true, Bool.or_eq_true, beq_iff_eq, bne_iff_ne]
  omega

theorem daysBeforeYear_olympiads (h0 : 0 ≤ i) (h6 : i ≤ 6) :
    daysBeforeYear (2000 + 4 * i) = daysBeforeYear 2000 + 1461 * i := by
  unfold daysBeforeYear
  omega

/-! ## Week days -/

/-- Each day of the year falls on each day of the week in some year. -/
theorem Date.exists_of_weekDay {m d w : Nat} (hday : IsDayOfYear m d) (hw : w < 7) :
    ∃ t : Date, t.month = m ∧ t.day = d ∧ t.weekday = w := by
  obtain ⟨hm1, hm12, hd1, hd⟩ := hday
  -- the day of the week moves on by five with every step of four years, and 3 · 5 is 1 modulo 7
  obtain ⟨i, h0, h6, hmod⟩ : ∃ i : Int, 0 ≤ i ∧ i ≤ 6 ∧
      (daysBeforeYear 2000 + daysBeforeMonth 2000 m + d + 1461 * i) % 7 = w :=
    ⟨(3 * (w - (daysBeforeYear 2000 + daysBeforeMonth 2000 m + d))) % 7,
      by omega, by omega, by omega⟩
  have hleap := isLeap_olympiads h0 h6
  have hvalid : Valid (2000 + 4 * i) m d := by
    refine ⟨?_, ?_, hm1, hm12, hd1, by rwa [monthLength_of_isLeap hleap]⟩
    · unfold firstYear
      omega
    · unfold lastYear
      omega
  refine ⟨⟨2000 + 4 * i, m, d, hvalid⟩, rfl, rfl, ?_⟩
  have hmonth := daysBeforeMonth_of_isLeap hleap (show isLeap 2000 = true by decide) m
  simp only [weekday, dayNumber, daysBeforeYear_olympiads h0 h6, hmonth]
  omega

end Cron.Calendar
