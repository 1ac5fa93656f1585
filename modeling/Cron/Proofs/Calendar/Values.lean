import Cron.Calendar.Instant
import Cron.Proofs.Calendar.WeekDays

/-! # The numbers of instants

An instant has a number for each field.  All numbers within the bounds of a field are had by some
instant, but for one: the week begins with Sunday as 0 and ends with Saturday as 6, so no instant
has the 7 that may also stand for Sunday (`Instant.exists_value_iff`).
-/
namespace Cron

open Calendar (Date Instant IsDayOfYear)

/-- The numbers that instants have for the field. -/
def Field.supply : Field → Bounds
  | minute => ⟨0, 59⟩
  | hour => ⟨0, 23⟩
  | dayOfMonth => ⟨1, 31⟩
  | month => ⟨1, 12⟩
  | dayOfWeek => ⟨0, 6⟩

/-- Only the 7 of the week days is within the bounds of its field and had by no instant. -/
theorem Field.contains_bounds_iff {f : Field} {v : UInt32} :
    f.bounds.contains v = true ↔ f.supply.contains v = true ∨ f = .dayOfWeek ∧ v = 7 := by
  rw [Bounds.contains_iff, Bounds.contains_iff, ← UInt32.toNat_inj]
  cases f with
  | dayOfWeek =>
    simp only [bounds, supply, UInt32.reduceToNat, true_and]
    omega
  | _ => simp [bounds, supply]

/-- A number within the bounds that is less than another one is had by some instant. -/
theorem Field.supply_contains_of_lt {f : Field} {v u : UInt32} (hv : f.bounds.contains v = true)
    (hu : f.bounds.contains u = true) (h : v < u) : f.supply.contains v = true := by
  rcases contains_bounds_iff.mp hv with hin | ⟨rfl, rfl⟩
  · exact hin
  · have hle : u ≤ 7 := (Bounds.contains_iff.mp hu).2
    exact absurd h (UInt32.not_lt.mpr hle)

namespace Calendar

/-- The numbers of an instant have room in the type of the fields. -/
theorem Instant.toNat_value (t : Instant) (f : Field) :
    (t.value f).toNat =
      match f with
      | .minute => t.minute
      | .hour => t.hour
      | .dayOfMonth => t.date.day
      | .month => t.date.month
      | .dayOfWeek => t.date.weekday := by
  obtain ⟨hhour, hminute, -, -⟩ := t.valid
  obtain ⟨-, -, -, hmonth, -, hday⟩ := t.date.valid
  have hlen := monthLength_le t.date.year t.date.month
  have hweek := t.date.weekday_lt
  cases f <;> simp only [Instant.value, Nat.toUInt32_eq, UInt32.toNat_ofNat'] <;> omega

theorem Instant.value_dayOfWeek_eq_zero_iff {t : Instant} :
    t.value .dayOfWeek = 0 ↔ t.date.weekday = 0 := by
  rw [← UInt32.toNat_inj, t.toNat_value]
  rfl

/-- What an instant has for a field is in the supply of the field. -/
theorem Instant.supply_contains_value (t : Instant) (f : Field) :
    f.supply.contains (t.value f) = true := by
  obtain ⟨hhour, hminute, -, -⟩ := t.valid
  obtain ⟨-, -, hm1, hm12, hd1, hd⟩ := t.date.valid
  have hlen := monthLength_le t.date.year t.date.month
  have hweek := t.date.weekday_lt
  rw [Bounds.contains_iff, t.toNat_value]
  cases f <;> simp [Field.supply] <;> omega

/-- Every day of the year comes at every time of day and on every day of the week. -/
theorem Instant.exists_of_numbers {month day weekDay hour minute : Nat}
    (hyear : IsDayOfYear month day) (hweek : weekDay < 7) (hhour : hour < 24)
    (hminute : minute < 60) : ∃ t : Instant, t.date.month = month ∧ t.date.day = day ∧
      t.date.weekday = weekDay ∧ t.hour = hour ∧ t.minute = minute := by
  obtain ⟨d, hmonth, hday, hd⟩ := Date.exists_of_weekDay hyear hweek
  exact ⟨⟨d, hour, minute, 0, 0, hhour, hminute, by decide, by decide⟩, hmonth, hday, hd, rfl, rfl⟩

/-- The numbers that instants have for a field are those of its supply. -/
theorem Instant.exists_value_iff {f : Field} {v : UInt32} :
    (∃ t : Instant, t.value f = v) ↔ f.supply.contains v = true := by
  constructor
  · rintro ⟨t, rfl⟩
    exact t.supply_contains_value f
  · intro h
    obtain ⟨hle, hge⟩ := Bounds.contains_iff.mp h
    suffices hnat : ∃ t : Instant, (t.value f).toNat = v.toNat by
      simpa only [UInt32.toNat_inj] using hnat
    have hjanuary : IsDayOfYear 1 1 := by decide
    simp only [toNat_value]
    cases f with
    | minute =>
      obtain ⟨t, -, -, -, -, ht⟩ := exists_of_numbers hjanuary (by decide : 0 < 7)
        (by decide : 0 < 24) (Nat.lt_succ_of_le hge)
      exact ⟨t, ht⟩
    | hour =>
      obtain ⟨t, -, -, -, ht, -⟩ := exists_of_numbers hjanuary (by decide : 0 < 7)
        (Nat.lt_succ_of_le hge) (by decide : 0 < 60)
      exact ⟨t, ht⟩
    | dayOfMonth =>
      have hday : IsDayOfYear 1 v.toNat := ⟨by decide, by decide, hle, hge⟩
      obtain ⟨t, -, ht, -⟩ := exists_of_numbers hday (by decide : 0 < 7) (by decide : 0 < 24)
        (by decide : 0 < 60)
      exact ⟨t, ht⟩
    | month =>
      have hfirst : IsDayOfYear v.toNat 1 := ⟨hle, hge, by decide, one_le_longestMonth _⟩
      obtain ⟨t, ht, -⟩ := exists_of_numbers hfirst (by decide : 0 < 7) (by decide : 0 < 24)
        (by decide : 0 < 60)
      exact ⟨t, ht⟩
    | dayOfWeek =>
      obtain ⟨t, -, -, ht, -⟩ := exists_of_numbers hjanuary (Nat.lt_succ_of_le hge)
        (by decide : 0 < 24) (by decide : 0 < 60)
      exact ⟨t, ht⟩

end Calendar
end Cron
