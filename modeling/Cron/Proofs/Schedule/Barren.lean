import Cron.Proofs.Calendar.Values
import Cron.Proofs.Pattern.Numbers
import Cron.Proofs.Schedule.Reading

/-! # Field texts that hold of no instant

A field accepts a text for its numbers being within the bounds, and that does not make any instant
satisfy it.  `Field.Barren` lists the texts that are accepted in vain.  There are two reasons: a
step from the star counts from 0, so in the fields that begin with 1 its first number may lie
behind the last one; and no instant has the 7 of the week days, which stands for Sunday only as
the text `7`.

Any other pattern holds of a number that it names, or of 0, or of its stride.
-/
namespace Cron

open Calendar (Instant)

variable {f : Field} {text : String} {p : Pattern}

/-- The texts, with their patterns, that a field accepts though no instant satisfies them. -/
inductive Field.Barren (text : String) : Field → Pattern → Prop
  | day {n : UInt32} : 31 < n → Barren text .dayOfMonth (.step .any n)
  | month {n : UInt32} : 12 < n → Barren text .month (.step .any n)
  | seven : text ≠ "7" → Barren text .dayOfWeek (.single 7)
  | sevens {vs : List UInt32} : (∀ v ∈ vs, v = 7) → Barren text .dayOfWeek (.list vs)
  | fromSeven {n : UInt32} : Barren text .dayOfWeek (.step (.start 7) n)

/-- The text of the Sundays is read as nothing but the 7. -/
theorem Field.ne_seven_of_read (h : Field.read .dayOfWeek text = .ok p) (hp : p ≠ .single 7) :
    text ≠ "7" := by
  rintro rfl
  exact hp (Except.ok.inj (h.symm.trans Field.read_seven))

/-- No instant satisfies a text that is listed. -/
theorem Field.Barren.textHolds_eq_false (hb : f.Barren text p) (h : f.read text = .ok p)
    {v : UInt32} (hv : f.supply.contains v = true) : f.textHolds text v = false := by
  obtain ⟨hle, hge⟩ := Bounds.contains_iff.mp hv
  rw [Field.textHolds_of_read h]
  cases hb with
  | day hlt | month hlt =>
    have hout : Pattern.isMultiple v _ = false :=
      Pattern.isMultiple_of_lt hle (UInt32.lt_of_le_of_lt hge hlt)
    simp [Pattern.holds, hout]
  | seven hne =>
    have hv7 : v ≠ 7 := by
      rintro rfl
      exact absurd hge (by decide)
    simp [Pattern.holds, hne, hv7]
  | sevens hall =>
    have hmem : v ∉ _ := fun hmem => absurd (hall v hmem ▸ hge) (by decide)
    have htext := Field.ne_seven_of_read h (by simp)
    simp [Pattern.holds, hmem, htext]
  | fromSeven =>
    have hlt : ¬ 7 ≤ v := fun h7 => absurd (Nat.le_trans h7 hge) (by decide)
    have htext := Field.ne_seven_of_read h (by simp)
    simp [Pattern.holds, hlt, htext]

/-- A text that is not listed is satisfied by a number that instants have. -/
theorem Field.barren_or_exists (h : f.read text = .ok p) :
    f.Barren text p ∨ ∃ v, f.supply.contains v = true ∧ f.textHolds text v = true := by
  obtain ⟨hspells, hfits⟩ := Pattern.readChars_eq_ok_iff.mp h
  replace hfits := hfits _ rfl
  simp only [Field.textHolds_of_read h, Bool.or_eq_true]
  cases p with
  | any => exact Or.inr ⟨f.supply.least, by cases f <;> decide, Or.inl rfl⟩
  | single v =>
    rcases Field.contains_bounds_iff.mp hfits with hin | ⟨rfl, rfl⟩
    · exact Or.inr ⟨v, hin, Or.inl (by simp [Pattern.holds])⟩
    · by_cases htext : text = "7"
      · exact Or.inr ⟨0, by decide, Or.inr (by simp [htext])⟩
      · exact Or.inl (.seven htext)
  | list vs =>
    by_cases hin : ∃ v ∈ vs, f.supply.contains v = true
    · obtain ⟨v, hv, hin⟩ := hin
      exact Or.inr ⟨v, hin, Or.inl (by simpa [Pattern.holds] using hv)⟩
    · -- then all its numbers are the 7 of the week days, and there is one
      have hseven : ∀ v ∈ vs, f = .dayOfWeek ∧ v = 7 := fun v hv =>
        (Field.contains_bounds_iff.mp (hfits v hv)).resolve_left fun h => hin ⟨v, hv, h⟩
      obtain ⟨v, hv⟩ := hspells.exists_mem
      obtain ⟨rfl, -⟩ := hseven v hv
      exact Or.inl (.sevens fun v hv => (hseven v hv).2)
  | range a z =>
    obtain ⟨ha, hz, hlt⟩ := hfits
    refine Or.inr ⟨a, Field.supply_contains_of_lt ha hz hlt, Or.inl ?_⟩
    simp [Pattern.holds, UInt32.le_of_lt hlt]
  | step o n =>
    have hpos := hspells.one_le_stride
    cases o with
    | any =>
      -- the multiples of n are 0 and, from n on, those that lie too high if n does
      cases f with
      | dayOfMonth =>
        rcases UInt32.le_or_lt n 31 with hle | hlt
        · exact Or.inr ⟨n, Bounds.contains_iff.mpr ⟨hpos, hle⟩,
            Or.inl (Pattern.isMultiple_self hpos)⟩
        · exact Or.inl (.day hlt)
      | month =>
        rcases UInt32.le_or_lt n 12 with hle | hlt
        · exact Or.inr ⟨n, Bounds.contains_iff.mpr ⟨hpos, hle⟩,
            Or.inl (Pattern.isMultiple_self hpos)⟩
        · exact Or.inl (.month hlt)
      | _ => exact Or.inr ⟨0, by decide, Or.inl (Pattern.isMultiple_zero hpos)⟩
    | start a =>
      rcases Field.contains_bounds_iff.mp hfits with hin | ⟨rfl, rfl⟩
      · exact Or.inr ⟨a, hin, Or.inl (by simp [Pattern.holds, Pattern.isMultiple_zero hpos])⟩
      · exact Or.inl .fromSeven
    | range a z =>
      obtain ⟨ha, hz, hlt⟩ := hfits
      refine Or.inr ⟨a, Field.supply_contains_of_lt ha hz hlt, Or.inl ?_⟩
      simp [Pattern.holds, UInt32.le_of_lt hlt, Pattern.isMultiple_zero hpos]

/-- **Which texts a field accepts in vain.**  A text that a field accepts is satisfied by some
number that instants have for the field, unless it is listed.  These numbers are those from 0 to
59 and to 23 for the time of day, from 1 to 31 and to 12 for the date, and from 0 to 6 for the day
of the week. -/
theorem Field.exists_textHolds_iff (h : f.read text = .ok p) :
    ((∃ v, f.supply.contains v = true ∧ f.textHolds text v = true) ↔ ¬ f.Barren text p) ∧
      ∀ v, f.supply.contains v = true ↔ ∃ t : Instant, t.value f = v := by
  refine ⟨⟨?_, (Field.barren_or_exists h).resolve_left⟩, fun v => Instant.exists_value_iff.symm⟩
  rintro ⟨v, hv, hholds⟩ hb
  exact Bool.false_ne_true ((hb.textHolds_eq_false h hv).symm.trans hholds)

/-- The text `7` is Sunday, and a list of two of them is no day at all. -/
theorem Field.exists_textHolds_iff_sevens :
    Field.read .dayOfWeek "7" = .ok (.single 7) ∧
      Field.read .dayOfWeek "7,+07" = .ok (.list [7, 7]) ∧
      (∃ v, (Field.supply .dayOfWeek).contains v = true ∧
        Field.textHolds .dayOfWeek "7" v = true) ∧
      ¬ ∃ v, (Field.supply .dayOfWeek).contains v = true ∧
        Field.textHolds .dayOfWeek "7,+07" v = true := by
  have htwo : Field.read .dayOfWeek "7,+07" = .ok (.list [7, 7]) := by decide +kernel
  refine ⟨Field.read_seven, htwo, (Field.exists_textHolds_iff Field.read_seven).1.mpr ?_,
    fun hex => ?_⟩
  · rintro ⟨⟩
    contradiction
  · exact (Field.exists_textHolds_iff htwo).1.mp hex (.sevens (by simp))

end Cron
