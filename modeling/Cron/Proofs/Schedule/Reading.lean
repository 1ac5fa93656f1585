import Cron.Proofs.Calendar.Values
import Cron.Proofs.Pattern.Reading
import Cron.Schedule

/-! # Schedules as readings

A schedule is the reading of an expression if it holds, field by field, what the texts of the
expression are read as (`IsReadingOf`).  Compiling succeeds exactly where there is a reading,
and gives it; otherwise its fault is that of the first field that cannot be read
(`exists_first_fault`).  A check that collects all faults finds none in the same case
(`Verdict.ofLine_valid_iff`).

The reading decides about an instant as the raw texts do (`IsReadingOf.runsAt_eq`): the bounds
under which it was read change no pattern, and its flag for the Sundays is the question that
the raw text of the week days is asked at every instant.

A schedule looks at an instant only through the five numbers of its fields (`runsAt_eq_all`), so
two instants with the same numbers are alike to it (`runsAt_congr`), whatever else differs
between them.
-/
namespace Cron

open Calendar (Instant)

/-- A raw text holds of the numbers of its pattern, if it has one. -/
theorem Pattern.textHolds_iff {text : String} {v : UInt32} :
    Pattern.textHolds text v = true ↔ ∃ p, Pattern.read text = .ok p ∧ p.holds v = true := by
  unfold Pattern.textHolds
  cases Pattern.read text <;> simp

/-- The field of the week days takes the text `7`. -/
theorem Field.read_seven : Field.read .dayOfWeek "7" = .ok (.single 7) := by decide +kernel

/-- A text that its field can read holds of the numbers of its pattern and, if it is the `7` of
the week days, of the Sunday 0. -/
theorem Field.textHolds_of_read {f : Field} {text : String} {p : Pattern}
    (h : f.read text = .ok p) (v : UInt32) :
    f.textHolds text v = (p.holds v || (f == .dayOfWeek && v == 0 && text == "7")) := by
  have hraw : Pattern.read text = .ok p := Pattern.readChars_none_of_readChars h
  rw [textHolds, Pattern.textHolds, hraw]

namespace Schedule

variable {e : Expression} {s : Schedule} {f : Field} {t u : Instant}

/-! ## Runs -/

/-- The numbers that a schedule takes from an instant are those of its fields, by which the raw
texts are asked too. -/
theorem runsAt_eq_all (s : Schedule) (t : Instant) : s.runsAt t =
    Field.all.all fun f => (s.pattern f).holds (t.value f) ||
      (f == .dayOfWeek && t.value f == 0 && s.alsoSunday) := by
  simp [runsAt, Field.all, pattern, Instant.value, Bool.and_assoc, beq_eq_decide]

/-- A schedule runs where the patterns of all fields hold, but a Sunday may also be taken for
its own sake. -/
theorem runsAt_iff : s.runsAt t = true ↔
    (∀ f, f ≠ .dayOfWeek → (s.pattern f).holds (t.value f) = true) ∧
      (s.dayOfWeek.holds (t.value .dayOfWeek) = true ∨
        t.date.weekday = 0 ∧ s.alsoSunday = true) := by
  rw [← Instant.value_dayOfWeek_eq_zero_iff, runsAt_eq_all, List.all_eq_true]
  constructor
  · intro h
    refine ⟨fun f hf => ?_, ?_⟩
    · have hholds := h f f.mem_all
      rwa [beq_eq_false_iff_ne.mpr hf, Bool.false_and, Bool.false_and, Bool.or_false] at hholds
    · simpa [pattern] using h .dayOfWeek (Field.mem_all _)
  · rintro ⟨hother, hweek⟩ f -
    by_cases hf : f = .dayOfWeek
    · subst hf
      simpa [pattern] using hweek
    · rw [hother f hf, Bool.true_or]

/-- A run has the number of a field that asks for a single one. -/
theorem toNat_value_of_single {f : Field} {n : UInt32} (hf : f ≠ .dayOfWeek)
    (hs : s.pattern f = .single n) (h : s.runsAt t = true) : (t.value f).toNat = n.toNat := by
  have hholds := (runsAt_iff.mp h).1 f hf
  rw [hs, Pattern.holds, beq_iff_eq] at hholds
  rw [hholds]

theorem runsAt_congr (h : ∀ f, t.value f = u.value f) : s.runsAt t = s.runsAt u := by
  simp only [runsAt_eq_all, h]

/-! ## Readings -/

/-- The schedule holds what the five texts of the expression are read as. -/
structure IsReadingOf (s : Schedule) (e : Expression) : Prop where
  /-- Each pattern is that of the text of its field. -/
  read_get : ∀ f : Field, f.read (e.get f) = .ok (s.pattern f)
  /-- Sundays are added exactly for the text `7`. -/
  alsoSunday : s.alsoSunday = (e.dayOfWeek == "7")

theorem readField_eq_ok_iff {p : Pattern} :
    readField e f = .ok p ↔ f.read (e.get f) = .ok p :=
  Outcome.mapError_eq_ok_iff

theorem readField_eq_error_iff {fault : Expression.Fault} :
    readField e f = .error fault ↔
      ∃ cause, f.read (e.get f) = .error cause ∧ .field f cause = fault :=
  Outcome.mapError_eq_error_iff

/-- Compiling an expression is the same as finding its reading. -/
theorem ofExpression_eq_ok_iff : ofExpression e = .ok s ↔ s.IsReadingOf e := by
  simp only [ofExpression, Outcome.bind_eq_ok_iff, readField_eq_ok_iff]
  constructor
  · rintro ⟨m, hm, h, hh, d, hd, mo, hmo, w, hw, he⟩
    obtain rfl := Except.ok.inj he
    refine ⟨fun f => ?_, rfl⟩
    cases f with
    | minute => exact hm
    | hour => exact hh
    | dayOfMonth => exact hd
    | month => exact hmo
    | dayOfWeek => exact hw
  · rintro ⟨hread, hsunday⟩
    refine ⟨_, hread .minute, _, hread .hour, _, hread .dayOfMonth, _, hread .month, _,
      hread .dayOfWeek, ?_⟩
    rw [← hsunday]
    rfl

/-- The fault of an expression is that of its first field that cannot be read. -/
theorem exists_first_fault {fault : Expression.Fault} (h : ofExpression e = .error fault) :
    ∃ before f after cause, Field.all = before ++ f :: after ∧
      (∀ g ∈ before, ∃ p, g.read (e.get g) = .ok p) ∧
      f.read (e.get f) = .error cause ∧ fault = .field f cause := by
  simp only [ofExpression, Outcome.bind_eq_error_iff, readField_eq_error_iff,
    readField_eq_ok_iff] at h
  -- one case for each field at which compiling can stop, and one for none of them
  rcases h with ⟨c, hc, rfl⟩ | ⟨m, hm, ⟨c, hc, rfl⟩ | ⟨h, hh, ⟨c, hc, rfl⟩ | ⟨d, hd,
    ⟨c, hc, rfl⟩ | ⟨mo, hmo, ⟨c, hc, rfl⟩ | ⟨w, hw, hend⟩⟩⟩⟩⟩
  · exact ⟨[], _, _, c, rfl, by simp, hc, rfl⟩
  · exact ⟨[.minute], _, _, c, rfl, by simp [hm], hc, rfl⟩
  · exact ⟨[.minute, .hour], _, _, c, rfl, by simp [hm, hh], hc, rfl⟩
  · exact ⟨[.minute, .hour, .dayOfMonth], _, _, c, rfl, by simp [hm, hh, hd], hc, rfl⟩
  · exact ⟨[.minute, .hour, .dayOfMonth, .month], _, _, c, rfl, by simp [hm, hh, hd, hmo], hc,
      rfl⟩
  · -- all five were read, so there was no fault
    cases hend

/-- A reading runs at the instants at which the raw texts hold. -/
theorem IsReadingOf.runsAt_eq (h : s.IsReadingOf e) (t : Instant) :
    s.runsAt t = e.runsAt t := by
  have hfield : ∀ f : Field, f.textHolds (e.get f) (t.value f) =
      ((s.pattern f).holds (t.value f) ||
        (f == .dayOfWeek && t.value f == 0 && s.alsoSunday)) := by
    intro f
    rw [Field.textHolds_of_read (h.read_get f), h.alsoSunday]
    -- the text is looked at for the week days only
    cases f <;> rfl
  simp only [runsAt_eq_all, Expression.runsAt, hfield]

/-- **Compiling changes no run**: whatever its five texts, an expression that compiles runs at
the same instants before and after. -/
theorem runsAt_eq_of_ofExpression (h : ofExpression e = .ok s) (t : Instant) :
    s.runsAt t = e.runsAt t :=
  (ofExpression_eq_ok_iff.mp h).runsAt_eq t

/-- A plus sign, zeros and blanks, and a Sunday that only the text `7` lets run. -/
theorem runsAt_eq_on_sunday :
    ofExpression ⟨" +05", "*/ 1", "1,01", "2-3", "7"⟩ =
        .ok ⟨.single 5, .step .any 1, .list [1, 1], .range 2 3, .single 7, true⟩ ∧
      Schedule.runsAt ⟨.single 5, .step .any 1, .list [1, 1], .range 2 3, .single 7, true⟩
          ⟨⟨2026, 2, 1, by decide⟩, 0, 5, 59, 1999999999, by decide⟩ =
        Expression.runsAt ⟨" +05", "*/ 1", "1,01", "2-3", "7"⟩
          ⟨⟨2026, 2, 1, by decide⟩, 0, 5, 59, 1999999999, by decide⟩ := by
  have h : ofExpression ⟨" +05", "*/ 1", "1,01", "2-3", "7"⟩ =
      .ok ⟨.single 5, .step .any 1, .list [1, 1], .range 2 3, .single 7, true⟩ := by
    decide +kernel
  exact ⟨h, runsAt_eq_of_ofExpression h _⟩

end Schedule

/-! ## Verdicts -/

theorem Expression.fieldError?_eq_none_iff {e : Expression} {f : Field} :
    e.fieldError? f = none ↔ ∃ p, f.read (e.get f) = .ok p := by
  unfold fieldError?
  cases f.read (e.get f) <;> simp

/-- Nothing is wrong with an expression exactly if it has a reading. -/
theorem Expression.verdict_valid_iff {e : Expression} :
    e.verdict.valid = true ↔ ∃ s, Schedule.ofExpression e = .ok s := by
  have hall : e.verdict.valid = true ↔ ∀ f : Field, ∃ p, f.read (e.get f) = .ok p := by
    simp [verdict, Verdict.ofErrors, fieldError?_eq_none_iff, Field.mem_all]
  rw [hall]
  constructor
  · intro h
    choose p hp using h
    refine ⟨⟨p .minute, p .hour, p .dayOfMonth, p .month, p .dayOfWeek, e.dayOfWeek == "7"⟩,
      Schedule.ofExpression_eq_ok_iff.mpr ⟨fun f => ?_, rfl⟩⟩
    cases f <;> exact hp _
  · rintro ⟨s, hs⟩ f
    exact ⟨_, (Schedule.ofExpression_eq_ok_iff.mp hs).read_get f⟩

theorem Schedule.ofLine_eq_ok_iff {line : String} {s : Schedule} :
    Schedule.ofLine line = .ok s ↔
      ∃ e, Expression.ofLine line = .ok e ∧ Schedule.ofExpression e = .ok s :=
  Outcome.bind_eq_ok_iff

/-- A line is valid exactly if it compiles. -/
theorem Verdict.ofLine_valid_iff {line : String} :
    (Verdict.ofLine line).valid = true ↔ ∃ s, Schedule.ofLine line = .ok s := by
  simp only [Schedule.ofLine_eq_ok_iff]
  unfold Verdict.ofLine
  cases Expression.ofLine line with
  | error fault => simp
  | ok e => simp [Expression.verdict_valid_iff]

end Cron
