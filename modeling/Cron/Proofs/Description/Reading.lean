import Cron.Proofs.Description.Words
import Cron.Proofs.Verdict

/-! # Reading descriptions back

What a description leaves out is `*`, and the first words of a phrase tell it from any other that
could stand in its place.  So the words can be read from the front, one field after the other
(`readBack`), and the fields are found again, but for the order in which the weekend was written
(`readBack_expressionWords`).  Hence lines with the same description run at the same instants
(`sameButWeekend_of_ofLine_eq`).

The minute `*` has to be left out, for then nothing is told of the other fields.  Presets have
descriptions that differ from each other and begin with another letter than the rest.
-/
namespace Cron

open Calendar (Instant)
open Text (words)

namespace Description

/-! ## From words to fields -/

/-- The minute that the first words tell, and the words behind them. -/
def minuteOf : List String → String × List String
  | "Every" :: n :: _ :: ws => ("*/" ++ n, ws)
  | "At" :: "minute" :: m :: ws => (m, ws)
  | ws => ("*", ws)

/-- The hour that the next words tell, and the words behind them. -/
def hourOf : List String → String × List String
  | "of" :: "every" :: "hour" :: ws => ("*", ws)
  | "every" :: n :: _ :: ws => ("*/" ++ n, ws)
  | "past" :: "hour" :: h :: ws => (h, ws)
  | ws => ("*", ws)

/-- The day of the month that the next words tell, and the words behind them. -/
def dayOf : List String → String × List String
  | "on" :: "day" :: d :: ws => (d, ws)
  | "on" :: "days" :: d :: ws => (d, ws)
  | ws => ("*", ws)

/-- The month that the next words tell, and the words behind them. -/
def monthOf : List String → String × List String
  | "in" :: "month" :: m :: ws => (m, ws)
  | ws => ("*", ws)

/-- The day of the week that the last words tell. -/
def weekdayOf : List String → String
  | ["on", "weekdays"] => "1-5"
  | ["on", "weekends"] => "0,6"
  | ["on", "day-of-week", w] => w
  | _ => "*"

/-- The expression that the words of a description tell. -/
def readBack (ws : List String) : Expression :=
  let (minute, ws) := minuteOf ws
  let (hour, ws) := hourOf ws
  let (day, ws) := dayOf ws
  let (month, ws) := monthOf ws
  ⟨minute, hour, day, month, weekdayOf ws⟩

/-- The text that stands for all texts of the day of the week with the same phrase. -/
def weekdayNorm (text : String) : String := if text = "6,0" then "0,6" else text

variable {text : String} {ws : List String} {e e' : Expression}

theorem hourOf_hourWords (text : String) (ws : List String) :
    hourOf (hourWords text ++ ws) = (text, ws) := by
  unfold hourWords
  split
  · rename_i hstar
    rw [hstar]
    rfl
  split
  · rename_i n hn
    rw [eq_of_stride?_eq_some hn]
    rfl
  · rfl

/-- No month and no day of the week is taken for a day of the month. -/
theorem dayOf_monthWords (month weekday : String) :
    dayOf (monthWords month ++ weekdayWords weekday) =
      ("*", monthWords month ++ weekdayWords weekday) := by
  unfold monthWords weekdayWords
  split
  · split
    · rfl
    split
    · rfl
    split <;> rfl
  · rfl

theorem dayOf_dayWords (text : String) (h : dayOf ws = ("*", ws)) :
    dayOf (dayWords text ++ ws) = (text, ws) := by
  unfold dayWords
  split
  · rename_i hstar
    rw [hstar]
    exact h
  split <;> rfl

/-- No day of the week is taken for a month. -/
theorem monthOf_weekdayWords (text : String) :
    monthOf (weekdayWords text) = ("*", weekdayWords text) := by
  unfold weekdayWords
  split
  · rfl
  split
  · rfl
  split <;> rfl

theorem monthOf_monthWords (month weekday : String) :
    monthOf (monthWords month ++ weekdayWords weekday) = (month, weekdayWords weekday) := by
  unfold monthWords
  split
  · rename_i hstar
    rw [hstar]
    exact monthOf_weekdayWords weekday
  · rfl

theorem weekdayOf_weekdayWords (text : String) :
    weekdayOf (weekdayWords text) = weekdayNorm text := by
  unfold weekdayWords
  split
  · rename_i h
    rw [h]
    rfl
  split
  · rename_i h
    rw [h]
    rfl
  split
  · rename_i h
    rcases h with rfl | rfl <;> rfl
  · rename_i h
    rw [weekdayNorm, if_neg fun h6 => h (Or.inr h6)]
    rfl

/-- Once the minute is read, so is the rest. -/
theorem readBack_laterWords (minute : String) (h : minuteOf ws = (minute, laterWords e)) :
    readBack ws =
      ⟨minute, e.hour, e.dayOfMonth, e.month, weekdayNorm e.dayOfWeek⟩ := by
  have hlater : laterWords e = hourWords e.hour ++ (dayWords e.dayOfMonth ++
      (monthWords e.month ++ weekdayWords e.dayOfWeek)) := by
    simp only [laterWords, List.append_assoc]
  rw [hlater] at h
  simp only [readBack, h, hourOf_hourWords, dayOf_dayWords _ (dayOf_monthWords _ _),
    monthOf_monthWords, weekdayOf_weekdayWords]

/-- **The words of a description tell the fields**, but for the order of the weekend. -/
theorem readBack_expressionWords (e : Expression) :
    readBack (expressionWords e) = { e with dayOfWeek := weekdayNorm e.dayOfWeek } := by
  unfold expressionWords
  cases hn : stride? e.minute.toList with
  | some n =>
    have hminute := eq_of_stride?_eq_some hn
    by_cases honly : minuteOnly e = true
    · have hread : readBack ["Every", .ofList n, unitOf n "minute"] =
          ⟨"*/" ++ .ofList n, "*", "*", "*", "*"⟩ := rfl
      simp only [if_pos honly, hread, ← hminute]
      simp only [minuteOnly, Bool.and_eq_true, beq_iff_eq] at honly
      obtain ⟨⟨⟨hhour, hday⟩, hmonth⟩, hweekday⟩ := honly
      rw [hhour, hday, hmonth, hweekday]
      rfl
    · simp only [if_neg honly]
      exact readBack_laterWords e.minute (by rw [hminute]; rfl)
  | none => exact readBack_laterWords e.minute rfl

theorem eq_or_weekend_of_weekdayNorm_eq {text text' : String}
    (h : weekdayNorm text = weekdayNorm text') :
    text = text' ∨ text = "0,6" ∧ text' = "6,0" ∨ text = "6,0" ∧ text' = "0,6" := by
  unfold weekdayNorm at h
  split at h
  · rename_i hsix
    split at h
    · rename_i hsix'
      exact Or.inl (hsix.trans hsix'.symm)
    · exact Or.inr (Or.inr ⟨hsix, h.symm⟩)
  · split at h
    · rename_i hsix'
      exact Or.inr (Or.inl ⟨h, hsix'⟩)
    · exact Or.inl h

end Description

/-! ## Expressions with the same words -/

/-- The same texts in all fields, but that the weekend may be written in either order. -/
structure Expression.SameButWeekend (e e' : Expression) : Prop where
  minute : e.minute = e'.minute
  hour : e.hour = e'.hour
  dayOfMonth : e.dayOfMonth = e'.dayOfMonth
  month : e.month = e'.month
  dayOfWeek : e.dayOfWeek = e'.dayOfWeek ∨ e.dayOfWeek = "0,6" ∧ e'.dayOfWeek = "6,0" ∨
    e.dayOfWeek = "6,0" ∧ e'.dayOfWeek = "0,6"

theorem Expression.SameButWeekend.of_expressionWords {e e' : Expression}
    (h : Description.expressionWords e = Description.expressionWords e') :
    e.SameButWeekend e' := by
  have hread := congrArg Description.readBack h
  rw [Description.readBack_expressionWords, Description.readBack_expressionWords] at hread
  obtain ⟨hminute, hhour, hday, hmonth, hweekday⟩ := Expression.mk.inj hread
  exact ⟨hminute, hhour, hday, hmonth, Description.eq_or_weekend_of_weekdayNorm_eq hweekday⟩

/-- The order of a list makes no difference to what it holds of. -/
theorem textHolds_weekend (v : UInt32) :
    Field.textHolds .dayOfWeek "0,6" v = Field.textHolds .dayOfWeek "6,0" v := by
  have hread : Field.read .dayOfWeek "0,6" = .ok (.list [0, 6]) := by decide
  have hread' : Field.read .dayOfWeek "6,0" = .ok (.list [6, 0]) := by decide
  rw [Field.textHolds_of_read hread, Field.textHolds_of_read hread']
  have hsame : Pattern.holds (.list [0, 6]) v = Pattern.holds (.list [6, 0]) v := by
    simp [Pattern.holds, Bool.or_comm]
  rw [hsame]
  rfl

theorem Expression.SameButWeekend.runsAt_eq {e e' : Expression} (h : e.SameButWeekend e')
    (t : Instant) : e.runsAt t = e'.runsAt t := by
  have hfield : ∀ (f : Field) v, f.textHolds (e.get f) v = f.textHolds (e'.get f) v := by
    intro f v
    cases f with
    | minute => exact congrArg (Field.textHolds .minute · v) h.minute
    | hour => exact congrArg (Field.textHolds .hour · v) h.hour
    | dayOfMonth => exact congrArg (Field.textHolds .dayOfMonth · v) h.dayOfMonth
    | month => exact congrArg (Field.textHolds .month · v) h.month
    | dayOfWeek =>
      simp only [Expression.get]
      rcases h.dayOfWeek with heq | ⟨heq, heq'⟩ | ⟨heq, heq'⟩
      · rw [heq]
      · rw [heq, heq']
        exact textHolds_weekend v
      · rw [heq, heq']
        exact (textHolds_weekend v).symm
  simp only [runsAt, hfield]

/-! ## Lines with the same description -/

namespace Description

theorem presets_description_inj :
    ∀ p ∈ Preset.all, ∀ q ∈ Preset.all, p.description = q.description → p = q := by decide

theorem presets_head? : ∀ p ∈ Preset.all, p.description.toList.head? = some 'R' := by decide

theorem ofExpression_ne_preset (e : Expression) {p : Preset} (hp : p ∈ Preset.all) :
    ofExpression e ≠ p.description := by
  intro he
  have hhead := head?_ofExpression e
  rw [he, presets_head? p hp] at hhead
  revert hhead
  decide

/-- A line without faults is told by the preset that it is, or else by its fields. -/
theorem ofLine_cases {line : String} {e : Expression} (he : Expression.ofLine line = .ok e)
    (hvalid : e.verdict.valid = true) :
    (∃ p ∈ Preset.all, p.expression = line ∧ ofLine line = p.description) ∨
      ofLine line = ofExpression e := by
  cases hp : Preset.find? line with
  | none =>
    right
    simp [ofLine, he, hvalid, hp]
  | some p =>
    left
    refine ⟨p, List.mem_of_find?_eq_some hp, ?_, ?_⟩
    · simpa using List.find?_some hp
    · simp [ofLine, he, hvalid, hp]

/-- The texts that a line without faults is cut into can be told apart in its description. -/
theorem isToken_get {line : String} {e : Expression} {s : Schedule}
    (he : Expression.ofLine line = .ok e) (hs : Schedule.ofExpression e = .ok s) (f : Field) :
    IsToken (e.get f) := by
  refine ⟨Expression.forall_mem_texts.mp (Expression.isWord_of_ofLine he) f, ?_⟩
  intro hstride
  have hread := (Schedule.ofExpression_eq_ok_iff.mp hs).read_get f
  rw [hstride] at hread
  obtain ⟨cause, hfault⟩ : ∃ cause, f.read "*/" = .error cause := by
    cases f <;> exact ⟨_, rfl⟩
  rw [hfault] at hread
  cases hread

theorem minute_ne_star {line : String} {e : Expression} (he : Expression.ofLine line = .ok e)
    (h : (words line.toList).head? ≠ some ['*']) : e.minute ≠ "*" := by
  intro hstar
  rw [Expression.ofLine_eq_ok_iff.mp he] at h
  exact h (congrArg (some ∘ String.toList) hstar)

/-- Expressions that are told alike, by their fields, have the same texts but for the order of
the weekend. -/
theorem sameButWeekend_of_ofExpression_eq {e e' : Expression} (he : ∀ f, IsToken (e.get f))
    (he' : ∀ f, IsToken (e'.get f)) (hminute : e.minute ≠ "*") (hminute' : e'.minute ≠ "*")
    (h : ofExpression e = ofExpression e') : e.SameButWeekend e' := by
  have hwords : (expressionWords e).map String.toList = (expressionWords e').map String.toList := by
    rw [← words_ofExpression he hminute, ← words_ofExpression he' hminute', h]
  have hinj : Function.Injective (List.map String.toList) :=
    List.map_injective_iff.mpr fun _ _ => String.toList_inj.mp
  exact .of_expressionWords (hinj hwords)

/-- **No two schedules are told alike**, apart from those with the minute `*`: lines without
faults that have the same description are cut into the same texts, but for the order of the
weekend, and run at the same instants. -/
theorem sameButWeekend_of_ofLine_eq {line line' : String}
    (hvalid : (Verdict.ofLine line).valid = true) (hvalid' : (Verdict.ofLine line').valid = true)
    (hminute : (words line.toList).head? ≠ some ['*'])
    (hminute' : (words line'.toList).head? ≠ some ['*']) (h : ofLine line = ofLine line') :
    ∃ e e' s s', Expression.ofLine line = .ok e ∧ Expression.ofLine line' = .ok e' ∧
      Schedule.ofLine line = .ok s ∧ Schedule.ofLine line' = .ok s' ∧
      e.SameButWeekend e' ∧ ∀ t, s.runsAt t = s'.runsAt t := by
  obtain ⟨s, hs⟩ := Verdict.ofLine_valid_iff.mp hvalid
  obtain ⟨s', hs'⟩ := Verdict.ofLine_valid_iff.mp hvalid'
  obtain ⟨e, he, hse⟩ := Schedule.ofLine_eq_ok_iff.mp hs
  obtain ⟨e', he', hse'⟩ := Schedule.ofLine_eq_ok_iff.mp hs'
  have hsame : e.SameButWeekend e' := by
    have hv := Expression.verdict_valid_iff.mpr ⟨s, hse⟩
    have hv' := Expression.verdict_valid_iff.mpr ⟨s', hse'⟩
    -- either both lines are presets, and then the same, or both are told by their fields
    rcases ofLine_cases he hv with ⟨p, hp, hline, hdesc⟩ | hdesc
    · rcases ofLine_cases he' hv' with ⟨p', hp', hline', hdesc'⟩ | hdesc'
      · have hpp' : p = p' :=
          presets_description_inj p hp p' hp' (hdesc.symm.trans (h.trans hdesc'))
        have hll' : line = line' := by rw [← hline, ← hline', hpp']
        rw [hll', he'] at he
        obtain rfl := Except.ok.inj he
        exact ⟨rfl, rfl, rfl, rfl, Or.inl rfl⟩
      · exact absurd (hdesc'.symm.trans (h.symm.trans hdesc)) (ofExpression_ne_preset e' hp)
    · rcases ofLine_cases he' hv' with ⟨p', hp', hline', hdesc'⟩ | hdesc'
      · exact absurd (hdesc.symm.trans (h.trans hdesc')) (ofExpression_ne_preset e hp')
      · exact sameButWeekend_of_ofExpression_eq (isToken_get he hse) (isToken_get he' hse')
          (minute_ne_star he hminute) (minute_ne_star he' hminute')
          (hdesc.symm.trans (h.trans hdesc'))
  refine ⟨e, e', s, s', he, he', hs, hs', hsame, fun t => ?_⟩
  have hread := Schedule.ofExpression_eq_ok_iff.mp hse
  have hread' := Schedule.ofExpression_eq_ok_iff.mp hse'
  rw [hread.runsAt_eq, hread'.runsAt_eq, hsame.runsAt_eq]

/-- The weekend in its two orders, and blanks that are not told. -/
theorem sameButWeekend_of_ofLine_eq_noon :
    ∃ e e' s s', Expression.ofLine "0 12 * * 0,6" = .ok e ∧
      Expression.ofLine " 0\t12 * *  6,0" = .ok e' ∧
      Schedule.ofLine "0 12 * * 0,6" = .ok s ∧ Schedule.ofLine " 0\t12 * *  6,0" = .ok s' ∧
      e.SameButWeekend e' ∧ ∀ t, s.runsAt t = s'.runsAt t :=
  sameButWeekend_of_ofLine_eq (by decide +kernel) (by decide +kernel) (by decide +kernel)
    (by decide +kernel) (by decide +kernel)

/-- With the minute `*`, the other fields are not told. -/
example : ofLine "* 9 * * *" = ofLine "* * 1 1 1" := by decide +kernel

end Description
end Cron
