import Cron.Proofs.Description.Reading
import Cron.Proofs.Pattern.Saturation

/-! # Singular and plural

The text `*/n` in the minute or in the hour is told as `n minutes` or `n hours`, with `n` as it was
written.  The count is read twice, and not in the same way.  A schedule takes the largest number in
place of a count that has no room in 32 bits; a description takes such a count for none, and so for
the singular.  Hence the unit follows the stride of the schedule exactly if the count has room,
however it is written (`unit_follows_stride_iff`), and a larger count is told in the singular though
the stride is far above one (`singular_beyond_room`).
-/
namespace Cron.Description

open Pattern (IsNumeral IsNumber SpellsBase)

/-! ## What a description says of a stride -/

/-- A unit in the plural or in the singular. -/
def unitIn (plural : Bool) (unit : String) : String := unit ++ (if plural then "s" else "")

/-- The text begins with `n` minutes, in the plural or in the singular, and either ends there or
goes on behind a comma. -/
def TellsMinutes (text n : String) (plural : Bool) : Prop :=
  ∃ rest, (rest = "" ∨ ∃ more, rest = "," ++ more) ∧
    text = "Every " ++ n ++ " " ++ unitIn plural "minute" ++ rest

/-- What stands before the phrase of the hour. -/
def minutePhrase (e : Expression) : String :=
  match stride? e.minute.toList with
  | some n => "Every " ++ counted n "minute" ++ ","
  | none => "At minute " ++ e.minute

/-- Between the minute and the days, the text tells the hour as `n` hours, in the plural or in the
singular. -/
def TellsHours (e : Expression) (text n : String) (plural : Bool) : Prop :=
  text = minutePhrase e ++ (" every " ++ n ++ " " ++ unitIn plural "hour") ++
    (dayPhrase e.dayOfMonth ++ monthPhrase e.month ++ weekdayPhrase e.dayOfWeek)

variable {text n rest : String} {e : Expression} {b b' : Bool}

theorem head?_ne_s (h : rest = "" ∨ ∃ more, rest = "," ++ more) :
    rest.toList.head? ≠ some 's' := by
  rcases h with rfl | ⟨more, rfl⟩
  · decide
  · simp

/-- No text tells a count of minutes in the plural and in the singular. -/
theorem TellsMinutes.unique (h : TellsMinutes text n b) (h' : TellsMinutes text n b') :
    b = b' := by
  obtain ⟨rest, hrest, rfl⟩ := h
  obtain ⟨rest', hrest', heq⟩ := h'
  have htail : (if b then ['s'] else []) ++ rest.toList =
      (if b' then ['s'] else []) ++ rest'.toList := by
    rw [← String.toList_inj] at heq
    cases b <;> cases b' <;> simpa [unitIn] using heq
  -- an s belongs to the unit, for what stands behind begins with another letter
  cases b <;> cases b'
  · rfl
  · exact absurd (congrArg List.head? htail) (head?_ne_s hrest)
  · exact absurd (congrArg List.head? htail.symm) (head?_ne_s hrest')
  · rfl

/-- No text tells a count of hours in the plural and in the singular. -/
theorem TellsHours.unique (h : TellsHours e text n b) (h' : TellsHours e text n b') :
    b = b' := by
  have hunit : unitIn b "hour" = unitIn b' "hour" := by
    rw [TellsHours] at h h'
    rw [h, ← String.toList_inj] at h'
    simpa [← String.toList_inj] using h'
  revert hunit
  cases b <;> cases b' <;> decide

theorem stride?_eq_some (n : String) : stride? ("*/" ++ n).toList = some n.toList := by
  simp [stride?]

theorem counted_eq (n unit : String) :
    counted n.toList unit = n ++ " " ++ unitIn (isPlural n.toList) unit := by
  simp [counted, unitIn, String.append_assoc]

/-- A stride in the minute is what the description begins with. -/
theorem tellsMinutes_ofExpression (h : e.minute = "*/" ++ n) :
    TellsMinutes (ofExpression e) n (isPlural n.toList) := by
  have hstar : e.minute ≠ "*" := by
    rw [h, ne_eq, ← String.toList_inj]
    simp
  rw [ofExpression, if_neg hstar, h, stride?_eq_some]
  simp only [counted_eq]
  by_cases honly : minuteOnly e = true
  · rw [if_pos honly]
    exact ⟨"", Or.inl rfl, by simp [String.append_assoc]⟩
  · rw [if_neg honly]
    exact ⟨"," ++ laterPhrases e, Or.inr ⟨_, rfl⟩, by simp [String.append_assoc]⟩

/-- A stride in the hour is told behind the minute, whatever the minute is but `*`. -/
theorem tellsHours_ofExpression (hminute : e.minute ≠ "*") (h : e.hour = "*/" ++ n) :
    TellsHours e (ofExpression e) n (isPlural n.toList) := by
  have hstar : e.hour ≠ "*" := by
    rw [h, ne_eq, ← String.toList_inj]
    simp
  have honly : ¬ minuteOnly e = true := by simp [minuteOnly, hstar]
  have hhour : hourPhrase e.hour = " every " ++ n ++ " " ++ unitIn (isPlural n.toList) "hour" := by
    rw [hourPhrase, if_neg hstar, h, stride?_eq_some]
    simp only [counted_eq, String.append_assoc]
  have htext : ofExpression e = minutePhrase e ++ laterPhrases e := by
    rw [ofExpression, if_neg hminute, minutePhrase]
    cases stride? e.minute.toList with
    | some m => simp [honly]
    | none => rfl
  rw [TellsHours, htext, laterPhrases, hhour]
  simp only [String.append_assoc]

/-! ## The two readings of a count -/

/-- What holds of a field with the text `*/n` and its pattern, where `tells` says whether the count
is told in the plural. -/
structure StrideTold (n : String) (p : Pattern) (tells : Bool → Prop) (size : Nat)
    (stride : UInt32) : Prop where
  /-- The count is a numeral, and the number that it denotes may be of any size. -/
  numeral : IsNumeral n.toList size
  /-- That number is above zero. -/
  one_le : 1 ≤ size
  /-- The pattern is a step without a beginning of its own. -/
  pattern : p = .step .any stride
  /-- Its stride is the number, or the largest one if the number has no room. -/
  nearest : stride.toNat = min size (UInt32.size - 1)
  /-- The unit is in the plural for a number above one that has room. -/
  told : tells (decide (1 < size ∧ size < UInt32.size))
  /-- So the unit is the one that the stride asks for exactly if the number has room. -/
  follows_iff : tells (decide (1 < stride)) ↔ size < UInt32.size

theorem isPlural_eq {cs : List Char} {size : Nat} (h : IsNumeral cs size) :
    isPlural cs = decide (1 < size ∧ size < UInt32.size) := by
  rw [isPlural, Pattern.isNumeral_iff.mp h, Bool.decide_and]
  rfl

/-- A text `*/n` is read as a step without a beginning of its own, with the number of `n` for its
stride. -/
theorem exists_stride_of_read {f : Field} {p : Pattern} (h : f.read ("*/" ++ n) = .ok p) :
    ∃ stride, IsNumber n.toList stride ∧ 1 ≤ stride ∧ p = .step .any stride := by
  have htext : ("*/" ++ n).toList = '*' :: '/' :: n.toList := by simp
  rw [Field.read, htext, Pattern.readChars_of_slash (by simp), Pattern.readStep_eq_ok_iff] at h
  obtain ⟨base, count, o, stride, hbase, hnum, hpos, hcut, rfl, -⟩ := h
  -- there is no slash in a base, so the first one is where the text is cut
  obtain ⟨rfl, rfl⟩ : base = ['*'] ∧ count = n.toList := by
    rcases base with _ | ⟨c, _ | ⟨d, base⟩⟩
    · simp at hcut
    · simpa [eq_comm] using hcut
    · simp only [List.cons_append, List.cons.injEq] at hcut
      exact absurd (by simp [← hcut.2.1]) hbase.slash_not_mem
  refine ⟨stride, hnum, hpos, ?_⟩
  cases hbase with
  | any => rfl
  | start hstart => exact absurd rfl hstart.ne_star
  | range hspan => exact absurd rfl hspan.ne_star

/-- The two readings of a count agree on whether there is more than one, as long as it has room. -/
theorem strideTold_of_read {f : Field} {p : Pattern} {tells : Bool → Prop}
    (h : f.read ("*/" ++ n) = .ok p) (htells : tells (isPlural n.toList))
    (hunique : ∀ b b', tells b → tells b' → b = b') :
    ∃ size stride, StrideTold n p tells size stride := by
  obtain ⟨stride, ⟨size, hsize, hmin⟩, hpos, rfl⟩ := exists_stride_of_read h
  rw [isPlural_eq hsize] at htells
  rw [UInt32.le_iff_toNat_le, UInt32.toNat_one] at hpos
  have hmany : 1 < stride ↔ 1 < min size (UInt32.size - 1) := by
    rw [UInt32.lt_iff_toNat_lt, hmin, UInt32.toNat_one]
  refine ⟨size, stride, hsize, by omega, rfl, hmin, htells, ⟨?_, fun hroom => ?_⟩⟩
  · intro hfollows
    -- the plural of the stride and the singular of the count would be told of one text
    by_contra hlarge
    have hsame := hunique _ _ hfollows htells
    rw [decide_eq_decide, hmany] at hsame
    have hroom : 1 < UInt32.size - 1 := by decide
    omega
  · have hsame : 1 < stride ↔ 1 < size ∧ size < UInt32.size := by
      rw [hmany]
      omega
    rw [decide_eq_decide.mpr hsame]
    exact htells

/-! ## Lines -/

/-- **A count has the unit that its stride asks for exactly if it has room.**  This holds of the
minutes and of the hours in the description of every line without faults that is no preset. -/
theorem unit_follows_stride_iff {line : String} (hvalid : (Verdict.ofLine line).valid = true)
    (hpreset : ∀ p ∈ Preset.all, p.expression ≠ line) :
    ∃ e s, Expression.ofLine line = .ok e ∧ Schedule.ofLine line = .ok s ∧
      (∀ n, e.minute = "*/" ++ n →
        ∃ size stride, StrideTold n s.minute (TellsMinutes (ofLine line) n) size stride) ∧
      (e.minute ≠ "*" → ∀ n, e.hour = "*/" ++ n →
        ∃ size stride, StrideTold n s.hour (TellsHours e (ofLine line) n) size stride) := by
  obtain ⟨s, hs⟩ := Verdict.ofLine_valid_iff.mp hvalid
  obtain ⟨e, he, hse⟩ := Schedule.ofLine_eq_ok_iff.mp hs
  have hread := (Schedule.ofExpression_eq_ok_iff.mp hse).read_get
  have htext : ofLine line = ofExpression e := by
    rcases ofLine_cases he (Expression.verdict_valid_iff.mpr ⟨s, hse⟩) with ⟨p, hp, hline, -⟩ | h
    · exact absurd hline (hpreset p hp)
    · exact h
  rw [htext]
  refine ⟨e, s, he, hs, fun n hn => ?_, fun hminute n hn => ?_⟩
  · exact strideTold_of_read (f := .minute) (hn ▸ hread .minute) (tellsMinutes_ofExpression hn)
      fun _ _ => TellsMinutes.unique
  · exact strideTold_of_read (f := .hour) (hn ▸ hread .hour) (tellsHours_ofExpression hminute hn)
      fun _ _ => TellsHours.unique

/-- A plus sign and zeros before the minutes, and an hour that is told in the singular. -/
theorem unit_follows_stride_iff_signed :
    ∃ e s, Expression.ofLine "*/+007 */01 * * 1-5" = .ok e ∧
      Schedule.ofLine "*/+007 */01 * * 1-5" = .ok s ∧
      (∀ n, e.minute = "*/" ++ n → ∃ size stride,
        StrideTold n s.minute (TellsMinutes (ofLine "*/+007 */01 * * 1-5") n) size stride) ∧
      (e.minute ≠ "*" → ∀ n, e.hour = "*/" ++ n → ∃ size stride,
        StrideTold n s.hour (TellsHours e (ofLine "*/+007 */01 * * 1-5") n) size stride) :=
  unit_follows_stride_iff (by decide +kernel) (by decide +kernel)

/-- The least count without room is told in the singular, though the stride is the largest
number. -/
theorem singular_beyond_room :
    (Verdict.ofLine "*/4294967296 * * * *").valid = true ∧
    (∀ p ∈ Preset.all, p.expression ≠ "*/4294967296 * * * *") ∧
    (∃ s stride, Schedule.ofLine "*/4294967296 * * * *" = .ok s ∧
      s.minute = .step .any stride ∧ 1 < stride) ∧
    ofLine "*/4294967296 * * * *" = "Every 4294967296 minute" ∧
    ¬ TellsMinutes (ofLine "*/4294967296 * * * *") "4294967296" true := by
  have htext : ofLine "*/4294967296 * * * *" = "Every 4294967296 minute" := by decide +kernel
  have hsingular : TellsMinutes (ofLine "*/4294967296 * * * *") "4294967296" false :=
    ⟨"", Or.inl rfl, by rw [htext]; decide⟩
  refine ⟨by decide +kernel, by decide +kernel, ?_, htext, fun hplural => ?_⟩
  · exact ⟨⟨.step .any 4294967295, .any, .any, .any, .any, false⟩, 4294967295, by decide +kernel,
      rfl, by decide⟩
  · exact Bool.false_ne_true (hsingular.unique hplural)

end Cron.Description
