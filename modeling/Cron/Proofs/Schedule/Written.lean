import Cron.Proofs.Expression.Line
import Cron.Proofs.Pattern.Trimming
import Cron.Proofs.Schedule.Reading

/-! # Written schedules

An expression that compiles need not come back from its line, for its texts may hold blanks.
Yet its line never stands for another schedule: each of the five texts has a word in it, so the
line has five words or more; with more it is refused, and with five each text is one word with
blanks around it, which do not matter to its pattern (`KeptByLine`).

One thing is lost, and it is no pattern.  The Sundays that the text `7` adds depend on the text
being exactly that, so they are there after the blanks around a 7 were dropped, and were not
there before.
-/
namespace Cron

open Calendar (Instant)
open Text (words)

namespace Expression

/-- The expression without the blanks at the ends of its texts. -/
def trimmed (e : Expression) : Expression where
  minute := .ofList (Text.trim e.minute.toList)
  hour := .ofList (Text.trim e.hour.toList)
  dayOfMonth := .ofList (Text.trim e.dayOfMonth.toList)
  month := .ofList (Text.trim e.month.toList)
  dayOfWeek := .ofList (Text.trim e.dayOfWeek.toList)

variable {e : Expression}

@[simp] theorem get_trimmed (e : Expression) (f : Field) :
    e.trimmed.get f = .ofList (Text.trim (e.get f).toList) := by
  cases f <;> rfl

theorem dayOfWeek_trimmed_of_seven (h : e.dayOfWeek = "7") : e.trimmed.dayOfWeek = "7" := by
  show String.ofList (Text.trim e.dayOfWeek.toList) = "7"
  rw [h]
  decide

theorem length_fieldWords (e : Expression) :
    e.fieldWords.length = (words e.minute.toList).length + (words e.hour.toList).length +
      (words e.dayOfMonth.toList).length + (words e.month.toList).length +
      (words e.dayOfWeek.toList).length := by
  simp [fieldWords, Field.all, get, Nat.add_assoc]

/-- Five texts none of which is blank have five words or more, and with five there is one word
in each. -/
theorem five_le_length_fieldWords (hne : ∀ f, words (e.get f).toList ≠ []) :
    5 ≤ e.fieldWords.length ∧
      (e.fieldWords.length = 5 → ∀ f, (words (e.get f).toList).length = 1) := by
  have hpos : ∀ f, 1 ≤ (words (e.get f).toList).length :=
    fun f => List.length_pos_iff.mpr (hne f)
  have hminute : 1 ≤ (words e.minute.toList).length := hpos .minute
  have hhour : 1 ≤ (words e.hour.toList).length := hpos .hour
  have hday : 1 ≤ (words e.dayOfMonth.toList).length := hpos .dayOfMonth
  have hmonth : 1 ≤ (words e.month.toList).length := hpos .month
  have hweek : 1 ≤ (words e.dayOfWeek.toList).length := hpos .dayOfWeek
  rw [length_fieldWords]
  refine ⟨by omega, fun hfive f => ?_⟩
  cases f <;> simp only [get] <;> omega

/-- Where each text has one word, the line is cut into the trimmed texts. -/
theorem ofLine_line_eq_trimmed (h : ∀ f, (words (e.get f).toList).length = 1) :
    ofLine e.line = .ok e.trimmed := by
  have hword : ∀ f, words (e.get f).toList = [(e.trimmed.get f).toList] := by
    intro f
    obtain ⟨w, hw⟩ := List.length_eq_one_iff.mp (h f)
    rw [hw, get_trimmed, String.toList_ofList, (Text.words_eq_singleton_iff.mp hw).2]
  rw [ofLine_eq_ok_iff, words_line, fieldWords, texts, List.map_eq_flatMap]
  exact List.flatMap_congr fun f _ => hword f

end Expression

namespace Schedule

variable {e : Expression} {s : Schedule}

theorem IsReadingOf.words_ne_nil (h : s.IsReadingOf e) (f : Field) :
    words (e.get f).toList ≠ [] :=
  Pattern.words_ne_nil_of_readChars (h.read_get f)

/-- The patterns do not depend on the flag for the Sundays. -/
theorem pattern_alsoSunday (s : Schedule) (b : Bool) (f : Field) :
    pattern { s with alsoSunday := b } f = s.pattern f := by
  cases f <;> rfl

/-- The trimmed texts are read as the same patterns. -/
theorem IsReadingOf.trimmed (h : s.IsReadingOf e) :
    IsReadingOf { s with alsoSunday := e.trimmed.dayOfWeek == "7" } e.trimmed where
  read_get := by
    intro f
    rw [pattern_alsoSunday, Field.read, Expression.get_trimmed, String.toList_ofList]
    exact Pattern.readChars_trim (h.read_get f)
  alsoSunday := rfl

/-- A schedule to which the Sundays are added runs at its own instants and on those Sundays at
which its other fields hold. -/
theorem runsAt_addSunday (s : Schedule) (t : Instant) :
    runsAt { s with alsoSunday := true } t = true ↔
      s.runsAt t = true ∨ t.date.weekday = 0 ∧
        ∀ f, f ≠ .dayOfWeek → (s.pattern f).holds (t.value f) = true := by
  rw [runsAt_iff, runsAt_iff]
  simp only [pattern_alsoSunday]
  tauto

/-- What an expression and its schedule become when the line of the expression is read. -/
structure KeptByLine (e : Expression) (s : Schedule) : Prop where
  /-- The line has five words or more. -/
  five_le : 5 ≤ (words e.line.toList).length
  /-- With more than five it is refused, and their number told. -/
  refused : 5 < (words e.line.toList).length →
    ofLine e.line = .error (.wordCount (words e.line.toList).length)
  /-- With five it is cut into the trimmed texts, ... -/
  trimmed : (words e.line.toList).length = 5 → Expression.ofLine e.line = .ok e.trimmed
  /-- ... and these make up a schedule with the same patterns.  It runs at the same instants,
  unless a text other than `7` was trimmed to that: then it also runs on the Sundays at which
  the other four fields hold. -/
  kept : (words e.line.toList).length = 5 → ∃ s', ofExpression e.trimmed = .ok s' ∧
    ofLine e.line = .ok s' ∧ (∀ f, s'.pattern f = s.pattern f) ∧
    (¬ (e.dayOfWeek ≠ "7" ∧ e.trimmed.dayOfWeek = "7") → ∀ t, s'.runsAt t = s.runsAt t) ∧
    (e.dayOfWeek ≠ "7" ∧ e.trimmed.dayOfWeek = "7" → ∀ t, s'.runsAt t = true ↔
      s.runsAt t = true ∨ t.date.weekday = 0 ∧
        ∀ f, f ≠ .dayOfWeek → (s.pattern f).holds (t.value f) = true)

/-- **The line of an expression that compiles stands for its schedule or for none**, but for
the Sundays of a 7 with blanks around it. -/
theorem keptByLine (h : ofExpression e = .ok s) : KeptByLine e s := by
  have hread := ofExpression_eq_ok_iff.mp h
  obtain ⟨hle, hone⟩ := Expression.five_le_length_fieldWords hread.words_ne_nil
  rw [← Expression.words_line] at hle hone
  have hcut : (words e.line.toList).length = 5 → Expression.ofLine e.line = .ok e.trimmed :=
    fun hfive => Expression.ofLine_line_eq_trimmed (hone hfive)
  refine ⟨hle, fun hmore => ?_, hcut, fun hfive => ?_⟩
  · rw [ofLine, Expression.ofLine_of_other_words (by omega)]
    rfl
  · have hcompiles := ofExpression_eq_ok_iff.mpr hread.trimmed
    refine ⟨_, hcompiles, ofLine_eq_ok_iff.mpr ⟨_, hcut hfive, hcompiles⟩,
      pattern_alsoSunday s _, fun hsame t => ?_, ?_⟩
    · have hflag : (e.trimmed.dayOfWeek == "7") = s.alsoSunday := by
        rw [hread.alsoSunday]
        by_cases hseven : e.dayOfWeek = "7"
        · rw [hseven, Expression.dayOfWeek_trimmed_of_seven hseven]
        · rw [beq_eq_false_iff_ne.mpr hseven,
            beq_eq_false_iff_ne.mpr fun ht => hsame ⟨hseven, ht⟩]
      rw [hflag]
    · rintro ⟨-, hseven⟩ t
      rw [beq_iff_eq.mpr hseven]
      exact runsAt_addSunday s t

/-- One word in each text, and a 7 that gets its Sundays from the trimming. -/
theorem keptByLine_blank_seven :
    let e : Expression := ⟨"+05\t", "*/1\u2003", "*", "1,02\n", " 7"⟩
    let s : Schedule := ⟨.single 5, .step .any 1, .any, .list [1, 2], .single 7, false⟩
    ofExpression e = .ok s ∧ (words e.line.toList).length = 5 ∧ KeptByLine e s := by
  intro e s
  have h : ofExpression e = .ok s := by decide +kernel
  exact ⟨h, by decide +kernel, keptByLine h⟩

end Schedule
end Cron
