import Cron.Expression
import Cron.Proofs.Text.Words

/-! # Lines and expressions

An expression is written as a line and a line is cut into an expression, and neither way undoes
the other in general.  Writing an expression keeps the words of its five texts but not the
borders between the texts, so a text with a blank in it pushes words into the texts behind it,
and an empty one pulls them forward.  Cutting a line keeps its words but not its blanks.

Both are settled by one fact: a line is cut into an expression exactly if its words are the five
texts (`ofLine_eq_ok_iff`).
-/
namespace Cron.Expression

open Text (IsWord SinglySpaced words)

variable {e : Expression} {line : String}

/-- The characters of the five texts, in the order of the fields. -/
def texts (e : Expression) : List (List Char) := Field.all.map fun f => (e.get f).toList

theorem forall_mem_texts {p : List Char → Prop} :
    (∀ cs ∈ e.texts, p cs) ↔ ∀ f, p (e.get f).toList := by
  simp [texts, Field.mem_all]

@[simp] theorem length_texts (e : Expression) : e.texts.length = 5 := rfl

/-- The words of the five texts, one text after the other. -/
def fieldWords (e : Expression) : List (List Char) :=
  Field.all.flatMap fun f => words (e.get f).toList

/-! ## Cutting -/

/-- A line is cut into an expression exactly if its words are the five texts. -/
theorem ofLine_eq_ok_iff : ofLine line = .ok e ↔ words line.toList = e.texts := by
  unfold ofLine
  constructor
  · intro h
    split at h
    · rename_i hws
      obtain rfl := Except.ok.inj h
      simp [hws, texts, Field.all, get]
    · cases h
  · intro h
    rw [h]
    simp [texts, Field.all, get]

/-- A line of five words is cut into them. -/
theorem ofLine_of_five_words (h : (words line.toList).length = 5) :
    ∃ e, ofLine line = .ok e ∧ e.texts = words line.toList := by
  obtain ⟨m, hr, dm, mo, wd, hws⟩ : ∃ m hr dm mo wd, words line.toList = [m, hr, dm, mo, wd] := by
    match words line.toList, h with
    | [m, hr, dm, mo, wd], _ => exact ⟨m, hr, dm, mo, wd, rfl⟩
  refine ⟨⟨.ofList m, .ofList hr, .ofList dm, .ofList mo, .ofList wd⟩, ?_, ?_⟩
  · rw [ofLine, hws]
  · simp [hws, texts, Field.all, get]

/-- A line of more or fewer words is refused. -/
theorem ofLine_of_other_words (h : (words line.toList).length ≠ 5) :
    ofLine line = .error (.wordCount (words line.toList).length) := by
  unfold ofLine
  split
  · rename_i hws
    rw [hws] at h
    exact absurd rfl h
  · rfl

/-- The texts of a line that was cut are words. -/
theorem isWord_of_ofLine (h : ofLine line = .ok e) : ∀ cs ∈ e.texts, IsWord cs := by
  rw [← ofLine_eq_ok_iff.mp h]
  exact fun _ => Text.isWord_of_mem_words

/-! ## Writing -/

theorem toList_line (e : Expression) : e.line.toList = [' '].intercalate e.texts := by
  simp [line, texts, Field.all, get, List.intercalate_cons_cons]

theorem words_line (e : Expression) : words e.line.toList = e.fieldWords := by
  rw [toList_line, Text.words_intercalate, texts, List.flatMap_map]
  rfl

/-- An expression comes back from its line exactly if its texts are words. -/
theorem ofLine_line_eq_self_iff : ofLine e.line = .ok e ↔ ∀ cs ∈ e.texts, IsWord cs := by
  constructor
  · exact isWord_of_ofLine
  · intro h
    rw [ofLine_eq_ok_iff, toList_line, Text.words_intercalate_of_isWord h]

/-- What writing and cutting keep. -/
structure RoundTrip (e : Expression) : Prop where
  /-- The words of the line are those of the five texts, in the order of the fields. -/
  words_line : words e.line.toList = e.fieldWords
  /-- The line is cut again exactly if these are five, ... -/
  cut_iff : (∃ d, ofLine e.line = .ok d) ↔ e.fieldWords.length = 5
  /-- ... and the texts are these words then; ... -/
  texts_of_cut : ∀ d, ofLine e.line = .ok d → d.texts = e.fieldWords
  /-- ... otherwise it is refused with their number. -/
  refused : e.fieldWords.length ≠ 5 → ofLine e.line = .error (.wordCount e.fieldWords.length)
  /-- The expression itself comes back exactly if no text is empty or holds a blank. -/
  back_iff : ofLine e.line = .ok e ↔
    ∀ f, e.get f ≠ "" ∧ ∀ c ∈ (e.get f).toList, Text.isBlank c = false
  /-- It does so if it was cut from a line, ... -/
  back_of_cut : ∀ line, ofLine line = .ok e → ofLine e.line = .ok e
  /-- ... and its line is that line exactly if the only blanks in it were single spaces between
  other characters. -/
  line_eq_iff : ∀ line, ofLine line = .ok e → (e.line = line ↔ SinglySpaced line.toList)

/-- **Writing keeps the words of the texts, and cutting keeps the words of the line.** -/
theorem roundTrip (e : Expression) : RoundTrip e where
  words_line := e.words_line
  cut_iff := by
    rw [← e.words_line]
    constructor
    · rintro ⟨d, hd⟩
      rw [ofLine_eq_ok_iff.mp hd, length_texts]
    · intro hfive
      obtain ⟨d, hd, -⟩ := ofLine_of_five_words hfive
      exact ⟨d, hd⟩
  texts_of_cut := by
    intro d hd
    rw [← e.words_line, ofLine_eq_ok_iff.mp hd]
  refused := by
    rw [← e.words_line]
    exact ofLine_of_other_words
  back_iff := by
    rw [ofLine_line_eq_self_iff, forall_mem_texts]
    simp [IsWord]
  back_of_cut := fun line h => ofLine_line_eq_self_iff.mpr (isWord_of_ofLine h)
  line_eq_iff := by
    intro line h
    rw [← String.toList_inj, toList_line, ← ofLine_eq_ok_iff.mp h,
      Text.intercalate_words_eq_iff]

/-- A text of two words moves those behind it by one, and an empty text takes the room. -/
example : ofLine (Expression.mk "0 9" "1" "" "2" "3").line = .ok ⟨"0", "9", "1", "2", "3"⟩ := by
  decide

end Cron.Expression
