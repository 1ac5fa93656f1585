import Cron.Proofs.Pattern.Number
import Mathlib.Data.List.Forall2

/-! # The grammar of field texts

`Spells` says which texts spell which pattern, one constructor for each form, and `Fits` says
when the numbers of a pattern keep within the bounds of a field.  The reader looks for the
marks in a text in a fixed order and cuts at each of them without a look at the rest; still a
text is read as a pattern exactly if it spells that pattern and the pattern fits the bounds,
where there are any (`readChars_eq_ok_iff`).

The reason is that a numeral holds no mark.  So a mark that a form does not ask for is found
in no text of that form, and each mark that it asks for is found where the form has it.
-/
namespace Cron

/-- Two ascending numbers within the bounds. -/
def Bounds.Spans (b : Bounds) (first last : UInt32) : Prop :=
  b.contains first = true ∧ b.contains last = true ∧ first < last

namespace Pattern

/-! ## Texts and what they spell -/

/-- The form `x-y`. -/
def IsSpan (cs : List Char) (first last : UInt32) : Prop :=
  ∃ x y, IsNumber x first ∧ IsNumber y last ∧ cs = x ++ '-' :: y

/-- What stands before the slash of a step. -/
inductive SpellsBase : List Char → Base → Prop
  | any : SpellsBase ['*'] .any
  | start {cs : List Char} {a : UInt32} : IsNumber cs a → SpellsBase cs (.start a)
  | range {cs : List Char} {a z : UInt32} : IsSpan cs a z → SpellsBase cs (.range a z)

/-- The forms of a field text: the star, a number, numbers with commas between them, two
numbers with a hyphen between them, and a base with a slash and a number above zero. -/
inductive Spells : List Char → Pattern → Prop
  | any : Spells ['*'] .any
  | single {cs : List Char} {v : UInt32} : IsNumber cs v → Spells cs (.single v)
  | list {parts : List (List Char)} {vs : List UInt32} : 2 ≤ parts.length →
      List.Forall₂ IsNumber parts vs → Spells ([','].intercalate parts) (.list vs)
  | range {cs : List Char} {a z : UInt32} : IsSpan cs a z → Spells cs (.range a z)
  | step {base stride : List Char} {o : Base} {n : UInt32} : SpellsBase base o →
      IsNumber stride n → 1 ≤ n → Spells (base ++ '/' :: stride) (.step o n)

/-- Whether the numbers of a base keep within the bounds, and ascend where there are two. -/
def Base.Fits (b : Bounds) : Base → Prop
  | any => True
  | start a => b.contains a = true
  | range a z => b.Spans a z

/-- Whether the numbers of a pattern keep within the bounds; those of a range have to ascend,
and the stride of a step is free. -/
def Fits (b : Bounds) : Pattern → Prop
  | any => True
  | single v => b.contains v = true
  | list vs => ∀ v ∈ vs, b.contains v = true
  | range a z => b.Spans a z
  | step base _ => base.Fits b

/-! ## Marks -/

/-- The characters that shape a text. -/
def marks : List Char := ['*', '/', '-', ',']

variable {cs : List Char}

/-- Numerals are not written with marks. -/
theorem not_numeral_of_mark {c : Char} (hc : c ∈ marks) :
    Text.isBlank c = false ∧ c ≠ '+' ∧ c.isDigit = false := by
  simp only [marks, List.mem_cons, List.not_mem_nil, or_false] at hc
  rcases hc with rfl | rfl | rfl | rfl <;> decide

/-- A numeral holds no mark. -/
theorem IsNumber.not_mem {v : UInt32} (h : IsNumber cs v) {c : Char} (hc : c ∈ marks) :
    c ∉ cs := by
  intro hmem
  obtain ⟨hb, hp, hd⟩ := not_numeral_of_mark hc
  rcases h.mem_cases hmem with h | h | h
  · exact Bool.false_ne_true (hb.symm.trans h)
  · exact hp h
  · exact Bool.false_ne_true (hd.symm.trans h)

theorem ne_star_of_mem {c : Char} (hc : c ∈ cs) (hne : c ≠ '*') : cs ≠ ['*'] := by
  rintro rfl
  exact hne (List.mem_singleton.mp hc)

theorem IsNumber.ne_star {v : UInt32} (h : IsNumber cs v) : cs ≠ ['*'] := by
  rintro rfl
  exact h.not_mem (by decide : '*' ∈ marks) List.mem_cons_self

/-- A span holds one hyphen and no other mark. -/
theorem IsSpan.not_mem {a z : UInt32} (h : IsSpan cs a z) {c : Char} (hc : c ∈ marks)
    (hh : c ≠ '-') : c ∉ cs := by
  obtain ⟨x, y, hx, hy, rfl⟩ := h
  simp [hx.not_mem hc, hy.not_mem hc, hh]

theorem IsSpan.hyphen_mem {a z : UInt32} (h : IsSpan cs a z) : '-' ∈ cs := by
  obtain ⟨x, y, _, _, rfl⟩ := h
  simp

theorem IsSpan.ne_star {a z : UInt32} (h : IsSpan cs a z) : cs ≠ ['*'] :=
  ne_star_of_mem h.hyphen_mem (by decide)

/-- The base of a step holds no slash. -/
theorem SpellsBase.slash_not_mem {o : Base} (h : SpellsBase cs o) : '/' ∉ cs := by
  cases h with
  | any => decide
  | start h => exact h.not_mem (by decide)
  | range h => exact h.not_mem (by decide) (by decide)

/-- The parts of a list hold no mark. -/
theorem not_mem_of_forall₂ {parts : List (List Char)} {vs : List UInt32}
    (h : List.Forall₂ IsNumber parts vs) {c : Char} (hc : c ∈ marks) : ∀ w ∈ parts, c ∉ w := by
  induction h with
  | nil => exact fun w hw => absurd hw List.not_mem_nil
  | cons hw _ ih =>
    intro w hmem
    rcases List.mem_cons.mp hmem with rfl | hmem
    · exact hw.not_mem hc
    · exact ih w hmem

/-- A text with a character other than a blank is not taken for an empty one. -/
theorem trim_isEmpty_eq_false {c : Char} (hc : c ∈ cs) (hb : Text.isBlank c = false) :
    (Text.trim cs).isEmpty = false := by
  rw [List.isEmpty_eq_false_iff]
  intro he
  rw [Text.trim_eq_nil_iff.mp he c hc] at hb
  exact absurd hb (by decide)

end Pattern
end Cron
