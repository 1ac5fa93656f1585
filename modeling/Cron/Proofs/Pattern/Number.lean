import Cron.Pattern.Reader
import Cron.Proofs.Text

/-! # Numbers of a field, as they are written

A number of a field is written with digits, perhaps with a plus sign before them, and with
any blanks around (`IsNumeral`).  The digits denote a natural number of any size, and a field
holds the nearest number that has room in 32 bits (`IsNumber`).  What `number?` reads is
exactly what is written so (`number?_eq_some_iff`).
-/
namespace Cron.Pattern

open Text (isBlank AllBlank Tight trim)

/-- One digit or more, and the natural number they denote. -/
def IsDigits (cs : List Char) (n : Nat) : Prop :=
  cs ≠ [] ∧ (∀ c ∈ cs, c.isDigit = true) ∧ Nat.ofDigitChars 10 cs 0 = n

/-- Digits with perhaps a plus sign before them, between blanks. -/
def IsNumeral (cs : List Char) (n : Nat) : Prop :=
  ∃ before sign digits after, AllBlank before ∧ AllBlank after ∧ (sign = [] ∨ sign = ['+']) ∧
    IsDigits digits n ∧ cs = before ++ (sign ++ digits) ++ after

/-- A numeral, and the number that stands for it: itself if it has room, else the largest. -/
def IsNumber (cs : List Char) (v : UInt32) : Prop :=
  ∃ n, IsNumeral cs n ∧ v.toNat = min n (UInt32.size - 1)

theorem isBlank_eq_false_of_isDigit {c : Char} (h : c.isDigit = true) : isBlank c = false := by
  simp only [Char.isDigit, Bool.and_eq_true, decide_eq_true_eq, ge_iff_le,
    UInt32.le_iff_toNat_le] at h
  change 48 ≤ c.toNat ∧ c.toNat ≤ 57 at h
  simp only [isBlank, Bool.or_eq_false_iff, Bool.and_eq_false_iff, decide_eq_false_iff_not,
    beq_eq_false_iff_ne]
  omega

theorem tight_sign_digits {sign digits : List Char} {n : Nat} (hs : sign = [] ∨ sign = ['+'])
    (hd : IsDigits digits n) : Tight (sign ++ digits) := by
  obtain ⟨hne, hall, _⟩ := hd
  have hlast : ∀ c ∈ digits.getLast?, isBlank c = false :=
    fun c hc => isBlank_eq_false_of_isDigit (hall c (List.mem_of_getLast? hc))
  have hhead : ∀ c ∈ digits.head?, isBlank c = false :=
    fun c hc => isBlank_eq_false_of_isDigit (hall c (List.mem_of_head? hc))
  rcases hs with rfl | rfl
  · exact ⟨hhead, hlast⟩
  · refine ⟨?_, ?_⟩
    · rintro c ⟨⟩
      decide
    · rwa [List.getLast?_append, List.getLast?_eq_some_getLast hne, Option.some_or,
        ← List.getLast?_eq_some_getLast]

theorem natural?_eq_some_iff {cs : List Char} {n : Nat} :
    Numeral.natural? cs = some n ↔ IsDigits cs n := by
  simp [Numeral.natural?, IsDigits, and_assoc]

theorem unsigned?_eq_some_iff {cs : List Char} {n : Nat} :
    Numeral.unsigned? cs = some n ↔
      ∃ sign digits, (sign = [] ∨ sign = ['+']) ∧ IsDigits digits n ∧ cs = sign ++ digits := by
  constructor
  · intro h
    unfold Numeral.unsigned? at h
    split at h
    · exact ⟨['+'], _, Or.inr rfl, natural?_eq_some_iff.mp h, rfl⟩
    · exact ⟨[], _, Or.inl rfl, natural?_eq_some_iff.mp h, rfl⟩
  · rintro ⟨sign, digits, rfl | rfl, hd, rfl⟩
    · -- digits do not begin with a plus sign, so nothing is taken off them
      rw [Numeral.unsigned?]
      · exact natural?_eq_some_iff.mpr hd
      · rintro rest rfl
        exact absurd (hd.2.1 '+' List.mem_cons_self) (by decide)
    · exact natural?_eq_some_iff.mpr hd

theorem ofNatClamp_eq_iff {n : Nat} {v : UInt32} :
    UInt32.ofNatClamp n = v ↔ v.toNat = min n (UInt32.size - 1) := by
  have hn : (UInt32.ofNatClamp n).toNat = min n (UInt32.size - 1) := by
    unfold UInt32.ofNatClamp
    split <;> rw [UInt32.toNat_ofNatLT] <;> omega
  rw [← UInt32.toNat_inj, hn, eq_comm]

/-- A numeral is what is read as one between the blanks. -/
theorem isNumeral_iff {cs : List Char} {n : Nat} :
    IsNumeral cs n ↔ Numeral.unsigned? (trim cs) = some n := by
  rw [unsigned?_eq_some_iff]
  constructor
  · rintro ⟨before, sign, digits, after, hb, ha, hs, hd, hcs⟩
    have htight := tight_sign_digits hs hd
    exact ⟨sign, digits, hs, hd, Text.trim_eq_iff.mpr ⟨htight, before, after, hb, ha, hcs⟩⟩
  · rintro ⟨sign, digits, hs, hd, htrim⟩
    obtain ⟨_, before, after, hb, ha, hcs⟩ := Text.trim_eq_iff.mp htrim
    exact ⟨before, sign, digits, after, hb, ha, hs, hd, hcs⟩

/-- No text is the numeral of two numbers. -/
theorem IsNumeral.unique {cs : List Char} {n m : Nat} (hn : IsNumeral cs n)
    (hm : IsNumeral cs m) : n = m :=
  Option.some.inj ((isNumeral_iff.mp hn).symm.trans (isNumeral_iff.mp hm))

/-- Reading a number is the same as recognising one. -/
theorem number?_eq_some_iff {cs : List Char} {v : UInt32} :
    number? cs = some v ↔ IsNumber cs v := by
  simp only [number?, Option.map_eq_some_iff, IsNumber, ofNatClamp_eq_iff, isNumeral_iff]

/-- A numeral is made of blanks, plus signs and digits. -/
theorem IsNumber.mem_cases {cs : List Char} {v : UInt32} (h : IsNumber cs v) {c : Char}
    (hc : c ∈ cs) : isBlank c = true ∨ c = '+' ∨ c.isDigit = true := by
  obtain ⟨_, ⟨before, sign, digits, after, hb, ha, hs, hd, rfl⟩, _⟩ := h
  rcases List.mem_append.mp hc with hc | hc
  · rcases List.mem_append.mp hc with hc | hc
    · exact Or.inl (hb c hc)
    · rcases List.mem_append.mp hc with hc | hc
      · rcases hs with rfl | rfl
        · exact absurd hc List.not_mem_nil
        · exact Or.inr (Or.inl (List.mem_singleton.mp hc))
      · exact Or.inr (Or.inr (hd.2.1 c hc))
  · exact Or.inl (ha c hc)

/-- A numeral has a digit in it, so it is not blank. -/
theorem IsNumber.exists_isDigit {cs : List Char} {v : UInt32} (h : IsNumber cs v) :
    ∃ c ∈ cs, c.isDigit = true := by
  obtain ⟨_, ⟨before, sign, digits, after, _, _, _, hd, rfl⟩, _⟩ := h
  obtain ⟨c, rest, rfl⟩ := List.exists_cons_of_ne_nil hd.1
  exact ⟨c, by simp, hd.2.1 c List.mem_cons_self⟩

theorem IsNumber.not_allBlank {cs : List Char} {v : UInt32} (h : IsNumber cs v) :
    ¬ AllBlank cs := by
  intro hblank
  obtain ⟨c, hc, hdigit⟩ := h.exists_isDigit
  exact Bool.false_ne_true ((isBlank_eq_false_of_isDigit hdigit).symm.trans (hblank c hc))

end Cron.Pattern
