import Cron.Proofs.Pattern.Exact
import Cron.Proofs.Text

/-! # Written patterns

`Pattern.text` writes a pattern with decimal numerals and without blanks.  What was written is read
again, and only a list of a single number is read as that number, which makes no difference to what
the text holds of (`exists_spells_chars`).  So a written text holds of the numbers that its pattern
denotes, and two patterns that denote the same ones may be written for each other (`agree_text`).

For a range with a stride there are other forms: the list of its numbers, which is an ascending
progression, and some that serve for a stride of one, for a range that begins with zero or for one
that ends with the largest number (`shapes_interchangeable`).
-/
namespace Cron
namespace Pattern

/-- The decimal numeral of a number. -/
def numeral (v : UInt32) : List Char := Numeral.ofNat v.toNat

/-- The characters of a base. -/
def Base.chars : Base → List Char
  | any => ['*']
  | start a => numeral a
  | range a z => numeral a ++ '-' :: numeral z

/-- The characters of a pattern. -/
def chars : Pattern → List Char
  | any => ['*']
  | single v => numeral v
  | list vs => [','].intercalate (vs.map numeral)
  | range a z => numeral a ++ '-' :: numeral z
  | step o n => o.chars ++ '/' :: numeral n

/-- The text of a pattern. -/
def text (p : Pattern) : String := .ofList p.chars

example : text (.step (.range 10 40) 5) = "10-40/5" := by decide
example : text (.list [0, 15, 30]) = "0,15,30" := by decide

/-! ## Reading what was written -/

theorem isNumber_numeral (v : UInt32) : IsNumber (numeral v) v := by
  have hroom : v.toNat ≤ UInt32.size - 1 := Nat.le_pred_of_lt v.toNat_lt_size
  have hdigits : IsDigits (numeral v) v.toNat :=
    ⟨Numeral.ofNat_ne_nil _, fun _ hc => Numeral.isDigit_of_mem_ofNat hc,
      Numeral.ofDigitChars_ofNat _⟩
  refine ⟨v.toNat, ⟨[], [], numeral v, [], ?_, ?_, Or.inl rfl, hdigits, by simp⟩,
    (Nat.min_eq_left hroom).symm⟩
  · exact fun c hc => absurd hc List.not_mem_nil
  · exact fun c hc => absurd hc List.not_mem_nil

theorem isSpan_numerals (a z : UInt32) : IsSpan (numeral a ++ '-' :: numeral z) a z :=
  ⟨numeral a, numeral z, isNumber_numeral a, isNumber_numeral z, rfl⟩

theorem spellsBase_chars (o : Base) : SpellsBase o.chars o := by
  cases o with
  | any => exact .any
  | start a => exact .start (isNumber_numeral a)
  | range a z => exact .range (isSpan_numerals a z)

/-- The form of a list: numbers with commas between them, or one number alone. -/
def IsListing (cs : List Char) (vs : List UInt32) : Prop :=
  ∃ parts, parts ≠ [] ∧ List.Forall₂ IsNumber parts vs ∧ cs = [','].intercalate parts

theorem isListing_numerals {vs : List UInt32} (h : vs ≠ []) :
    IsListing ([','].intercalate (vs.map numeral)) vs := by
  refine ⟨_, mt List.map_eq_nil_iff.mp h, ?_, rfl⟩
  exact List.forall₂_map_left_iff.mpr (List.forall₂_same.mpr fun v _ => isNumber_numeral v)

/-- A text of that form spells a pattern that holds of the numbers in the list. -/
theorem IsListing.exists_spells {cs : List Char} {vs : List UInt32} (h : IsListing cs vs) :
    ∃ q, Spells cs q ∧ (∀ v, q.holds v = vs.contains v) ∧
      ∀ b : Bounds, (∀ v ∈ vs, b.contains v = true) → q.Fits b := by
  obtain ⟨parts, hne, hparts, rfl⟩ := h
  by_cases hlen : 2 ≤ parts.length
  · exact ⟨.list vs, .list hlen hparts, fun _ => rfl, fun _ hb => hb⟩
  · -- with one number there is no comma, and the text is that of the number
    obtain ⟨part, rfl⟩ : ∃ part, parts = [part] := by
      have hpos : 0 < parts.length := List.length_pos_of_ne_nil hne
      exact List.length_eq_one_iff.mp (by omega)
    obtain ⟨v, rest, hnum, hrest, rfl⟩ := List.forall₂_cons_left_iff.mp hparts
    obtain rfl := List.forall₂_nil_left_iff.mp hrest
    refine ⟨.single v, ?_, fun u => ?_, fun b hb => hb v List.mem_cons_self⟩
    · rw [List.intercalate_singleton]
      exact .single hnum
    · simp only [holds, List.contains_cons, List.contains_nil, Bool.or_false]

/-- What a pattern is written as spells a pattern that holds of the same numbers, and keeps within
the bounds if the first one does. -/
theorem exists_spells_chars {p : Pattern} (h : p.Proper) :
    ∃ q, Spells p.chars q ∧ (∀ v, q.holds v = p.holds v) ∧ ∀ b, p.Fits b → q.Fits b := by
  cases p with
  | any => exact ⟨_, .any, fun _ => rfl, fun _ hb => hb⟩
  | single v => exact ⟨_, .single (isNumber_numeral v), fun _ => rfl, fun _ hb => hb⟩
  | list vs =>
    exact (isListing_numerals h).exists_spells
  | range a z => exact ⟨_, .range (isSpan_numerals a z), fun _ => rfl, fun _ hb => hb⟩
  | step o n =>
    exact ⟨_, .step (spellsBase_chars o) (isNumber_numeral n) h, fun _ => rfl, fun _ hb => hb⟩

/-- A written pattern holds of what the pattern holds of. -/
theorem textHolds_text {p : Pattern} (h : p.Proper) (v : UInt32) :
    textHolds p.text v = p.holds v := by
  obtain ⟨q, hq, hholds, -⟩ := exists_spells_chars h
  rw [Spells.textHolds_eq (p := q) (by rwa [text, String.toList_ofList]), hholds]

/-- A field accepts a written pattern that fits its bounds. -/
theorem exists_read_text {f : Field} {p : Pattern} (h : p.Proper) (hfits : p.Fits f.bounds) :
    ∃ q, f.read p.text = .ok q := by
  obtain ⟨q, hq, -, hkept⟩ := exists_spells_chars h
  refine ⟨q, readChars_eq_ok_iff.mpr ⟨by rwa [text, String.toList_ofList], ?_⟩⟩
  rintro b ⟨⟩
  exact hkept _ hfits

/-- Two texts agree if they hold of the same numbers. -/
def Agree (t u : String) : Prop := ∀ v, textHolds t v = textHolds u v

/-- Patterns that denote the same numbers have texts that agree. -/
theorem agree_text {p q : Pattern} (hp : p.Proper) (hq : q.Proper)
    (h : ∀ v : UInt32, v.toNat ∈ p.toExact.denotes ↔ v.toNat ∈ q.toExact.denotes) :
    Agree p.text q.text := by
  intro v
  rw [textHolds_text hp, textHolds_text hq, Bool.eq_iff_iff, holds_iff_mem_denotes hp,
    holds_iff_mem_denotes hq, h]

/-! ## Progressions -/

/-- The numbers from `a` on in steps of `n`, up to `z`. -/
def progression (a z n : UInt32) : List UInt32 :=
  (List.range' a.toNat ((z.toNat - a.toNat) / n.toNat + 1) n.toNat).map UInt32.ofNat

theorem mem_range'_div_iff {a z n v : Nat} (hle : a ≤ z) (hn : 1 ≤ n) :
    v ∈ List.range' a ((z - a) / n + 1) n ↔ (a ≤ v ∧ v ≤ z) ∧ n ∣ v - a := by
  rw [List.mem_range', and_right_comm, ← exists_eq_add_mul_iff]
  constructor
  · rintro ⟨k, hk, rfl⟩
    have hmul := (Nat.le_div_iff_mul_le hn).mp (Nat.le_of_lt_succ hk)
    rw [Nat.mul_comm n k]
    exact ⟨⟨k, rfl⟩, by omega⟩
  · rintro ⟨⟨k, rfl⟩, hkz⟩
    have hmul : k * n ≤ z - a := by omega
    refine ⟨k, Nat.lt_succ_of_le ((Nat.le_div_iff_mul_le hn).mpr hmul), ?_⟩
    rw [Nat.mul_comm n k]

section Progression

variable {a z n : UInt32} (hle : a.toNat ≤ z.toNat) (hn : 1 ≤ n.toNat)

include hle hn

/-- All numbers of a progression have room. -/
theorem map_toNat_progression : (progression a z n).map UInt32.toNat =
    List.range' a.toNat ((z.toNat - a.toNat) / n.toNat + 1) n.toNat := by
  rw [progression, List.map_map]
  refine (List.map_congr_left fun v hv => ?_).trans (List.map_id _)
  obtain ⟨⟨-, hvz⟩, -⟩ := (mem_range'_div_iff hle hn).mp hv
  exact UInt32.toNat_ofNat_of_lt' (Nat.lt_of_le_of_lt hvz z.toNat_lt_size)

theorem mem_progression_iff {v : UInt32} : v ∈ progression a z n ↔
    (a.toNat ≤ v.toNat ∧ v.toNat ≤ z.toNat) ∧ n.toNat ∣ v.toNat - a.toNat := by
  rw [← mem_range'_div_iff hle hn, ← map_toNat_progression hle hn, List.mem_map]
  constructor
  · intro hv
    exact ⟨v, hv, rfl⟩
  · rintro ⟨u, hu, heq⟩
    rwa [← UInt32.toNat_inj.mp heq]

theorem pairwise_progression : (progression a z n).Pairwise (· < ·) := by
  have hascend : ((progression a z n).map UInt32.toNat).Pairwise (· < ·) := by
    rw [map_toNat_progression hle hn]
    exact List.pairwise_lt_range' n.toNat hn
  exact (List.pairwise_map.mp hascend).imp UInt32.lt_iff_toNat_lt.mpr

theorem progression_ne_nil : progression a z n ≠ [] := by
  refine List.ne_nil_of_mem (a := a) ((mem_progression_iff hle hn).mpr ⟨⟨Nat.le_refl _, hle⟩, ?_⟩)
  rw [Nat.sub_self]
  exact Nat.dvd_zero _

omit hle hn in
/-- A stride that leads beyond the end leaves only the first number. -/
theorem progression_of_lt (h : z.toNat - a.toNat < n.toNat) : progression a z n = [a] := by
  rw [progression, Nat.div_eq_of_lt h]
  simp

end Progression

/-! ## Forms for each other -/

/-- What may be written for each other, with a first number, a last one and a stride. -/
structure Interchangeable (a b n : UInt32) : Prop where
  /-- The list of the numbers from `a` on that are not greater than `b` ... -/
  mem_progression : ∀ v, v ∈ progression a b n ↔
    ∃ k, v.toNat = a.toNat + k * n.toNat ∧ v.toNat ≤ b.toNat
  /-- ... has them in their order, ... -/
  ascending : (progression a b n).Pairwise (· < ·)
  /-- ... and is `a` alone if the stride leads beyond `b`. -/
  alone : b.toNat - a.toNat < n.toNat → progression a b n = [a]
  /-- A range with a stride is the list of its numbers. -/
  spelled_out : Agree (text (.step (.range a b) n)) (text (.list (progression a b n)))
  /-- A stride of one leaves no number out. -/
  every_one : Agree (text (.step (.range a b) 1)) (text (.range a b))
  /-- The star counts from zero. -/
  from_zero : Agree (text (.step .any n)) (text (.step (.start 0) n))
  /-- A step without an end goes up to the largest number. -/
  open_end : Agree (text (.step (.start a) n)) (text (.step (.range a 4294967295) n))
  /-- A field that may hold both `a` and `b` accepts each of these forms. -/
  accepted : ∀ f : Field, f.bounds.contains a = true → f.bounds.contains b = true →
    ∀ p ∈ [.step (.range a b) n, .range a b, .step (.start a) n, .list (progression a b n)],
      ∃ q, f.read (text p) = .ok q

/-- What is between two numbers of a field is within its bounds. -/
theorem contains_of_between {b : Bounds} {first last v : UInt32}
    (hfirst : b.contains first = true) (hlast : b.contains last = true)
    (hv : first.toNat ≤ v.toNat ∧ v.toNat ≤ last.toNat) : b.contains v = true := by
  obtain ⟨hleast, -⟩ := Bounds.contains_iff.mp hfirst
  obtain ⟨-, hgreatest⟩ := Bounds.contains_iff.mp hlast
  exact Bounds.contains_iff.mpr ⟨Nat.le_trans hleast hv.1, Nat.le_trans hv.2 hgreatest⟩

/-- **Forms that denote the same numbers may be written for each other.**  A range with a stride is
the list of its numbers, a plain range if the stride is one, and a step from its first number if the
range goes up to the largest number; the star of a step is a zero.  For lists neither the order nor
a repetition counts, however their numbers are written. -/
theorem shapes_interchangeable {a b n : UInt32} (hab : a < b) (hn : 1 ≤ n) :
    Interchangeable a b n ∧
      ∀ (t u : String) (vs ws : List UInt32), IsListing t.toList vs → IsListing u.toList ws →
        (∀ v, v ∈ vs ↔ v ∈ ws) → Agree t u := by
  have hle : a.toNat ≤ b.toNat := Nat.le_of_lt (UInt32.lt_iff_toNat_lt.mp hab)
  have hpos : 1 ≤ n.toNat := UInt32.le_iff_toNat_le.mp hn
  have hlist : Proper (.list (progression a b n)) := progression_ne_nil hle hpos
  constructor
  · refine ⟨fun v => ?_, pairwise_progression hle hpos, progression_of_lt, ?_, ?_, ?_, ?_, ?_⟩
    · rw [mem_progression_iff hle hpos, and_right_comm, ← exists_eq_add_mul_iff, exists_and_right]
    · refine agree_text hn hlist fun v => ?_
      rw [toExact, toExact, Base.toExact, map_toNat_progression hle hpos, mem_denotes_stepRange,
        mem_denotes_list, mem_range'_div_iff hle hpos]
    · refine agree_text (UInt32.le_refl 1) trivial fun v => ?_
      simp [toExact, Base.toExact]
    · refine agree_text hn hn fun v => ?_
      simp [toExact, Base.toExact]
    · refine agree_text hn hn fun v => ?_
      have hv : v.toNat ≤ 4294967295 := Nat.le_of_lt_succ v.toNat_lt_size
      simp [toExact, Base.toExact, hv]
    · intro f ha hb p hp
      simp only [List.mem_cons, List.not_mem_nil, or_false] at hp
      rcases hp with rfl | rfl | rfl | rfl
      · exact exists_read_text hn ⟨ha, hb, hab⟩
      · exact exists_read_text trivial ⟨ha, hb, hab⟩
      · exact exists_read_text hn ha
      · refine exists_read_text hlist fun v hv => ?_
        exact contains_of_between ha hb ((mem_progression_iff hle hpos).mp hv).1
  · intro t u vs ws ht hu hsame v
    obtain ⟨p, hp, hvs, -⟩ := ht.exists_spells
    obtain ⟨q, hq, hws, -⟩ := hu.exists_spells
    rw [hp.textHolds_eq, hq.textHolds_eq, hvs, hws, Bool.eq_iff_iff, List.contains_iff_mem,
      List.contains_iff_mem]
    exact hsame v

/-- The numbers next to the largest one, and a list with a repetition. -/
theorem shapes_interchangeable_top :
    progression 4294967290 4294967295 4 = [4294967290, 4294967294] ∧
      Interchangeable 4294967290 4294967295 4 ∧ Agree "3,1,3" "1,3" := by
  have hshapes := shapes_interchangeable (a := 4294967290) (b := 4294967295) (n := 4) (by decide)
    (by decide)
  have hlong : IsListing "3,1,3".toList [3, 1, 3] := isListing_numerals (by decide)
  have hshort : IsListing "1,3".toList [1, 3] := isListing_numerals (by decide)
  refine ⟨by decide, hshapes.1, hshapes.2 _ _ _ _ hlong hshort fun v => ?_⟩
  simp only [List.mem_cons, List.not_mem_nil, or_false]
  constructor
  · rintro (rfl | rfl | rfl)
    · exact .inr rfl
    · exact .inl rfl
    · exact .inr rfl
  · rintro (rfl | rfl)
    · exact .inr (.inl rfl)
    · exact .inl rfl

end Pattern
end Cron
