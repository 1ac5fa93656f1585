import Cron.Text
import Mathlib.Data.List.Basic
import Mathlib.Data.List.TakeWhile
import Mathlib.Data.Nat.Init

/-! # Cuts and numerals

What the two cuts of a text leave behind.  Cutting at a mark loses nothing but the mark: the
pieces, joined by it, are the text again, and no other pieces without the mark are
(`splitOn_eq_iff`).  Trimming takes a text apart into blanks, what is kept, and blanks again;
no other middle part with a character other than a blank at both ends is kept (`trim_eq_iff`).

The numeral that is written for a number has digits only, begins with a zero for no number but
zero, and denotes the number.
-/
namespace Cron

namespace Text

/-! ## Pieces between marks -/

variable {c : Char} {cs : List Char}

/-- The pieces hold nothing that is cut at. -/
theorem forall_not_of_mem_splitOnP {p : Char → Bool} {w : List Char} (h : w ∈ cs.splitOnP p) :
    ∀ a ∈ w, p a = false := by
  induction cs generalizing w with
  | nil =>
    rw [List.splitOnP_nil, List.mem_singleton] at h
    simp [h]
  | cons b cs ih =>
    obtain ⟨w₀, rest, hs⟩ := List.exists_cons_of_ne_nil (List.splitOnP_ne_nil p cs)
    rw [List.splitOnP_cons_eq_if_modifyHead, hs] at h
    rw [hs] at ih
    split at h
    · rcases List.mem_cons.mp h with rfl | h
      · exact fun a ha => absurd ha List.not_mem_nil
      · exact ih h
    · rename_i hb
      rcases List.mem_cons.mp h with rfl | h
      · intro a ha
        rcases List.mem_cons.mp ha with rfl | ha
        · exact eq_false_of_ne_true hb
        · exact ih List.mem_cons_self a ha
      · exact ih (List.mem_cons_of_mem _ h)

theorem not_mem_of_mem_splitOn {w : List Char} (h : w ∈ cs.splitOn c) : c ∉ w := by
  rw [List.splitOn_eq_splitOnP] at h
  intro hc
  simpa using forall_not_of_mem_splitOnP h c hc

/-- The pieces between the marks are the only list of pieces without the mark that the mark
joins to the text. -/
theorem splitOn_eq_iff {ws : List (List Char)} :
    cs.splitOn c = ws ↔ ws ≠ [] ∧ (∀ w ∈ ws, c ∉ w) ∧ cs = [c].intercalate ws := by
  constructor
  · rintro rfl
    exact ⟨List.splitOn_ne_nil c cs, fun _ => not_mem_of_mem_splitOn, by simp⟩
  · rintro ⟨hne, hmark, rfl⟩
    exact List.splitOn_intercalate c hmark hne

theorem splitOn_eq_pair_iff {x y : List Char} :
    cs.splitOn c = [x, y] ↔ c ∉ x ∧ c ∉ y ∧ cs = x ++ c :: y := by
  rw [splitOn_eq_iff]
  simp [List.intercalate_cons_cons, and_assoc]

/-- There is one piece more than there are marks. -/
theorem length_splitOn (c : Char) (cs : List Char) : (cs.splitOn c).length = cs.count c + 1 := by
  induction cs with
  | nil => simp
  | cons a cs ih =>
    rw [List.splitOn_eq_splitOnP] at ih ⊢
    rw [List.splitOnP_cons_eq_if_modifyHead, List.count_cons]
    split
    · rw [List.length_cons, ih]
    · rw [List.length_modifyHead, ih, Nat.add_zero]

/-- A text has a mark in it exactly if it falls into two pieces or more. -/
theorem mem_iff_two_le_length_splitOn : c ∈ cs ↔ 2 ≤ (cs.splitOn c).length := by
  rw [length_splitOn, ← List.count_pos_iff]
  omega

/-- A mark stands twice in a text exactly if it is there and does not cut the text in two. -/
theorem two_le_count_iff : 2 ≤ cs.count c ↔ c ∈ cs ∧ ∀ x y, cs.splitOn c ≠ [x, y] := by
  rw [← List.count_pos_iff]
  constructor
  · intro h
    refine ⟨by omega, fun x y hxy => ?_⟩
    have hlen := length_splitOn c cs
    rw [hxy, List.length_cons, List.length_singleton] at hlen
    omega
  · rintro ⟨hpos, hpair⟩
    by_contra hlt
    have hlen := length_splitOn c cs
    obtain ⟨x, y, hxy⟩ := List.length_eq_two.mp (show (cs.splitOn c).length = 2 by omega)
    exact hpair x y hxy

/-- The first piece, the mark, and the rest. -/
theorem intercalate_cons {m : Char} {parts : List (List Char)} (hne : parts ≠ [])
    (w : List Char) : [m].intercalate (w :: parts) = w ++ m :: [m].intercalate parts := by
  rw [List.intercalate_cons_of_ne_nil hne, List.append_assoc, List.singleton_append]

/-- What joins pieces is all that the joined text holds besides them. -/
theorem not_mem_intercalate {m c : Char} (hc : c ≠ m) {parts : List (List Char)}
    (h : ∀ w ∈ parts, c ∉ w) : c ∉ [m].intercalate parts := by
  induction parts with
  | nil => exact List.not_mem_nil
  | cons w parts ih =>
    rcases eq_or_ne parts [] with rfl | hne
    · simpa using h
    · rw [intercalate_cons hne]
      simp only [List.mem_append, List.mem_cons, not_or]
      exact ⟨h w List.mem_cons_self, hc, ih fun w hw => h w (List.mem_cons_of_mem _ hw)⟩

/-! ## Trimming -/

/-- Nothing but blanks. -/
def AllBlank (cs : List Char) : Prop := ∀ c ∈ cs, isBlank c = true

/-- No blank at either end. -/
def Tight (cs : List Char) : Prop :=
  (∀ c ∈ cs.head?, isBlank c = false) ∧ ∀ c ∈ cs.getLast?, isBlank c = false

theorem dropWhile_isBlank_append {before rest : List Char} (hb : AllBlank before)
    (hr : ∀ c ∈ rest.head?, isBlank c = false) : (before ++ rest).dropWhile isBlank = rest := by
  rw [List.dropWhile_append_of_pos hb]
  cases rest with
  | nil => rfl
  | cons c rest => exact List.dropWhile_cons_of_neg (by simp [hr c rfl])

/-- Blanks around a part without blanks at its ends do not outlast the trimming. -/
theorem trim_surround {before kept after : List Char} (hb : AllBlank before)
    (hk : Tight kept) (ha : AllBlank after) : trim (before ++ kept ++ after) = kept := by
  unfold trim
  rw [List.append_assoc]
  rcases eq_or_ne kept [] with rfl | hne
  · rw [List.nil_append, List.dropWhile_append_of_pos hb, List.dropWhile_eq_nil_iff.mpr ha]
    rfl
  · have hhead : ∀ c ∈ (kept ++ after).head?, isBlank c = false := by
      rw [List.head?_append, List.head?_eq_some_head hne, Option.some_or, ← List.head?_eq_some_head]
      exact hk.1
    have hlast : ∀ c ∈ kept.reverse.head?, isBlank c = false := by
      rw [List.head?_reverse]
      exact hk.2
    rw [dropWhile_isBlank_append hb hhead, List.reverse_append,
      dropWhile_isBlank_append (fun c hc => ha c (List.mem_reverse.mp hc)) hlast,
      List.reverse_reverse]

theorem head?_dropWhile_isBlank (cs : List Char) :
    ∀ c ∈ (cs.dropWhile isBlank).head?, isBlank c = false := by
  intro c hc
  have h := List.head?_dropWhile_not isBlank cs
  rw [Option.mem_def.mp hc] at h
  simpa using h

theorem tight_trim (cs : List Char) : Tight (trim cs) := by
  unfold trim
  constructor
  · intro c hc
    -- the second pass drops from the other end, so the first character is that of the first pass
    obtain ⟨dropped, hd⟩ : (cs.dropWhile isBlank).reverse.dropWhile isBlank <:+ _ :=
      List.dropWhile_suffix isBlank
    refine head?_dropWhile_isBlank cs c ?_
    rw [← List.getLast?_reverse, ← hd, List.getLast?_append]
    rw [List.head?_reverse] at hc
    rw [Option.mem_def.mp hc]
    rfl
  · intro c hc
    rw [List.getLast?_reverse] at hc
    exact head?_dropWhile_isBlank _ c hc

/-- Trimming cuts blanks off at both ends and nothing else. -/
theorem exists_surround (cs : List Char) :
    ∃ before after, AllBlank before ∧ AllBlank after ∧ cs = before ++ trim cs ++ after := by
  have htake : ∀ ws : List Char, AllBlank (ws.takeWhile isBlank) :=
    fun ws c hc => List.mem_takeWhile_imp hc
  refine ⟨cs.takeWhile isBlank, ((cs.dropWhile isBlank).reverse.takeWhile isBlank).reverse,
    htake cs, fun c hc => htake _ c (List.mem_reverse.mp hc), ?_⟩
  rw [trim, List.append_assoc, ← List.reverse_append, List.takeWhile_append_dropWhile,
    List.reverse_reverse, List.takeWhile_append_dropWhile]

theorem trim_eq_iff {kept : List Char} :
    trim cs = kept ↔ Tight kept ∧
      ∃ before after, AllBlank before ∧ AllBlank after ∧ cs = before ++ kept ++ after := by
  constructor
  · rintro rfl
    exact ⟨tight_trim cs, exists_surround cs⟩
  · rintro ⟨hk, before, after, hb, ha, rfl⟩
    exact trim_surround hb hk ha

theorem trim_eq_nil_iff : trim cs = [] ↔ AllBlank cs := by
  constructor
  · intro h
    obtain ⟨before, after, hb, ha, he⟩ := exists_surround cs
    rw [h, List.append_nil] at he
    rw [he]
    exact fun c hc => (List.mem_append.mp hc).elim (hb c) (ha c)
  · intro h
    have hs : trim (cs ++ [] ++ []) = [] :=
      trim_surround h (by simp [Tight]) (by simp [AllBlank])
    simpa using hs

theorem trim_allBlank_append {before : List Char} (hb : AllBlank before) :
    trim (before ++ cs) = trim cs := by
  rw [trim, List.dropWhile_append_of_pos hb, trim]

theorem trim_append_allBlank {after : List Char} (ha : AllBlank after) :
    trim (cs ++ after) = trim cs := by
  obtain ⟨before, rest, hb, hr, he⟩ := exists_surround cs
  refine trim_eq_iff.mpr ⟨tight_trim cs, before, rest ++ after, hb, ?_, ?_⟩
  · exact List.forall_mem_append.mpr ⟨hr, ha⟩
  · rw [← List.append_assoc, ← he]

/-! ## Marks between blanks -/

/-- A mark is not among the blanks in front of a text, so it parts the text behind them. -/
theorem exists_of_allBlank_append_eq {before x y : List Char} (hb : AllBlank before)
    (hc : isBlank c = false) (h : before ++ cs = x ++ c :: y) :
    ∃ x', x = before ++ x' ∧ cs = x' ++ c :: y := by
  rcases List.append_eq_append_iff.mp h with ⟨x', hx, hcs⟩ | ⟨rest, hbefore, hrest⟩
  · exact ⟨x', hx, hcs⟩
  · cases rest with
    | nil =>
      rw [List.append_nil] at hbefore
      exact ⟨[], by simp [hbefore], by simpa using hrest.symm⟩
    | cons d rest =>
      obtain ⟨rfl, -⟩ := List.cons.inj hrest
      exact absurd ((hb c (by simp [hbefore])).symm.trans hc) (by decide)

/-- A mark is not among the blanks behind a text, so it parts the text before them. -/
theorem exists_of_append_allBlank_eq {after x y : List Char} (ha : AllBlank after)
    (hc : isBlank c = false) (h : cs ++ after = x ++ c :: y) :
    ∃ y', y = y' ++ after ∧ cs = x ++ c :: y' := by
  have hafter : ∀ z, after ≠ z ++ c :: y := by
    rintro z rfl
    exact absurd ((ha c (by simp)).symm.trans hc) (by decide)
  rcases List.append_eq_append_iff.mp h with ⟨z, -, hz⟩ | ⟨rest, hcs, hrest⟩
  · exact absurd hz (hafter z)
  · cases rest with
    | nil => exact absurd hrest.symm (hafter [])
    | cons d y' =>
      obtain ⟨rfl, hy⟩ := List.cons.inj hrest
      exact ⟨y', hy, hcs⟩

end Text

namespace Numeral

/-! ## Numerals of numbers -/

theorem ofNat_ne_nil (n : Nat) : ofNat n ≠ [] := Nat.toDigits_ne_nil

theorem isDigit_of_mem_ofNat {n : Nat} {c : Char} (h : c ∈ ofNat n) : c.isDigit = true :=
  Nat.isDigit_of_mem_toDigits (by decide) (by decide) h

theorem exists_ofNat_eq_cons (n : Nat) : ∃ d ds, ofNat n = d :: ds ∧ d.isDigit = true := by
  obtain ⟨d, ds, hds⟩ := List.exists_cons_of_ne_nil (ofNat_ne_nil n)
  exact ⟨d, ds, hds, isDigit_of_mem_ofNat (hds ▸ List.mem_cons_self)⟩

theorem ofDigitChars_ofNat (n : Nat) : Nat.ofDigitChars 10 (ofNat n) 0 = n :=
  Nat.ofDigitChars_ten_toDigits

/-- The last digit is that of the remainder, and the others are the numeral of the quotient. -/
theorem ofNat_of_ten_le {n : Nat} (h : 10 ≤ n) :
    ofNat n = ofNat (n / 10) ++ [Nat.digitChar (n % 10)] :=
  Nat.toDigits_of_base_le (by decide) h

theorem head?_ofNat_ne_zero {n : Nat} (h : 0 < n) : (ofNat n).head? ≠ some '0' := by
  induction n using Nat.strong_induction_on with
  | _ n ih =>
    by_cases hlt : n < 10
    · have hone : ofNat n = [Nat.digitChar n] := Nat.toDigits_of_lt_base hlt
      simp [hone]
      omega
    · have hhead := ih (n / 10) (by omega) (by omega)
      rw [ofNat_of_ten_le (by omega), List.head?_append]
      rw [List.head?_eq_some_head (ofNat_ne_nil _)] at hhead ⊢
      exact hhead

end Numeral
end Cron
