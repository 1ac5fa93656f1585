import Cron.Json.Value
import Cron.Proofs.Text
import Mathlib.Data.List.Chain

/-! # Scanning what was written

A text that spells tokens, with any gaps between them (`Laid`), is scanned into these tokens
(`scan_of_laid`).  Both layouts write such texts, so the scanner is looked at once for both.

What a token is shows at its first character, and where it ends shows at its own characters,
but for a number: it goes on as long as what follows may belong to a number.  So two numbers
have to be kept apart, by a gap or another token.  In the tokens of a value they are.
-/
namespace Cron.Json

open Text (escapeChar hexDigit)

variable {cs rest : List Char}

/-! ## Strings -/

/-- The three ways in which a character is written: behind a backslash, by its number, and as it
is. -/
theorem escapeChar_cases (c : Char) :
    (∃ e, e ≠ 'u' ∧ Text.shortEscape? e = some c ∧ escapeChar c = ['\\', e]) ∨
      (c.toNat < 0x20 ∧ escapeChar c =
        ['\\', 'u', '0', '0', hexDigit (c.toNat / 16), hexDigit (c.toNat % 16)]) ∨
      (c ≠ '"' ∧ c ≠ '\\' ∧ ¬ c.toNat < 0x20 ∧ escapeChar c = [c]) := by
  unfold escapeChar
  split
  case h_8 hq hb _ _ _ _ _ =>
    by_cases hc : c.toNat < 0x20
    · exact Or.inr (Or.inl ⟨hc, if_pos hc⟩)
    · exact Or.inr (Or.inr ⟨hq, hb, hc, if_neg hc⟩)
  all_goals exact Or.inl ⟨_, by decide, rfl, rfl⟩

/-- The two digits behind `\u00` give a control character back. -/
theorem hexNumber?_control : ∀ n < 32,
    Text.hexNumber? ['0', '0', hexDigit (n / 16), hexDigit (n % 16)] = some n := by
  decide

/-- A character is read as it was written, and the string goes on behind it. -/
theorem scanString_escapeChar (c : Char) (found rest : List Char) :
    scanString (some found) (escapeChar c ++ rest) = scanString (some (c :: found)) rest := by
  rcases escapeChar_cases c with ⟨e, hu, he, hesc⟩ | ⟨hc, hesc⟩ | ⟨hq, hb, hc, hesc⟩
  · rw [hesc, List.cons_append, List.singleton_append, scanString]
    · simp [he]
    · exact fun _ _ _ _ _ h => absurd h hu
  · have hhigh : isHighHalf c.toNat = false := by simp [isHighHalf]; omega
    have hlow : isLowHalf c.toNat = false := by simp [isLowHalf]; omega
    rw [hesc]
    simp [scanString, hexNumber?_control c.toNat hc, hhigh, hlow]
  · rw [hesc, List.singleton_append, scanString]
    · simp [hb, hc]
    · exact hq
    · exact fun _ _ _ _ _ h => absurd h hb
    · exact fun _ _ h => absurd h hb

theorem scanString_flatMap_escapeChar (cs found rest : List Char) :
    scanString (some found) (cs.flatMap escapeChar ++ '"' :: rest) =
      some (some (found.reverse ++ cs), rest) := by
  induction cs generalizing found with
  | nil => simp [scanString]
  | cons c cs ih =>
    rw [List.flatMap_cons, List.append_assoc, scanString_escapeChar, ih]
    simp

/-! ## Numbers -/

/-- Whether a number ends where the given text begins. -/
def EndsNumber (rest : List Char) : Prop :=
  ∀ c ∈ rest.head?, c.isDigit = false ∧ c ≠ '.' ∧ c ≠ 'e' ∧ c ≠ 'E'

theorem spanDigits_append {ds : List Char} (hds : ∀ c ∈ ds, c.isDigit = true)
    (hrest : EndsNumber rest) : spanDigits (ds ++ rest) = (ds, rest) := by
  have hdrop : rest.dropWhile Char.isDigit = rest := by
    cases rest with
    | nil => rfl
    | cons c rest => exact List.dropWhile_cons_of_neg (by simp [(hrest c rfl).1])
  have htake : rest.takeWhile Char.isDigit = [] := by
    cases rest with
    | nil => rfl
    | cons c rest => exact List.takeWhile_cons_of_neg (by simp [(hrest c rfl).1])
  rw [spanDigits, List.takeWhile_append_of_pos hds, List.dropWhile_append_of_pos hds, hdrop, htake,
    List.append_nil]

theorem scanWhole_ofNat (n : Nat) (hrest : EndsNumber rest) :
    scanWhole (Numeral.ofNat n ++ rest) = some (Numeral.ofNat n, rest) := by
  rcases Nat.eq_zero_or_pos n with rfl | hpos
  · rfl
  · have hspan : spanDigits (Numeral.ofNat n ++ rest) = (Numeral.ofNat n, rest) :=
      spanDigits_append (fun c hc => Numeral.isDigit_of_mem_ofNat hc) hrest
    have hhead := Numeral.head?_ofNat_ne_zero hpos
    obtain ⟨d, ds, hds, -⟩ := Numeral.exists_ofNat_eq_cons n
    rw [hds] at hspan hhead ⊢
    rw [List.cons_append] at hspan ⊢
    rw [scanWhole]
    · rw [hspan]
    · intro cs h
      obtain ⟨rfl, -⟩ := List.cons.inj h
      exact hhead rfl

theorem scanFraction_of_endsNumber (h : EndsNumber rest) : scanFraction rest = some ([], rest) := by
  unfold scanFraction
  split
  · exact absurd rfl (h '.' rfl).2.1
  · rfl

theorem scanExponent_of_endsNumber (h : EndsNumber rest) : scanExponent rest = some ([], rest) := by
  cases rest with
  | nil => rfl
  | cons c rest =>
    obtain ⟨-, -, he, hE⟩ := h c rfl
    simp [scanExponent, he, hE]

/-- A numeral is read up to its end. -/
theorem scanNumber_ofNat (n : Nat) (hrest : EndsNumber rest) :
    scanNumber (Numeral.ofNat n ++ rest) = some (.natural n, rest) := by
  have hminus : scanMinus (Numeral.ofNat n ++ rest) = ([], Numeral.ofNat n ++ rest) := by
    obtain ⟨d, ds, hds, hd⟩ := Numeral.exists_ofNat_eq_cons n
    rw [hds, List.cons_append, scanMinus]
    intro cs h
    obtain ⟨rfl, -⟩ := List.cons.inj h
    exact absurd hd (by decide)
  simp only [scanNumber, hminus, scanWhole_ofNat n hrest, scanFraction_of_endsNumber hrest,
    scanExponent_of_endsNumber hrest, Numeral.ofDigitChars_ofNat, Option.bind_eq_bind,
    Option.bind_some, List.isEmpty_nil, Bool.and_self, if_true, Option.pure_def]

/-! ## Tokens -/

/-- Whether a token is a number. -/
def Token.isNumber : Token → Bool
  | number _ => true
  | _ => false

/-- Whether the scanner is told of the token by its text: a number has to be natural. -/
def Token.IsPlain : Token → Prop
  | number (.other _) => False
  | _ => True

/-- A token begins with a character that is no gap. -/
theorem Token.exists_spell_eq_cons {t : Token} (h : t.IsPlain) :
    ∃ c ds, t.spell = c :: ds ∧ isGap c = false ∧
      (t.isNumber = false → c.isDigit = false ∧ c ≠ '.' ∧ c ≠ 'e' ∧ c ≠ 'E') := by
  cases t with
  | number k =>
    cases k with
    | other spelling => exact absurd h id
    | natural n =>
      obtain ⟨d, ds, hds, hd⟩ := Numeral.exists_ofNat_eq_cons n
      refine ⟨d, ds, hds, ?_, nofun⟩
      by_contra hgap
      simp only [isGap, Bool.not_eq_false, Bool.or_eq_true, beq_iff_eq] at hgap
      rcases hgap with ((rfl | rfl) | rfl) | rfl <;> exact absurd hd (by decide)
  | bool b => cases b <;> exact ⟨_, _, rfl, by decide, fun _ => by decide⟩
  | string s => cases s <;> exact ⟨_, _, rfl, by decide, fun _ => by decide⟩
  | _ => exact ⟨_, _, rfl, by decide, fun _ => by decide⟩

/-- A token is read as it was written, if what follows does not make a number longer. -/
theorem scanToken_spell {t : Token} (h : t.IsPlain) (hend : t.isNumber = true → EndsNumber rest) :
    scanToken (t.spell ++ rest) = some (t, rest) := by
  cases t with
  | number k =>
    cases k with
    | other spelling => exact absurd h id
    | natural n =>
      have hscan := scanNumber_ofNat n (hend rfl)
      obtain ⟨d, ds, hds, hd⟩ := Numeral.exists_ofNat_eq_cons n
      have hspell : (Token.number (.natural n)).spell = d :: ds := hds
      rw [hds, List.cons_append] at hscan
      rw [hspell, List.cons_append, scanToken]
      · rw [hscan]
        rfl
      -- no other token begins with a digit
      all_goals
        intro cs h
        obtain ⟨rfl, -⟩ := List.cons.inj h
        exact absurd hd (by decide)
  | string s =>
    cases s with
    | none =>
      have hstring : scanString (some []) ('\\' :: 'u' :: 'd' :: '8' :: '0' :: '0' :: '"' :: rest) =
          some (none, rest) := by
        have hhex : Text.hexNumber? ['d', '8', '0', '0'] = some 0xD800 := by decide
        have hhigh : isHighHalf 0xD800 = true := by decide
        simp [scanString, hhex, hhigh, lowHalf?]
      simp [Token.spell, scanToken, hstring]
    | some s =>
      have hstring := scanString_flatMap_escapeChar s.toList [] rest
      simp [Token.spell, quote, scanToken, hstring]
  | bool b => cases b <;> rfl
  | _ => rfl

/-! ## Texts that spell tokens -/

/-- Nothing but gaps. -/
def AllGap (gap : List Char) : Prop := ∀ c ∈ gap, isGap c = true

/-- The text spells the tokens, with any gaps before, between and behind them. -/
inductive Laid : List Token → List Char → Prop
  | nil {gap : List Char} : AllGap gap → Laid [] gap
  | cons {gap cs : List Char} {t : Token} {ts : List Token} :
      AllGap gap → Laid ts cs → Laid (t :: ts) (gap ++ (t.spell ++ cs))

/-- No number stands next to another. -/
def NumbersApart (ts : List Token) : Prop :=
  ts.IsChain fun t u => t.isNumber = true → u.isNumber = false

theorem Laid.gap_append {gap : List Char} {ts : List Token} (hgap : AllGap gap) (h : Laid ts cs) :
    Laid ts (gap ++ cs) := by
  cases h with
  | nil h => exact .nil (List.forall_mem_append.mpr ⟨hgap, h⟩)
  | cons h hts =>
    rw [← List.append_assoc]
    exact .cons (List.forall_mem_append.mpr ⟨hgap, h⟩) hts

/-- Tokens one after the other, with no gap before the first. -/
theorem Laid.spell_append {t : Token} {ts : List Token} (h : Laid ts cs) :
    Laid (t :: ts) (t.spell ++ cs) :=
  .cons (fun _ hc => absurd hc List.not_mem_nil) h

theorem Laid.append_gap {gap : List Char} {ts : List Token} (h : Laid ts cs) (hgap : AllGap gap) :
    Laid ts (cs ++ gap) := by
  induction h with
  | nil h => exact .nil (List.forall_mem_append.mpr ⟨h, hgap⟩)
  | cons h hts ih =>
    rw [List.append_assoc, List.append_assoc]
    exact .cons h ih

/-- A text that may follow a number: a gap begins it, or a token that is no number. -/
theorem Laid.endsNumber {ts : List Token} (h : Laid ts cs) (hplain : ∀ t ∈ ts, t.IsPlain)
    (hhead : ∀ t ∈ ts.head?, t.isNumber = false) : EndsNumber cs := by
  have hgaps : ∀ c, isGap c = true → c.isDigit = false ∧ c ≠ '.' ∧ c ≠ 'e' ∧ c ≠ 'E' := by
    intro c hc
    simp only [isGap, Bool.or_eq_true, beq_iff_eq] at hc
    rcases hc with ((rfl | rfl) | rfl) | rfl <;> decide
  intro c hc
  cases h with
  | nil hgap => exact hgaps c (hgap c (List.mem_of_head? hc))
  | @cons gap cs t ts hgap hts =>
    cases gap with
    | cons d gap =>
      obtain rfl := Option.some.inj hc
      exact hgaps d (hgap d List.mem_cons_self)
    | nil =>
      obtain ⟨d, ds, hspell, -, hnumber⟩ :=
        Token.exists_spell_eq_cons (hplain t List.mem_cons_self)
      rw [hspell] at hc
      obtain rfl := Option.some.inj hc
      exact hnumber (hhead t rfl)

/-- Gaps are passed over. -/
theorem scanAll_gap_append {gap : List Char} (hgap : AllGap gap) (fuel : Nat)
    (found : List Token) (cs : List Char) :
    scanAll (gap.length + fuel) found (gap ++ cs) = scanAll fuel found cs := by
  induction gap with
  | nil => rw [List.length_nil, Nat.zero_add, List.nil_append]
  | cons c gap ih =>
    have hc : isGap c = true := hgap c List.mem_cons_self
    have hfuel : (c :: gap).length + fuel = (gap.length + fuel) + 1 := by
      rw [List.length_cons]
      omega
    rw [hfuel, List.cons_append, scanAll, if_pos hc]
    exact ih fun d hd => hgap d (List.mem_cons_of_mem _ hd)

/-- The scanner reads the tokens of a text that spells them, and more fuel does no harm. -/
theorem scanAll_of_laid {ts : List Token} (h : Laid ts cs) (hplain : ∀ t ∈ ts, t.IsPlain)
    (hapart : NumbersApart ts) {fuel : Nat} (hfuel : cs.length ≤ fuel) (found : List Token) :
    scanAll fuel found cs = some (found.reverse ++ ts) := by
  induction h generalizing fuel found with
  | @nil gap hgap =>
    obtain ⟨more, rfl⟩ := Nat.exists_eq_add_of_le hfuel
    have hskip := scanAll_gap_append hgap more found []
    rw [List.append_nil] at hskip
    rw [hskip]
    cases more <;> simp [scanAll]
  | @cons gap cs t ts hgap hts ih =>
    have htail : ∀ u ∈ ts, u.IsPlain := fun u hu => hplain u (List.mem_cons_of_mem _ hu)
    have hchain := List.isChain_cons.mp hapart
    have hend : t.isNumber = true → EndsNumber cs :=
      fun ht => hts.endsNumber htail fun u hu => hchain.1 u hu ht
    have htoken := scanToken_spell (hplain t List.mem_cons_self) hend
    obtain ⟨c, ds, hspell, hc, -⟩ := Token.exists_spell_eq_cons (hplain t List.mem_cons_self)
    rw [hspell] at htoken hfuel ⊢
    simp only [List.length_append, List.length_cons] at hfuel
    obtain ⟨more, rfl⟩ := Nat.exists_eq_add_of_le (by omega : gap.length + (ds.length + 1) ≤ fuel)
    have hsteps : gap.length + (ds.length + 1) + more = gap.length + (ds.length + more + 1) := by
      omega
    rw [hsteps, scanAll_gap_append hgap, List.cons_append, scanAll, if_neg (by simp [hc])]
    rw [List.cons_append] at htoken
    rw [htoken]
    simp only
    rw [ih htail hchain.2 (by omega)]
    simp

/-- **A text that spells tokens is scanned into them.** -/
theorem scan_of_laid {ts : List Token} (h : Laid ts cs) (hplain : ∀ t ∈ ts, t.IsPlain)
    (hapart : NumbersApart ts) : scan cs = some ts :=
  scanAll_of_laid h hplain hapart le_rfl []

/-! ## The two layouts -/

theorem laid_flatMap_spell (ts : List Token) : Laid ts (ts.flatMap Token.spell) := by
  induction ts with
  | nil => exact .nil fun _ hc => absurd hc List.not_mem_nil
  | cons t ts ih =>
    rw [List.flatMap_cons]
    exact ih.spell_append

theorem allGap_newLine (depth : Nat) : AllGap (newLine depth) := by
  intro c hc
  rcases List.mem_cons.mp hc with rfl | hc
  · decide
  · rw [(List.mem_replicate.mp hc).2]
    decide

theorem laid_layOut (depth : Nat) (ts : List Token) : Laid ts (layOut depth ts) := by
  have hspace : AllGap [' '] := by
    intro c hc
    rw [List.mem_singleton.mp hc]
    decide
  fun_induction layOut depth ts with
  | case1 => exact .nil fun _ hc => absurd hc List.not_mem_nil
  | case2 d ts ih => exact ih.spell_append.spell_append
  | case3 d ts ih => exact ih.spell_append.spell_append
  | case4 d ts _ ih => exact (ih.gap_append (allGap_newLine _)).spell_append
  | case5 d ts _ ih => exact (ih.gap_append (allGap_newLine _)).spell_append
  | case6 d ts ih => exact .cons (allGap_newLine _) ih
  | case7 d ts ih => exact .cons (allGap_newLine _) ih
  | case8 d ts ih => exact (ih.gap_append (allGap_newLine _)).spell_append
  | case9 d ts ih => exact (ih.gap_append hspace).spell_append
  | case10 d t ts _ _ _ _ _ _ _ _ ih => exact ih.spell_append

end Cron.Json
