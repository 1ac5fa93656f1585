import Cron.Proofs.Json.Scanning

/-! # Reading back what was written

The tokens of a value are read as that value, whatever stands behind them
(`parse_written`), and so is every text that spells them, with any gaps
(`ofText?_of_laid`).  So a value comes back from either layout.

A value may hold any texts and truth values, arrays and objects of any depth, but only natural
numbers: how another number is spelled is not looked at when it is written (`IsPlain`).
-/
namespace Cron.Json.Value

/-! ## From tokens to values -/

theorem exists_tokens_eq_cons (v : Value) :
    ∃ t ts, v.tokens = t :: ts ∧ t ≠ .closeArray := by
  cases v <;> rw [tokens] <;> exact ⟨_, _, rfl, nofun⟩

theorem exists_itemTokens_eq_cons (v : Value) (vs : List Value) :
    ∃ t ts, itemTokens (v :: vs) = t :: ts ∧ t ≠ .closeArray := by
  obtain ⟨t, ts, hv, ht⟩ := v.exists_tokens_eq_cons
  cases vs <;> rw [itemTokens, hv] <;> exact ⟨t, _, rfl, ht⟩

theorem exists_memberTokens_eq_cons (m : Option String × Value)
    (ms : List (Option String × Value)) :
    ∃ t ts, memberTokens (m :: ms) = t :: ts ∧ t ≠ .closeObject := by
  obtain ⟨k, v⟩ := m
  cases ms <;> rw [memberTokens] <;> exact ⟨_, _, rfl, nofun⟩

variable {fuel : Nat} {ts rest : List Token}

theorem parse_openArray {t : Token} (h : t ≠ .closeArray) :
    parse (fuel + 1) (.openArray :: t :: ts) = parseItems fuel [] (t :: ts) := by
  rw [parse]
  intro ts h'
  exact h (List.cons.inj h').1

theorem parse_openObject {t : Token} (h : t ≠ .closeObject) :
    parse (fuel + 1) (.openObject :: t :: ts) = parseMembers fuel [] (t :: ts) := by
  rw [parse]
  intro ts h'
  exact h (List.cons.inj h').1

/-- Tokens that were written are read back, with as much fuel as they are, and whatever stands
behind them. -/
theorem parse_written (fuel : Nat) :
    (∀ (v : Value) (rest : List Token), v.tokens.length ≤ fuel →
      parse fuel (v.tokens ++ rest) = some (v, rest)) ∧
    (∀ (v : Value) (vs found : List Value) (rest : List Token),
      (itemTokens (v :: vs)).length ≤ fuel →
      parseItems fuel found (itemTokens (v :: vs) ++ rest) =
        some (array (found.reverse ++ v :: vs), rest)) ∧
    (∀ (m : Option String × Value) (ms found : List (Option String × Value)) (rest : List Token),
      (memberTokens (m :: ms)).length ≤ fuel →
      parseMembers fuel found (memberTokens (m :: ms) ++ rest) =
        some (object (found.reverse ++ m :: ms), rest)) := by
  induction fuel with
  | zero =>
    refine ⟨fun v rest h => ?_, fun v vs found rest h => ?_, fun m ms found rest h => ?_⟩
    · obtain ⟨t, ts, hts, -⟩ := v.exists_tokens_eq_cons
      simp [hts] at h
    · obtain ⟨t, ts, hts, -⟩ := exists_itemTokens_eq_cons v vs
      simp [hts] at h
    · obtain ⟨t, ts, hts, -⟩ := exists_memberTokens_eq_cons m ms
      simp [hts] at h
  | succ fuel ih =>
    obtain ⟨ihv, ihi, ihm⟩ := ih
    refine ⟨fun v rest h => ?_, fun v vs found rest h => ?_, fun m ms found rest h => ?_⟩
    · cases v with
      | array vs =>
        cases vs with
        | nil => simp [tokens, itemTokens, parse]
        | cons w vs =>
          have hitems := ihi w vs [] rest (by simpa [tokens] using h)
          obtain ⟨t, ts, hts, ht⟩ := exists_itemTokens_eq_cons w vs
          rw [tokens, hts, List.cons_append, List.cons_append, parse_openArray ht]
          rwa [hts, List.cons_append] at hitems
      | object ms =>
        cases ms with
        | nil => simp [tokens, memberTokens, parse]
        | cons m ms =>
          have hmembers := ihm m ms [] rest (by simpa [tokens] using h)
          obtain ⟨t, ts, hts, ht⟩ := exists_memberTokens_eq_cons m ms
          rw [tokens, hts, List.cons_append, List.cons_append, parse_openObject ht]
          rwa [hts, List.cons_append] at hmembers
      | _ => simp [tokens, parse]
    · cases vs with
      | nil =>
        have hv := ihv v (.closeArray :: rest) (by simp [itemTokens] at h; omega)
        simp [itemTokens, parseItems, hv]
      | cons w vs =>
        simp only [itemTokens, List.length_append, List.length_cons] at h
        have hv := ihv v (.comma :: (itemTokens (w :: vs) ++ rest)) (by omega)
        have hrest := ihi w vs (v :: found) rest (by omega)
        simp [itemTokens, parseItems, hv, hrest]
    · obtain ⟨k, v⟩ := m
      cases ms with
      | nil =>
        have hv := ihv v (.closeObject :: rest) (by simp [memberTokens] at h; omega)
        simp [memberTokens, parseMembers, hv]
      | cons m ms =>
        simp only [memberTokens, List.length_append, List.length_cons] at h
        have hv := ihv v (.comma :: (memberTokens (m :: ms) ++ rest)) (by omega)
        have hrest := ihm m ms ((k, v) :: found) rest (by omega)
        simp [memberTokens, parseMembers, hv, hrest]

theorem ofTokens?_tokens (v : Value) : ofTokens? v.tokens = some v := by
  have h := (parse_written (2 * v.tokens.length + 1)).1 v [] (by omega)
  rw [List.append_nil] at h
  rw [ofTokens?, h]

/-! ## From texts to values -/

theorem numbersApart_cons {t : Token} (ht : t.isNumber = false) (h : NumbersApart ts) :
    NumbersApart (t :: ts) :=
  List.isChain_cons.mpr ⟨fun _ _ hnumber => absurd (ht.symm.trans hnumber) (by decide), h⟩

theorem numbersApart_append_cons {t : Token} (ht : t.isNumber = false) (h : NumbersApart ts)
    (hrest : NumbersApart (t :: rest)) : NumbersApart (ts ++ t :: rest) := by
  refine h.append hrest fun u _ w hw _ => ?_
  obtain rfl := Option.some.inj hw
  exact ht

mutual

/-- Between two numbers of a value there is a comma. -/
theorem numbersApart_tokens : ∀ v : Value, NumbersApart v.tokens
  | null => List.isChain_singleton _
  | bool _ => List.isChain_singleton _
  | number _ => List.isChain_singleton _
  | string _ => List.isChain_singleton _
  | array vs => numbersApart_cons rfl (numbersApart_itemTokens vs)
  | object ms => numbersApart_cons rfl (numbersApart_memberTokens ms)

theorem numbersApart_itemTokens : ∀ vs : List Value, NumbersApart (itemTokens vs)
  | [] => List.isChain_singleton _
  | [v] => numbersApart_append_cons rfl (numbersApart_tokens v) (List.isChain_singleton _)
  | v :: w :: vs =>
    numbersApart_append_cons rfl (numbersApart_tokens v)
      (numbersApart_cons rfl (numbersApart_itemTokens (w :: vs)))

theorem numbersApart_memberTokens :
    ∀ ms : List (Option String × Value), NumbersApart (memberTokens ms)
  | [] => List.isChain_singleton _
  | [(_, v)] =>
    numbersApart_cons rfl (numbersApart_cons rfl
      (numbersApart_append_cons rfl (numbersApart_tokens v) (List.isChain_singleton _)))
  | (_, v) :: m :: ms =>
    numbersApart_cons rfl (numbersApart_cons rfl
      (numbersApart_append_cons rfl (numbersApart_tokens v)
        (numbersApart_cons rfl (numbersApart_memberTokens (m :: ms)))))

end

/-! ## Plain values -/

/-- Whether all numbers of a value are natural. -/
def IsPlain (v : Value) : Prop := ∀ t ∈ v.tokens, t.IsPlain

theorem isPlain_text (s : String) : (text s).IsPlain := by
  simp [IsPlain, text, tokens, Token.IsPlain]

theorem isPlain_bool (b : Bool) : (bool b).IsPlain := by simp [IsPlain, tokens, Token.IsPlain]

theorem isPlain_nat (n : Nat) : (nat n).IsPlain := by simp [IsPlain, nat, tokens, Token.IsPlain]

theorem isPlain_array {vs : List Value} (h : ∀ v ∈ vs, v.IsPlain) : (array vs).IsPlain := by
  have hitems : ∀ t ∈ itemTokens vs, t.IsPlain := by
    induction vs with
    | nil => simp [itemTokens, Token.IsPlain]
    | cons v vs ih =>
      have hv := h v List.mem_cons_self
      have hvs := ih fun w hw => h w (List.mem_cons_of_mem _ hw)
      cases vs with
      | nil =>
        simp only [itemTokens, List.forall_mem_append, List.forall_mem_singleton]
        exact ⟨hv, trivial⟩
      | cons w vs =>
        simp only [itemTokens, List.forall_mem_append, List.forall_mem_cons]
        exact ⟨hv, trivial, hvs⟩
  rw [IsPlain, tokens]
  exact List.forall_mem_cons.mpr ⟨trivial, hitems⟩

theorem isPlain_record {ms : List (String × Value)} (h : ∀ m ∈ ms, m.2.IsPlain) :
    (record ms).IsPlain := by
  have hmembers : ∀ t ∈ memberTokens (ms.map fun m => (some m.1, m.2)), t.IsPlain := by
    induction ms with
    | nil => simp [memberTokens, Token.IsPlain]
    | cons m ms ih =>
      have hm := h m List.mem_cons_self
      have hms := ih fun w hw => h w (List.mem_cons_of_mem _ hw)
      cases ms with
      | nil =>
        simp only [List.map_cons, List.map_nil, memberTokens, List.forall_mem_cons,
          List.forall_mem_append]
        exact ⟨⟨trivial, trivial, hm⟩, trivial, nofun⟩
      | cons w ms =>
        simp only [List.map_cons, memberTokens, List.forall_mem_cons, List.forall_mem_append]
        exact ⟨⟨trivial, trivial, hm⟩, trivial, hms⟩
  rw [record, IsPlain, tokens]
  exact List.forall_mem_cons.mpr ⟨trivial, hmembers⟩

/-! ## Whole texts -/

/-- **A text that spells the tokens of a value denotes the value.** -/
theorem ofText?_of_laid {v : Value} {cs : List Char} (hv : v.IsPlain) (h : Laid v.tokens cs) :
    ofText? (.ofList cs) = some v := by
  rw [ofText?, String.toList_ofList, scan_of_laid h hv v.numbersApart_tokens, Option.bind_some,
    ofTokens?_tokens]

theorem ofText?_compact {v : Value} (hv : v.IsPlain) : ofText? v.compact = some v :=
  ofText?_of_laid hv (laid_flatMap_spell _)

theorem ofText?_pretty {v : Value} (hv : v.IsPlain) : ofText? v.pretty = some v :=
  ofText?_of_laid hv (laid_layOut _ _)

/-- Indented lines may have an end to the last of them. -/
theorem ofText?_pretty_append_newline {v : Value} (hv : v.IsPlain) :
    ofText? (v.pretty ++ "\n") = some v := by
  have hlaid : Laid v.tokens (layOut 0 v.tokens ++ ['\n']) :=
    (laid_layOut _ _).append_gap (by simp [AllGap, isGap])
  have htext : v.pretty ++ "\n" = .ofList (layOut 0 v.tokens ++ ['\n']) := by
    rw [Value.pretty, String.ofList_append]
  rw [htext]
  exact ofText?_of_laid hv hlaid

end Cron.Json.Value
