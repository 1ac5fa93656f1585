import Cron.Proofs.Pattern.Grammar

/-! # What the reader of field texts accepts

One lemma for each reader says which texts it accepts and as what, with bounds and without
them at once: what it accepts is the form it is for, and the numbers fit the bounds if there
are any.  The readers of the forms are put together in `readChars_eq_ok_iff`.  So bounds never
change what a text says (`readChars_none_of_readChars`), and no text says two things
(`Spells.unique`).
-/
namespace Cron

/-! ## Outcomes

When a chain of steps that may fail succeeds, and what its last step was given then. -/

namespace Outcome

variable {ε ε' α β : Type} {x : Except ε α}

theorem map_eq_ok_iff {f : α → β} {b : β} : x.map f = .ok b ↔ ∃ a, x = .ok a ∧ f a = b := by
  cases x <;> simp [Except.map]

theorem map_eq_error_iff {f : α → β} {c : ε} : x.map f = .error c ↔ x = .error c := by
  cases x <;> simp [Except.map]

theorem mapError_eq_ok_iff {f : ε → ε'} {a : α} : x.mapError f = .ok a ↔ x = .ok a := by
  cases x with
  | error e => exact iff_of_false nofun nofun
  | ok b =>
    change Except.ok b = .ok a ↔ _
    simp

theorem mapError_eq_error_iff {f : ε → ε'} {c : ε'} :
    x.mapError f = .error c ↔ ∃ e, x = .error e ∧ f e = c := by
  cases x with
  | error e =>
    change Except.error (f e) = .error c ↔ _
    simp
  | ok b => exact iff_of_false nofun nofun

theorem bind_eq_ok_iff {f : α → Except ε β} {b : β} :
    x >>= f = .ok b ↔ ∃ a, x = .ok a ∧ f a = .ok b := by
  cases x <;> simp [bind, Except.bind]

theorem bind_eq_error_iff {f : α → Except ε β} {c : ε} :
    x >>= f = .error c ↔ x = .error c ∨ ∃ a, x = .ok a ∧ f a = .error c := by
  cases x <;> simp [bind, Except.bind]

end Outcome

namespace Pattern

variable {limits : Option Bounds} {cs : List Char}

/-! ## Numbers -/

theorem within_iff {v : UInt32} :
    within limits v = true ↔ ∀ b ∈ limits, b.contains v = true := by
  cases limits <;> simp [within]

theorem boundedNumber?_eq_some_iff {v : UInt32} :
    boundedNumber? limits cs = some v ↔ IsNumber cs v ∧ ∀ b ∈ limits, b.contains v = true := by
  rw [boundedNumber?, Option.filter_eq_some_iff, number?_eq_some_iff, within_iff]

/-! ## Ranges -/

theorem checkRange_eq_ok_iff {a z : UInt32} {r : UInt32 × UInt32} :
    checkRange limits a z = .ok r ↔ (a, z) = r ∧ ∀ b ∈ limits, b.Spans a z := by
  cases limits with
  | none => simp [checkRange]
  | some b =>
    by_cases ha : b.contains a = true
    · by_cases hz : b.contains z = true
      · by_cases hle : z ≤ a
        · simp [checkRange, Bounds.Spans, ha, hz, hle]
        · simp [checkRange, Bounds.Spans, ha, hz, hle, UInt32.not_le.mp hle]
      · simp [checkRange, Bounds.Spans, ha, hz]
    · simp [checkRange, Bounds.Spans, ha]

theorem checkRange_eq_error_iff {b : Bounds} {a z : UInt32} {fault : Fault} :
    checkRange (some b) a z = .error fault ↔
      (b.contains a = false ∧ .start b = fault) ∨
      (b.contains a = true ∧ b.contains z = false ∧ .stop b = fault) ∨
      (b.contains a = true ∧ b.contains z = true ∧ z ≤ a ∧ .order = fault) := by
  cases ha : b.contains a
  · simp [checkRange, ha]
  cases hz : b.contains z
  · simp [checkRange, ha, hz]
  by_cases hle : z ≤ a
  · simp [checkRange, ha, hz, hle]
  · simp [checkRange, ha, hz, hle]

/-- A span is read as far as its numbers, and these are checked. -/
theorem readRange_of_isSpan {a z : UInt32} (h : IsSpan cs a z) :
    readRange limits cs = checkRange limits a z := by
  obtain ⟨x, y, hx, hy, hcs⟩ := h
  have hsplit : cs.splitOn '-' = [x, y] :=
    Text.splitOn_eq_pair_iff.mpr ⟨hx.not_mem (by decide), hy.not_mem (by decide), hcs⟩
  simp only [readRange, hsplit, number?_eq_some_iff.mpr hx, number?_eq_some_iff.mpr hy]

theorem readRange_eq_ok_iff {a z : UInt32} :
    readRange limits cs = .ok (a, z) ↔ IsSpan cs a z ∧ ∀ b ∈ limits, b.Spans a z := by
  constructor
  · intro h
    unfold readRange at h
    split at h
    · rename_i x y hxy
      split at h
      · rename_i a' z' ha hz
        obtain ⟨he, hspans⟩ := checkRange_eq_ok_iff.mp h
        obtain ⟨rfl, rfl⟩ := Prod.mk.inj he
        obtain ⟨_, _, hcs⟩ := Text.splitOn_eq_pair_iff.mp hxy
        exact ⟨⟨x, y, number?_eq_some_iff.mp ha, number?_eq_some_iff.mp hz, hcs⟩, hspans⟩
      · cases h
    · cases h
  · rintro ⟨hspan, hspans⟩
    rw [readRange_of_isSpan hspan]
    exact checkRange_eq_ok_iff.mpr ⟨rfl, hspans⟩

/-! ## Steps -/

theorem readBase_eq_ok_iff {o : Base} :
    readBase limits cs = .ok o ↔ SpellsBase cs o ∧ ∀ b ∈ limits, o.Fits b := by
  constructor
  · intro h
    unfold readBase at h
    split at h
    · rename_i hstar
      obtain rfl := Except.ok.inj h
      exact ⟨hstar ▸ .any, fun _ _ => trivial⟩
    · split at h
      · obtain ⟨⟨a, z⟩, hr, rfl⟩ := Outcome.map_eq_ok_iff.mp h
        obtain ⟨hspan, hspans⟩ := readRange_eq_ok_iff.mp hr
        exact ⟨.range hspan, hspans⟩
      · split at h
        · rename_i a ha
          obtain rfl := Except.ok.inj h
          obtain ⟨hnum, hin⟩ := boundedNumber?_eq_some_iff.mp ha
          exact ⟨.start hnum, hin⟩
        · cases h
  · rintro ⟨hspells, hfits⟩
    cases hspells with
    | any => rfl
    | start hnum =>
      have hminus : cs.contains '-' = false := by simpa using hnum.not_mem (by decide)
      rw [readBase, if_neg hnum.ne_star, hminus,
        boundedNumber?_eq_some_iff.mpr ⟨hnum, hfits⟩]
      rfl
    | range hspan =>
      have hminus : cs.contains '-' = true := by simpa using hspan.hyphen_mem
      rw [readBase, if_neg hspan.ne_star, hminus, readRange_eq_ok_iff.mpr ⟨hspan, hfits⟩]
      rfl

theorem stride_eq_some_iff {n : UInt32} :
    (number? cs).filter (fun n => n != 0) = some n ↔ IsNumber cs n ∧ 1 ≤ n := by
  have hpos : (n != 0) = true ↔ 1 ≤ n := by
    rw [bne_iff_ne, ne_eq, ← UInt32.toNat_inj, UInt32.le_iff_toNat_le]
    exact Nat.pos_iff_ne_zero.symm
  rw [Option.filter_eq_some_iff, number?_eq_some_iff, hpos]

theorem readStep_eq_ok_iff {p : Pattern} :
    readStep limits cs = .ok p ↔ ∃ base stride o n, SpellsBase base o ∧ IsNumber stride n ∧
      1 ≤ n ∧ cs = base ++ '/' :: stride ∧ p = .step o n ∧ ∀ b ∈ limits, o.Fits b := by
  constructor
  · intro h
    unfold readStep at h
    split at h
    · rename_i base stride hsplit
      split at h
      · rename_i n hn
        obtain ⟨o, ho, rfl⟩ := Outcome.map_eq_ok_iff.mp h
        obtain ⟨hspells, hfits⟩ := readBase_eq_ok_iff.mp ho
        obtain ⟨hnum, hpos⟩ := stride_eq_some_iff.mp hn
        obtain ⟨_, _, hcs⟩ := Text.splitOn_eq_pair_iff.mp hsplit
        exact ⟨base, stride, o, n, hspells, hnum, hpos, hcs, rfl, hfits⟩
      · cases h
    · cases h
  · rintro ⟨base, stride, o, n, hspells, hnum, hpos, hcs, rfl, hfits⟩
    have hsplit : cs.splitOn '/' = [base, stride] :=
      Text.splitOn_eq_pair_iff.mpr ⟨hspells.slash_not_mem, hnum.not_mem (by decide), hcs⟩
    simp only [readStep, hsplit, stride_eq_some_iff.mpr ⟨hnum, hpos⟩,
      readBase_eq_ok_iff.mpr ⟨hspells, hfits⟩]
    rfl

/-! ## Lists and single numbers -/

/-- Reading the parts of a list one by one either fails or gives their numbers in order. -/
theorem mapM_boundedNumber?_eq_some_iff {parts : List (List Char)} {vs : List UInt32} :
    parts.mapM (boundedNumber? limits) = some vs ↔
      List.Forall₂ IsNumber parts vs ∧ ∀ b ∈ limits, ∀ v ∈ vs, b.contains v = true := by
  induction parts generalizing vs with
  | nil =>
    rw [List.mapM_nil, Option.pure_def, Option.some.injEq, List.forall₂_nil_left_iff]
    constructor
    · rintro rfl
      exact ⟨rfl, fun _ _ v hv => absurd hv List.not_mem_nil⟩
    · exact fun h => h.1.symm
  | cons w parts ih =>
    simp only [List.mapM_cons, Option.bind_eq_bind, Option.bind_eq_some_iff, Option.pure_def,
      Option.some.injEq, boundedNumber?_eq_some_iff, ih]
    constructor
    · rintro ⟨v, ⟨hv, hin⟩, vs, ⟨hvs, hall⟩, rfl⟩
      refine ⟨.cons hv hvs, fun b hb u hu => ?_⟩
      rcases List.mem_cons.mp hu with rfl | hu
      · exact hin b hb
      · exact hall b hb u hu
    · rintro ⟨hvs, hall⟩
      obtain ⟨v, us, hv, hus, rfl⟩ := List.forall₂_cons_left_iff.mp hvs
      exact ⟨v, ⟨hv, fun b hb => hall b hb v List.mem_cons_self⟩, us,
        ⟨hus, fun b hb u hu => hall b hb u (List.mem_cons_of_mem _ hu)⟩, rfl⟩

theorem readList_eq_ok_iff {p : Pattern} :
    readList limits cs = .ok p ↔ ∃ vs, List.Forall₂ IsNumber (cs.splitOn ',') vs ∧
      p = .list vs ∧ ∀ b ∈ limits, ∀ v ∈ vs, b.contains v = true := by
  unfold readList
  cases hm : (cs.splitOn ',').mapM (boundedNumber? limits) with
  | none =>
    constructor
    · intro h
      cases h
    · rintro ⟨vs, hvs, rfl, hall⟩
      rw [mapM_boundedNumber?_eq_some_iff.mpr ⟨hvs, hall⟩] at hm
      cases hm
  | some vs =>
    obtain ⟨hvs, hall⟩ := mapM_boundedNumber?_eq_some_iff.mp hm
    constructor
    · intro h
      exact ⟨vs, hvs, (Except.ok.inj h).symm, hall⟩
    · rintro ⟨us, hus, rfl, hall'⟩
      rw [mapM_boundedNumber?_eq_some_iff.mpr ⟨hus, hall'⟩] at hm
      rw [Option.some.inj hm]

theorem readSingle_eq_ok_iff {p : Pattern} :
    readSingle limits cs = .ok p ↔
      ∃ v, IsNumber cs v ∧ p = .single v ∧ ∀ b ∈ limits, b.contains v = true := by
  simp only [← number?_eq_some_iff, ← within_iff]
  unfold readSingle
  cases number? cs with
  | none => simp
  | some v =>
    by_cases hw : within limits v = true
    · simp only [hw, if_true, Except.ok.injEq, Option.some.injEq]
      constructor
      · rintro rfl
        exact ⟨v, rfl, rfl, hw⟩
      · rintro ⟨u, rfl, rfl, _⟩
        rfl
    · simp only [hw, Option.some.injEq]
      constructor
      · intro h
        cases h
      · rintro ⟨u, rfl, _, hu⟩
        exact absurd hu hw

/-! ## Whole texts -/

/-- A text of numbers with commas between them, seen from its pieces. -/
theorem spells_list_iff {vs : List UInt32} :
    (',' ∈ cs ∧ List.Forall₂ IsNumber (cs.splitOn ',') vs) ↔
      ∃ parts, 2 ≤ parts.length ∧ List.Forall₂ IsNumber parts vs ∧
        cs = [','].intercalate parts := by
  rw [Text.mem_iff_two_le_length_splitOn]
  constructor
  · rintro ⟨hlen, hvs⟩
    exact ⟨_, hlen, hvs, (List.intercalate_splitOn ',').symm⟩
  · rintro ⟨parts, hlen, hvs, rfl⟩
    have hne : parts ≠ [] := by
      rintro rfl
      simp at hlen
    rw [List.splitOn_intercalate ',' (not_mem_of_forall₂ hvs (by decide)) hne]
    exact ⟨hlen, hvs⟩

/-! A text is read by the first mark it holds, in the order slash, hyphen, comma, and one without
them as a single number, unless it is blank or the star. -/

theorem readChars_of_allBlank (h : Text.AllBlank cs) : readChars limits cs = .error .empty := by
  rw [readChars, Text.trim_eq_nil_iff.mpr h]
  rfl

theorem readChars_of_slash (hslash : '/' ∈ cs) : readChars limits cs = readStep limits cs := by
  simp [readChars, trim_isEmpty_eq_false hslash (by decide), ne_star_of_mem hslash (by decide),
    hslash]

theorem readChars_of_hyphen (hslash : '/' ∉ cs) (hminus : '-' ∈ cs) :
    readChars limits cs = (readRange limits cs).map (fun r => .range r.1 r.2) := by
  simp [readChars, trim_isEmpty_eq_false hminus (by decide), ne_star_of_mem hminus (by decide),
    hslash, hminus]

theorem readChars_of_comma (hslash : '/' ∉ cs) (hminus : '-' ∉ cs) (hcomma : ',' ∈ cs) :
    readChars limits cs = readList limits cs := by
  simp [readChars, trim_isEmpty_eq_false hcomma (by decide), ne_star_of_mem hcomma (by decide),
    hslash, hminus, hcomma]

theorem readChars_of_plain (hblank : ¬ Text.AllBlank cs) (hstar : cs ≠ ['*'])
    (hslash : '/' ∉ cs) (hminus : '-' ∉ cs) (hcomma : ',' ∉ cs) :
    readChars limits cs = readSingle limits cs := by
  have hempty : (Text.trim cs).isEmpty = false := by
    rwa [List.isEmpty_eq_false_iff, ne_eq, Text.trim_eq_nil_iff]
  simp [readChars, hempty, hstar, hslash, hminus, hcomma]

/-- **A text is read as a pattern exactly if it spells the pattern, and the pattern fits the
bounds if there are any.** -/
theorem readChars_eq_ok_iff {p : Pattern} :
    readChars limits cs = .ok p ↔ Spells cs p ∧ ∀ b ∈ limits, p.Fits b := by
  constructor
  · intro h
    unfold readChars at h
    split at h
    · cases h
    split at h
    · rename_i hstar
      obtain rfl := Except.ok.inj h
      exact ⟨hstar ▸ .any, fun _ _ => trivial⟩
    split at h
    · obtain ⟨base, stride, o, n, ho, hn, hpos, rfl, rfl, hfits⟩ := readStep_eq_ok_iff.mp h
      exact ⟨.step ho hn hpos, hfits⟩
    split at h
    · obtain ⟨⟨a, z⟩, hr, rfl⟩ := Outcome.map_eq_ok_iff.mp h
      obtain ⟨hspan, hspans⟩ := readRange_eq_ok_iff.mp hr
      exact ⟨.range hspan, hspans⟩
    split at h
    · rename_i hcomma
      obtain ⟨vs, hvs, rfl, hall⟩ := readList_eq_ok_iff.mp h
      obtain ⟨parts, hlen, hparts, rfl⟩ :=
        spells_list_iff.mp ⟨List.contains_iff_mem.mp hcomma, hvs⟩
      exact ⟨.list hlen hparts, hall⟩
    · obtain ⟨v, hv, rfl, hin⟩ := readSingle_eq_ok_iff.mp h
      exact ⟨.single hv, hin⟩
  · rintro ⟨hspells, hfits⟩
    -- each form is led past the tests for the other marks, for it holds none of them
    cases hspells with
    | any => rfl
    | single hv =>
      rw [readChars_of_plain hv.not_allBlank hv.ne_star (hv.not_mem (by decide))
        (hv.not_mem (by decide)) (hv.not_mem (by decide))]
      exact readSingle_eq_ok_iff.mpr ⟨_, hv, rfl, hfits⟩
    | @list parts vs hlen hvs =>
      have hnot : ∀ c ∈ marks, c ≠ ',' → c ∉ [','].intercalate parts := fun c hc hne =>
        Text.not_mem_intercalate hne (not_mem_of_forall₂ hvs hc)
      obtain ⟨hcomma, hread⟩ := spells_list_iff.mpr ⟨parts, hlen, hvs, rfl⟩
      rw [readChars_of_comma (hnot _ (by decide) (by decide)) (hnot _ (by decide) (by decide))
        hcomma]
      exact readList_eq_ok_iff.mpr ⟨vs, hread, rfl, hfits⟩
    | range hspan =>
      rw [readChars_of_hyphen (hspan.not_mem (by decide) (by decide)) hspan.hyphen_mem,
        readRange_eq_ok_iff.mpr ⟨hspan, hfits⟩]
      rfl
    | @step base stride o n ho hn hpos =>
      rw [readChars_of_slash (by simp)]
      exact readStep_eq_ok_iff.mpr ⟨base, stride, o, n, ho, hn, hpos, rfl, rfl, hfits⟩

theorem readChars_none_eq_ok_iff {p : Pattern} : readChars none cs = .ok p ↔ Spells cs p := by
  rw [readChars_eq_ok_iff]
  simp

/-- Bounds only refuse: what is read within them is read without them as the same pattern. -/
theorem readChars_none_of_readChars {p : Pattern} (h : readChars limits cs = .ok p) :
    readChars none cs = .ok p :=
  readChars_none_eq_ok_iff.mpr (readChars_eq_ok_iff.mp h).1

/-- No text spells two patterns. -/
theorem Spells.unique {p q : Pattern} (hp : Spells cs p) (hq : Spells cs q) : p = q := by
  have hread := readChars_none_eq_ok_iff.mpr hp
  rw [readChars_none_eq_ok_iff.mpr hq] at hread
  exact (Except.ok.inj hread).symm

/-- A text that spells a pattern holds of the same numbers. -/
theorem Spells.textHolds_eq {text : String} {p : Pattern} (h : Spells text.toList p)
    (v : UInt32) : textHolds text v = p.holds v := by
  have hread : read text = .ok p := readChars_none_eq_ok_iff.mpr h
  rw [textHolds, hread]

end Pattern

/-- **A field accepts exactly its grammar.**  It reads a text as a pattern if and only if the
text spells the pattern and the pattern fits the bounds of the field; and a text spells no
pattern but that one. -/
theorem Field.read_eq_ok_iff (f : Field) (text : String) (p : Pattern) :
    (f.read text = .ok p ↔ Pattern.Spells text.toList p ∧ p.Fits f.bounds) ∧
      (Pattern.Spells text.toList p → ∀ q, Pattern.Spells text.toList q → q = p) := by
  refine ⟨?_, fun hp q hq => hq.unique hp⟩
  rw [Field.read, Pattern.readChars_eq_ok_iff]
  simp

end Cron
