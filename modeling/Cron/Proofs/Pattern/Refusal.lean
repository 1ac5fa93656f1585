import Cron.Proofs.Pattern.Bounds

/-! # What is said of a refused text

Several things may be wrong with a text at once, and a reader tells one of them.  `Refused` says
which: it has one rule for each reason, and a rule asks of the text only what its reason is about
and what is looked at before.  The reader refuses a text for a fault exactly by these rules
(`readChars_eq_error_iff`), so the fault that is told is there, and no fault that comes before it.

What is looked at first is the step: the text is cut at its slash, and the stride has to be a
number above zero.  Only then comes the front of the text, which is what stands before the slash,
or all of the text if it has none.
-/
namespace Cron
namespace Pattern

open Text (AllBlank)

/-- A number within the bounds. -/
def IsNumberWithin (b : Bounds) (cs : List Char) : Prop :=
  ∃ v, IsNumber cs v ∧ b.contains v = true

/-- What a text names numbers with: the whole of it if it has no slash, and what stands before
the slash if a number above zero stands behind it. -/
inductive Front : List Char → List Char → Prop
  | whole {cs : List Char} : '/' ∉ cs → Front cs cs
  | base {base stride : List Char} {n : UInt32} : '/' ∉ base → IsNumber stride n → 1 ≤ n →
      Front (base ++ '/' :: stride) base

/-- Why a front with a hyphen is refused. -/
inductive RefusedSpan (b : Bounds) : List Char → Fault → Prop
  | shape {front : List Char} : 2 ≤ front.count '-' → RefusedSpan b front .rangeShape
  | numbers {x y : List Char} : '-' ∉ x → '-' ∉ y →
      ((∀ a, ¬ IsNumber x a) ∨ ∀ z, ¬ IsNumber y z) →
      RefusedSpan b (x ++ '-' :: y) .rangeNumber
  | start {front : List Char} {a z : UInt32} : IsSpan front a z → b.contains a = false →
      RefusedSpan b front (.start b)
  | stop {front : List Char} {a z : UInt32} : IsSpan front a z → b.contains a = true →
      b.contains z = false → RefusedSpan b front (.stop b)
  | order {front : List Char} {a z : UInt32} : IsSpan front a z → b.contains a = true →
      b.contains z = true → z ≤ a → RefusedSpan b front .order

/-- Why a text is refused within bounds. -/
inductive Refused (b : Bounds) : List Char → Fault → Prop
  | empty {cs : List Char} : AllBlank cs → Refused b cs .empty
  | stepShape {cs : List Char} : 2 ≤ cs.count '/' → Refused b cs .stepShape
  | stepNumber {base stride : List Char} : '/' ∉ base → '/' ∉ stride →
      (∀ n, IsNumber stride n → n = 0) → Refused b (base ++ '/' :: stride) .stepNumber
  | span {cs front : List Char} {fault : Fault} : Front cs front → RefusedSpan b front fault →
      Refused b cs fault
  | base {base stride : List Char} {n : UInt32} : '/' ∉ base → IsNumber stride n → 1 ≤ n →
      '-' ∉ base → base ≠ ['*'] → ¬ IsNumberWithin b base →
      Refused b (base ++ '/' :: stride) (.start b)
  | list {cs part : List Char} : '/' ∉ cs → '-' ∉ cs → ',' ∈ cs → part ∈ cs.splitOn ',' →
      ¬ IsNumberWithin b part → Refused b cs (.list b)
  | shape {cs : List Char} : ¬ AllBlank cs → '/' ∉ cs → '-' ∉ cs → ',' ∉ cs → cs ≠ ['*'] →
      (∀ v, ¬ IsNumber cs v) → Refused b cs .shape
  | number {cs : List Char} {v : UInt32} : IsNumber cs v → b.contains v = false →
      Refused b cs (.number b)

variable {b : Bounds} {cs : List Char} {fault : Fault}

theorem RefusedSpan.hyphen_mem (h : RefusedSpan b cs fault) : '-' ∈ cs := by
  cases h with
  | shape hcount => exact List.count_pos_iff.mp (by omega)
  | numbers => simp
  | start hspan => exact hspan.hyphen_mem
  | stop hspan => exact hspan.hyphen_mem
  | order hspan => exact hspan.hyphen_mem

/-! ## Numbers -/

theorem number?_eq_none_iff : number? cs = none ↔ ∀ v, ¬ IsNumber cs v := by
  simp only [Option.eq_none_iff_forall_ne_some, ne_eq, number?_eq_some_iff]

theorem boundedNumber?_eq_none_iff :
    boundedNumber? (some b) cs = none ↔ ¬ IsNumberWithin b cs := by
  simp only [Option.eq_none_iff_forall_ne_some, ne_eq, boundedNumber?_eq_some_iff, IsNumberWithin,
    Option.mem_some_iff, forall_eq', not_exists]

/-- A stride is refused if it is no number or zero. -/
theorem stride_eq_none_iff :
    (number? cs).filter (fun n => n != 0) = none ↔ ∀ n, IsNumber cs n → n = 0 := by
  simp [Option.filter_eq_none_iff, number?_eq_some_iff]

/-! ## Ranges and bases -/

theorem readRange_eq_error_iff (h : '-' ∈ cs) :
    readRange (some b) cs = .error fault ↔ RefusedSpan b cs fault := by
  constructor
  · intro hr
    unfold readRange at hr
    split at hr
    · rename_i x y hxy
      obtain ⟨hx, hy, rfl⟩ := Text.splitOn_eq_pair_iff.mp hxy
      split at hr
      · rename_i a z ha hz
        have hspan : IsSpan (x ++ '-' :: y) a z :=
          ⟨x, y, number?_eq_some_iff.mp ha, number?_eq_some_iff.mp hz, rfl⟩
        rcases checkRange_eq_error_iff.mp hr with ⟨ha, rfl⟩ | ⟨ha, hz, rfl⟩ | ⟨ha, hz, hle, rfl⟩
        · exact .start hspan ha
        · exact .stop hspan ha hz
        · exact .order hspan ha hz hle
      · rename_i hnone
        obtain rfl := Except.error.inj hr
        refine .numbers hx hy (or_iff_not_imp_left.mpr fun ha z hz => ?_)
        push Not at ha
        obtain ⟨a, ha⟩ := ha
        exact hnone a z (number?_eq_some_iff.mpr ha) (number?_eq_some_iff.mpr hz)
    · rename_i hpair
      obtain rfl := Except.error.inj hr
      exact .shape (Text.two_le_count_iff.mpr ⟨h, hpair⟩)
  · intro hr
    cases hr with
    | shape hcount =>
      unfold readRange
      split
      · rename_i hxy
        exact absurd hxy ((Text.two_le_count_iff.mp hcount).2 _ _)
      · rfl
    | numbers hx hy hnone =>
      rw [readRange, Text.splitOn_eq_pair_iff.mpr ⟨hx, hy, rfl⟩]
      dsimp only
      rcases hnone with hnone | hnone
      · rw [number?_eq_none_iff.mpr hnone]
      · rw [number?_eq_none_iff.mpr hnone]
        cases number? _ <;> rfl
    | start hspan ha =>
      rw [readRange_of_isSpan hspan]
      exact checkRange_eq_error_iff.mpr (Or.inl ⟨ha, rfl⟩)
    | stop hspan ha hz =>
      rw [readRange_of_isSpan hspan]
      exact checkRange_eq_error_iff.mpr (Or.inr (Or.inl ⟨ha, hz, rfl⟩))
    | order hspan ha hz hle =>
      rw [readRange_of_isSpan hspan]
      exact checkRange_eq_error_iff.mpr (Or.inr (Or.inr ⟨ha, hz, hle, rfl⟩))

/-- The base of a step that is not the star is refused like a range if it has a hyphen, and
otherwise for its number. -/
theorem readBase_eq_error_iff : readBase (some b) cs = .error fault ↔
    RefusedSpan b cs fault ∨
      '-' ∉ cs ∧ cs ≠ ['*'] ∧ ¬ IsNumberWithin b cs ∧ .start b = fault := by
  by_cases hstar : cs = ['*']
  · subst hstar
    refine iff_of_false nofun ?_
    rintro (hspan | ⟨-, hne, -⟩)
    · exact absurd hspan.hyphen_mem (by decide)
    · exact hne rfl
  by_cases hminus : '-' ∈ cs
  · simp [readBase, hstar, hminus, Outcome.map_eq_error_iff, readRange_eq_error_iff hminus]
  · have hspan : ¬ RefusedSpan b cs fault := fun h => hminus h.hyphen_mem
    rw [readBase, if_neg hstar, if_neg (by simpa using hminus)]
    cases ha : boundedNumber? (some b) cs with
    | none => simp [hspan, hminus, hstar, boundedNumber?_eq_none_iff.mp ha, missed]
    | some a =>
      have hwithin : IsNumberWithin b cs := by
        obtain ⟨hnum, hin⟩ := boundedNumber?_eq_some_iff.mp ha
        exact ⟨a, hnum, hin b rfl⟩
      simp [hspan, hwithin]

/-! ## Steps -/

/-- A text with a slash is refused for the slashes, for its stride, or for its base. -/
theorem readStep_eq_error_iff (h : '/' ∈ cs) : readStep (some b) cs = .error fault ↔
    (2 ≤ cs.count '/' ∧ .stepShape = fault) ∨
    ∃ base stride, '/' ∉ base ∧ '/' ∉ stride ∧ cs = base ++ '/' :: stride ∧
      ((∀ n, IsNumber stride n → n = 0) ∧ .stepNumber = fault ∨
        ∃ n, IsNumber stride n ∧ 1 ≤ n ∧ readBase (some b) base = .error fault) := by
  constructor
  · intro hr
    unfold readStep at hr
    split at hr
    · rename_i base stride hcut
      obtain ⟨hbase, hstride, hcs⟩ := Text.splitOn_eq_pair_iff.mp hcut
      refine Or.inr ⟨base, stride, hbase, hstride, hcs, ?_⟩
      split at hr
      · rename_i n hn
        obtain ⟨hnum, hpos⟩ := stride_eq_some_iff.mp hn
        exact Or.inr ⟨n, hnum, hpos, Outcome.map_eq_error_iff.mp hr⟩
      · rename_i hn
        exact Or.inl ⟨stride_eq_none_iff.mp hn, Except.error.inj hr⟩
    · rename_i hpair
      exact Or.inl ⟨Text.two_le_count_iff.mpr ⟨h, hpair⟩, Except.error.inj hr⟩
  · rintro (⟨hcount, rfl⟩ | ⟨base, stride, hbase, hstride, rfl, hfault⟩)
    · unfold readStep
      split
      · rename_i hcut
        exact absurd hcut ((Text.two_le_count_iff.mp hcount).2 _ _)
      · rfl
    · rw [readStep, Text.splitOn_eq_pair_iff.mpr ⟨hbase, hstride, rfl⟩]
      dsimp only
      rcases hfault with ⟨hzero, rfl⟩ | ⟨n, hnum, hpos, hr⟩
      · rw [stride_eq_none_iff.mpr hzero]
      · rw [stride_eq_some_iff.mpr ⟨hnum, hpos⟩]
        exact Outcome.map_eq_error_iff.mpr hr

/-! ## Lists and single numbers -/

theorem mapM_boundedNumber?_eq_none_iff {parts : List (List Char)} :
    parts.mapM (boundedNumber? (some b)) = none ↔ ∃ part ∈ parts, ¬ IsNumberWithin b part := by
  induction parts with
  | nil => simp
  | cons w parts ih =>
    rw [List.mapM_cons, List.exists_mem_cons_iff, ← ih, ← boundedNumber?_eq_none_iff]
    cases boundedNumber? (some b) w with
    | none => simp
    | some v => cases parts.mapM (boundedNumber? (some b)) <;> simp

theorem readList_eq_error_iff : readList (some b) cs = .error fault ↔
    (∃ part ∈ cs.splitOn ',', ¬ IsNumberWithin b part) ∧ .list b = fault := by
  rw [← mapM_boundedNumber?_eq_none_iff, readList]
  cases (cs.splitOn ',').mapM (boundedNumber? (some b)) with
  | none => simp [missed]
  | some vs => simp

theorem readSingle_eq_error_iff : readSingle (some b) cs = .error fault ↔
    ((∀ v, ¬ IsNumber cs v) ∧ .shape = fault) ∨
      ∃ v, IsNumber cs v ∧ b.contains v = false ∧ .number b = fault := by
  simp only [← number?_eq_some_iff, readSingle]
  cases number? cs with
  | none => simp
  | some v => cases hv : b.contains v <;> simp [within, hv, missed]

/-! ## Whole texts -/

/-- A fault that the reader tells is one that a rule gives. -/
theorem Refused.of_readChars (h : readChars (some b) cs = .error fault) : Refused b cs fault := by
  by_cases hblank : AllBlank cs
  · rw [readChars_of_allBlank hblank] at h
    obtain rfl := Except.error.inj h
    exact .empty hblank
  by_cases hslash : '/' ∈ cs
  · rw [readChars_of_slash hslash, readStep_eq_error_iff hslash] at h
    rcases h with ⟨hcount, rfl⟩ |
      ⟨base, stride, hbase, hstride, rfl, ⟨hzero, rfl⟩ | ⟨n, hnum, hpos, h⟩⟩
    · exact .stepShape hcount
    · exact .stepNumber hbase hstride hzero
    · rcases readBase_eq_error_iff.mp h with hspan | ⟨hminus, hstar, hnone, rfl⟩
      · exact .span (.base hbase hnum hpos) hspan
      · exact .base hbase hnum hpos hminus hstar hnone
  by_cases hminus : '-' ∈ cs
  · rw [readChars_of_hyphen hslash hminus, Outcome.map_eq_error_iff,
      readRange_eq_error_iff hminus] at h
    exact .span (.whole hslash) h
  by_cases hcomma : ',' ∈ cs
  · rw [readChars_of_comma hslash hminus hcomma] at h
    obtain ⟨⟨part, hpart, hnone⟩, rfl⟩ := readList_eq_error_iff.mp h
    exact .list hslash hminus hcomma hpart hnone
  by_cases hstar : cs = ['*']
  · subst hstar
    cases h
  rw [readChars_of_plain hblank hstar hslash hminus hcomma, readSingle_eq_error_iff] at h
  rcases h with ⟨hnone, rfl⟩ | ⟨v, hnum, hout, rfl⟩
  · exact .shape hblank hslash hminus hcomma hstar hnone
  · exact .number hnum hout

/-- What a rule refuses, the reader refuses for the fault of the rule. -/
theorem Refused.readChars_eq (h : Refused b cs fault) : readChars (some b) cs = .error fault := by
  cases h with
  | empty hblank => exact readChars_of_allBlank hblank
  | stepShape hcount =>
    obtain ⟨hslash, -⟩ := Text.two_le_count_iff.mp hcount
    rw [readChars_of_slash hslash, readStep_eq_error_iff hslash]
    exact Or.inl ⟨hcount, rfl⟩
  | stepNumber hbase hstride hzero =>
    rw [readChars_of_slash (by simp), readStep_eq_error_iff (by simp)]
    exact Or.inr ⟨_, _, hbase, hstride, rfl, Or.inl ⟨hzero, rfl⟩⟩
  | span hfront hspan =>
    cases hfront with
    | whole hslash =>
      rw [readChars_of_hyphen hslash hspan.hyphen_mem, Outcome.map_eq_error_iff]
      exact (readRange_eq_error_iff hspan.hyphen_mem).mpr hspan
    | base hbase hnum hpos =>
      rw [readChars_of_slash (by simp), readStep_eq_error_iff (by simp)]
      exact Or.inr ⟨_, _, hbase, hnum.not_mem (by decide), rfl,
        Or.inr ⟨_, hnum, hpos, readBase_eq_error_iff.mpr (Or.inl hspan)⟩⟩
  | base hbase hnum hpos hminus hstar hnone =>
    rw [readChars_of_slash (by simp), readStep_eq_error_iff (by simp)]
    exact Or.inr ⟨_, _, hbase, hnum.not_mem (by decide), rfl,
      Or.inr ⟨_, hnum, hpos, readBase_eq_error_iff.mpr (Or.inr ⟨hminus, hstar, hnone, rfl⟩)⟩⟩
  | list hslash hminus hcomma hpart hnone =>
    rw [readChars_of_comma hslash hminus hcomma, readList_eq_error_iff]
    exact ⟨⟨_, hpart, hnone⟩, rfl⟩
  | shape hblank hslash hminus hcomma hstar hnone =>
    rw [readChars_of_plain hblank hstar hslash hminus hcomma, readSingle_eq_error_iff]
    exact Or.inl ⟨hnone, rfl⟩
  | number hnum hout =>
    rw [readChars_of_plain hnum.not_allBlank hnum.ne_star (hnum.not_mem (by decide))
      (hnum.not_mem (by decide)) (hnum.not_mem (by decide)), readSingle_eq_error_iff]
    exact Or.inr ⟨_, hnum, hout, rfl⟩

/-- **A text is refused for a fault exactly if a rule refuses it for that.** -/
theorem readChars_eq_error_iff : readChars (some b) cs = .error fault ↔ Refused b cs fault :=
  ⟨Refused.of_readChars, Refused.readChars_eq⟩

/-! ## Words -/

/-- The faults that a text can be refused for within bounds, and how each of them is put. -/
def wordings (b : Bounds) : List (Fault × String) :=
  let ends := toString b.least ++ " and " ++ toString b.greatest
  [(.empty, "Field cannot be empty"),
    (.stepShape, "Invalid step format. Use */n or start-end/step"),
    (.stepNumber, "Step value must be a positive number"),
    (.rangeShape, "Invalid range format. Use n-m"),
    (.rangeNumber, "Range values must be numbers"),
    (.shape, "Must be a number, *, range (n-m), list (n,m), or step (*/n)"),
    (.number b, "Value must be between " ++ ends),
    (.start b, "Start value must be between " ++ ends),
    (.stop b, "End value must be between " ++ ends),
    (.order, "Start value must be less than end value"),
    (.list b, "All values must be between " ++ ends)]

theorem wordings_eq (b : Bounds) :
    wordings b = (syntaxFaults ++ misfits b).map fun fault => (fault, fault.message) := rfl

theorem RefusedSpan.mem_faults (h : RefusedSpan b cs fault) :
    fault ∈ syntaxFaults ++ misfits b := by
  cases h <;> simp [syntaxFaults, misfits]

theorem Refused.mem_wordings (h : Refused b cs fault) : (fault, fault.message) ∈ wordings b := by
  have hfault : fault ∈ syntaxFaults ++ misfits b := by
    cases h with
    | span _ hspan => exact hspan.mem_faults
    | _ => simp [syntaxFaults, misfits]
  rw [wordings_eq]
  exact List.mem_map_of_mem hfault

/-- No two faults of a field are put in the same words. -/
theorem wordings_inj (f : Field) :
    ∀ p ∈ wordings f.bounds, ∀ q ∈ wordings f.bounds, p.2 = q.2 → p.1 = q.1 := by
  cases f <;> decide +kernel

end Pattern

theorem Field.read_eq_error_iff {f : Field} {text : String} {fault : Pattern.Fault} :
    f.read text = .error fault ↔ Pattern.Refused f.bounds text.toList fault := by
  rw [Field.read, Pattern.readChars_eq_error_iff]

/-- What a field tells of a text that it refuses. -/
structure Field.TellsFault (f : Field) (text : String) : Prop where
  /-- It tells a fault exactly if one of the rules refuses the text for that. -/
  refused_iff : ∀ fault, f.read text = .error fault ↔ Pattern.Refused f.bounds text.toList fault
  /-- The words are those of the fault, with the bounds of the field, ... -/
  worded : ∀ fault, f.read text = .error fault →
    (fault, fault.message) ∈ Pattern.wordings f.bounds
  /-- ... and no other fault is put so. -/
  named : ∀ fault other, f.read text = .error fault →
    (other, fault.message) ∈ Pattern.wordings f.bounds → other = fault

/-- **A refusal names what is wrong with the text**, and does so in words that stand for no other
fault. -/
theorem Field.read_tellsFault (f : Field) (text : String) : f.TellsFault text where
  refused_iff := fun fault => Field.read_eq_error_iff
  worded := by
    intro fault h
    have hrefused := Field.read_eq_error_iff.mp h
    exact hrefused.mem_wordings
  named := by
    intro fault other h hother
    have hrefused := Field.read_eq_error_iff.mp h
    exact Pattern.wordings_inj f _ hother _ hrefused.mem_wordings rfl

/-- Of many faults the stride is told first, and then the first number. -/
example : Field.read .hour "31-7/+0" = .error .stepNumber ∧
    Field.read .hour "31-7/+1" = .error (.start ⟨0, 23⟩) := by decide +kernel

end Cron
