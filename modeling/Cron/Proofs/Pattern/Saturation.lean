import Cron.Proofs.Pattern.Exact

/-! # Numerals too large for a pattern

`SpellsExactly` is the grammar of field texts once more, with the numbers that the numerals denote.
It takes the same texts, and the pattern that a text spells is the exact one with the largest number
in place of all that are larger (`SpellsExactly.spells`).  So a text that is read has a meaning that
knows no bounds, and there is only one (`SpellsExactly.unique`).  A number below the largest one
satisfies the text if and only if it belongs to that meaning (`textHolds_exactly`).
-/
namespace Cron.Pattern

/-- The form `x-y`, with numbers of any size. -/
def IsExactSpan (cs : List Char) (first last : Nat) : Prop :=
  ∃ x y, IsNumeral x first ∧ IsNumeral y last ∧ cs = x ++ '-' :: y

/-- What stands before the slash of a step, with numbers of any size. -/
inductive SpellsExactBase : List Char → Exact.Base → Prop
  | any : SpellsExactBase ['*'] .any
  | start {cs : List Char} {a : Nat} : IsNumeral cs a → SpellsExactBase cs (.start a)
  | range {cs : List Char} {a z : Nat} : IsExactSpan cs a z → SpellsExactBase cs (.range a z)

/-- The forms of a field text, with numbers of any size. -/
inductive SpellsExactly : List Char → Exact → Prop
  | any : SpellsExactly ['*'] .any
  | single {cs : List Char} {n : Nat} : IsNumeral cs n → SpellsExactly cs (.single n)
  | list {parts : List (List Char)} {ns : List Nat} : 2 ≤ parts.length →
      List.Forall₂ IsNumeral parts ns → SpellsExactly ([','].intercalate parts) (.list ns)
  | range {cs : List Char} {a z : Nat} : IsExactSpan cs a z → SpellsExactly cs (.range a z)
  | step {base stride : List Char} {o : Exact.Base} {n : Nat} : SpellsExactBase base o →
      IsNumeral stride n → 1 ≤ n → SpellsExactly (base ++ '/' :: stride) (.step o n)

variable {cs : List Char}

/-! ## From exact numbers to those with room -/

theorem IsNumeral.isNumber {n : Nat} (h : IsNumeral cs n) :
    IsNumber cs (UInt32.ofNatClamp n) :=
  ⟨n, h, toNat_ofNatClamp n⟩

theorem IsExactSpan.isSpan {a z : Nat} (h : IsExactSpan cs a z) :
    IsSpan cs (UInt32.ofNatClamp a) (UInt32.ofNatClamp z) := by
  obtain ⟨x, y, hx, hy, hcs⟩ := h
  exact ⟨x, y, hx.isNumber, hy.isNumber, hcs⟩

theorem SpellsExactBase.spellsBase {o : Exact.Base} (h : SpellsExactBase cs o) :
    SpellsBase cs o.saturate := by
  cases h with
  | any => exact .any
  | start hnum => exact .start hnum.isNumber
  | range hspan => exact .range hspan.isSpan

/-- A stride above zero stays above zero. -/
theorem one_le_ofNatClamp {n : Nat} (h : 1 ≤ n) : 1 ≤ UInt32.ofNatClamp n := by
  rw [UInt32.le_iff_toNat_le, toNat_ofNatClamp]
  exact Nat.le_min.mpr ⟨h, by decide⟩

/-- A text spells its exact pattern with the largest number in place of larger ones. -/
theorem SpellsExactly.spells {q : Exact} (h : SpellsExactly cs q) : Spells cs q.saturate := by
  cases h with
  | any => exact .any
  | single hnum => exact .single hnum.isNumber
  | list hlen hns =>
    exact .list hlen (List.forall₂_map_right_iff.mpr (hns.imp fun _ _ h => h.isNumber))
  | range hspan => exact .range hspan.isSpan
  | step hbase hstride hpos =>
    exact .step hbase.spellsBase hstride.isNumber (one_le_ofNatClamp hpos)

/-! ## Every text that is read has an exact pattern -/

theorem IsSpan.exists_exact {a z : UInt32} (h : IsSpan cs a z) :
    ∃ m n, IsExactSpan cs m n := by
  obtain ⟨x, y, ⟨m, hm, -⟩, ⟨n, hn, -⟩, hcs⟩ := h
  exact ⟨m, n, x, y, hm, hn, hcs⟩

theorem exists_exact_numbers {parts : List (List Char)} {vs : List UInt32}
    (h : List.Forall₂ IsNumber parts vs) : ∃ ns, List.Forall₂ IsNumeral parts ns := by
  induction h with
  | nil => exact ⟨[], .nil⟩
  | cons hv _ ih =>
    obtain ⟨n, hn, -⟩ := hv
    obtain ⟨ns, hns⟩ := ih
    exact ⟨n :: ns, .cons hn hns⟩

theorem SpellsBase.exists_exact {o : Base} (h : SpellsBase cs o) :
    ∃ q, SpellsExactBase cs q := by
  cases h with
  | any => exact ⟨_, .any⟩
  | start hnum =>
    obtain ⟨n, hn, -⟩ := hnum
    exact ⟨_, .start hn⟩
  | range hspan =>
    obtain ⟨m, n, hexact⟩ := hspan.exists_exact
    exact ⟨_, .range hexact⟩

theorem Spells.exists_exact {p : Pattern} (h : Spells cs p) : ∃ q, SpellsExactly cs q := by
  cases h with
  | any => exact ⟨_, .any⟩
  | single hnum =>
    obtain ⟨n, hn, -⟩ := hnum
    exact ⟨_, .single hn⟩
  | list hlen hvs =>
    obtain ⟨ns, hns⟩ := exists_exact_numbers hvs
    exact ⟨_, .list hlen hns⟩
  | range hspan =>
    obtain ⟨m, n, hexact⟩ := hspan.exists_exact
    exact ⟨_, .range hexact⟩
  | step hbase hstride hpos =>
    obtain ⟨o, ho⟩ := hbase.exists_exact
    obtain ⟨n, hn, hv⟩ := hstride
    refine ⟨_, .step ho hn ?_⟩
    -- a stride of zero would have been read as zero
    have hle := UInt32.le_iff_toNat_le.mp hpos
    rw [hv, UInt32.toNat_one] at hle
    exact (Nat.le_min.mp hle).1

/-! ## No text has two exact patterns -/

theorem IsExactSpan.splitOn_eq {a z : Nat} (h : IsExactSpan cs a z) :
    ∃ x y, cs.splitOn '-' = [x, y] ∧ IsNumeral x a ∧ IsNumeral y z := by
  obtain ⟨x, y, hx, hy, hcs⟩ := h
  refine ⟨x, y, Text.splitOn_eq_pair_iff.mpr ⟨?_, ?_, hcs⟩, hx, hy⟩
  · exact hx.isNumber.not_mem (by decide)
  · exact hy.isNumber.not_mem (by decide)

theorem IsExactSpan.unique {a z a' z' : Nat} (h : IsExactSpan cs a z)
    (h' : IsExactSpan cs a' z') : a = a' ∧ z = z' := by
  obtain ⟨x, y, hsplit, hx, hy⟩ := h.splitOn_eq
  obtain ⟨x', y', hsplit', hx', hy'⟩ := h'.splitOn_eq
  obtain ⟨rfl, rfl⟩ : x = x' ∧ y = y' := by simpa using hsplit.symm.trans hsplit'
  exact ⟨hx.unique hx', hy.unique hy'⟩

/-- Two bases of one form are one. -/
theorem SpellsExactBase.unique {o o' : Exact.Base} (h : SpellsExactBase cs o)
    (h' : SpellsExactBase cs o') (hform : o.saturate = o'.saturate) : o = o' := by
  cases h with
  | any =>
    cases o' with
    | any => rfl
    | _ => cases hform
  | start hnum =>
    cases h' with
    | start hnum' => rw [hnum.unique hnum']
    | _ => cases hform
  | range hspan =>
    cases h' with
    | range hspan' =>
      obtain ⟨rfl, rfl⟩ := hspan.unique hspan'
      rfl
    | _ => cases hform

theorem SpellsExactly.splitOn_of_list {ns : List Nat} (h : SpellsExactly cs (.list ns)) :
    List.Forall₂ IsNumeral (cs.splitOn ',') ns := by
  generalize hq : Exact.list ns = q at h
  cases h with
  | @list parts ms hlen hms =>
    obtain rfl := Exact.list.inj hq
    have hne : parts ≠ [] := by
      rintro rfl
      simp at hlen
    have hvs : List.Forall₂ IsNumber parts (ns.map UInt32.ofNatClamp) :=
      List.forall₂_map_right_iff.mpr (hms.imp fun _ _ h => h.isNumber)
    rwa [List.splitOn_intercalate ',' (not_mem_of_forall₂ hvs (by decide)) hne]
  | _ => cases hq

theorem SpellsExactly.splitOn_of_step {o : Exact.Base} {n : Nat}
    (h : SpellsExactly cs (.step o n)) : ∃ base stride, cs.splitOn '/' = [base, stride] ∧
      SpellsExactBase base o ∧ IsNumeral stride n := by
  generalize hq : Exact.step o n = q at h
  cases h with
  | @step base stride o' n' hbase hstride hpos =>
    obtain ⟨rfl, rfl⟩ := Exact.step.inj hq
    refine ⟨base, stride, Text.splitOn_eq_pair_iff.mpr ⟨?_, ?_, rfl⟩, hbase, hstride⟩
    · exact hbase.spellsBase.slash_not_mem
    · exact hstride.isNumber.not_mem (by decide)
  | _ => cases hq

/-- No text has two exact patterns: they have one form, and so they are cut at one mark. -/
theorem SpellsExactly.unique {q q' : Exact} (h : SpellsExactly cs q)
    (h' : SpellsExactly cs q') : q = q' := by
  have hform : q.saturate = q'.saturate := h.spells.unique h'.spells
  cases q with
  | any =>
    cases q' with
    | any => rfl
    | _ => cases hform
  | single n =>
    cases q' with
    | single m =>
      cases h with
      | single hn =>
        cases h' with
        | single hm => rw [hn.unique hm]
    | _ => cases hform
  | list ns =>
    cases q' with
    | list ms =>
      have hunique : Relator.RightUnique IsNumeral := fun _ _ _ => IsNumeral.unique
      rw [List.right_unique_forall₂' hunique h.splitOn_of_list h'.splitOn_of_list]
    | _ => cases hform
  | range a z =>
    cases q' with
    | range a' z' =>
      cases h with
      | range hspan =>
        cases h' with
        | range hspan' =>
          obtain ⟨rfl, rfl⟩ := hspan.unique hspan'
          rfl
    | _ => cases hform
  | step o n =>
    cases q' with
    | step o' n' =>
      obtain ⟨base, stride, hsplit, hbase, hstride⟩ := h.splitOn_of_step
      obtain ⟨base', stride', hsplit', hbase', hstride'⟩ := h'.splitOn_of_step
      obtain ⟨rfl, rfl⟩ : base = base' ∧ stride = stride' := by
        simpa using hsplit.symm.trans hsplit'
      rw [hbase.unique hbase' (Pattern.step.inj hform).1, hstride.unique hstride']
    | _ => cases hform

/-! ## What a text means -/

/-- The exact pattern is what the text means. -/
structure MeansExactly (text : String) (q : Exact) : Prop where
  /-- It means nothing else. -/
  unique : ∀ q', SpellsExactly text.toList q' → q' = q
  /-- Below the largest number, those satisfy the text that belong to its meaning. -/
  textHolds_iff : ∀ v : UInt32, v.toNat < UInt32.size - 1 →
    (textHolds text v = true ↔ v.toNat ∈ q.denotes)
  /-- The text is read, and no number makes its pattern ask for a difference below zero or divide
  by zero. -/
  checked : ∃ p, read text = .ok p ∧ ∀ v, p.holds? v = some (p.holds v)

/-- **That large numerals are cut down is not seen in what a text holds of.**  The texts that are
read are those that have a meaning with numbers of any size, and they hold of the numbers that
belong to it, for all numbers but the largest one. -/
theorem textHolds_exactly (text : String) :
    ((∃ p, read text = .ok p) ↔ ∃ q, SpellsExactly text.toList q) ∧
      ∀ q, SpellsExactly text.toList q → MeansExactly text q := by
  refine ⟨⟨?_, ?_⟩, fun q hq => ⟨fun q' hq' => hq'.unique hq, ?_, ?_⟩⟩
  · rintro ⟨p, hp⟩
    exact (readChars_none_eq_ok_iff.mp hp).exists_exact
  · rintro ⟨q, hq⟩
    exact ⟨q.saturate, readChars_none_eq_ok_iff.mpr hq.spells⟩
  · intro v hv
    rw [hq.spells.textHolds_eq, holds_iff_mem_denotes hq.spells.proper,
      mem_denotes_saturate_iff q hv]
  · exact ⟨q.saturate, readChars_none_eq_ok_iff.mpr hq.spells, holds?_eq_some hq.spells.proper⟩

/-- For the largest number it is seen: it satisfies the numeral of the next one. -/
example : textHolds "4294967296" 4294967294 = false ∧ textHolds "4294967296" 4294967295 = true := by
  decide +kernel

end Cron.Pattern
