import Cron.Proofs.Pattern.Numbers
import Mathlib.Data.Set.Defs

/-! # Patterns with numbers of any size

A numeral denotes a natural number of any size, and a pattern has room for 32 bits: a number that is
too large is replaced by the largest one.  An `Exact` pattern has the numbers as they were written,
and `Exact.denotes` is the set that they stand for by the form of the text.

A pattern decides about a number with a difference and a remainder of 32 bits.  That is the same as
to belong to the set of its numbers (`holds_iff_mem_denotes`), and no difference below zero and no
remainder of a division by zero is asked for on the way (`holds?_eq_some`).  The set in its turn is
that of the numbers as they were written, up to the largest number but one
(`mem_denotes_saturate_iff`): a first number that is too large leaves nothing below it, a last one
leaves out nothing, and a stride reaches no further than to where it was counted from.
-/
namespace Cron.Pattern

/-- Where an exact step pattern begins, and how far it goes. -/
inductive Exact.Base where
  | any
  | start (first : Nat)
  | range (first last : Nat)

/-- What the text of one field says, with the numbers that its numerals denote. -/
inductive Exact where
  | any
  | single (value : Nat)
  | list (values : List Nat)
  | range (first last : Nat)
  | step (base : Exact.Base) (stride : Nat)

/-- The numbers that a text stands for. -/
def Exact.denotes : Exact → Set Nat
  | any => Set.univ
  | single n => {v | v = n}
  | list ns => {v | v ∈ ns}
  | range a z => {v | a ≤ v ∧ v ≤ z}
  | step .any n => {v | n ∣ v}
  | step (.start a) n => {v | ∃ k, v = a + k * n}
  | step (.range a z) n => {v | ∃ k, v = a + k * n ∧ a + k * n ≤ z}

/-- The base with the numbers that it holds. -/
def Base.toExact : Base → Exact.Base
  | any => .any
  | start a => .start a.toNat
  | range a z => .range a.toNat z.toNat

/-- The pattern with the numbers that it holds. -/
def toExact : Pattern → Exact
  | any => .any
  | single v => .single v.toNat
  | list vs => .list (vs.map UInt32.toNat)
  | range a z => .range a.toNat z.toNat
  | step o n => .step o.toExact n.toNat

/-- The base with the largest number in place of all that are larger. -/
def Exact.Base.saturate : Exact.Base → Pattern.Base
  | any => .any
  | start a => .start (UInt32.ofNatClamp a)
  | range a z => .range (UInt32.ofNatClamp a) (UInt32.ofNatClamp z)

/-- The pattern with the largest number in place of all that are larger. -/
def Exact.saturate : Exact → Pattern
  | any => .any
  | single n => .single (UInt32.ofNatClamp n)
  | list ns => .list (ns.map UInt32.ofNatClamp)
  | range a z => .range (UInt32.ofNatClamp a) (UInt32.ofNatClamp z)
  | step o n => .step o.saturate (UInt32.ofNatClamp n)

/-- A list has a number in it, and a stride is above zero. -/
def Proper : Pattern → Prop
  | list vs => vs ≠ []
  | step _ n => 1 ≤ n
  | _ => True

theorem Spells.proper {cs : List Char} {p : Pattern} (h : Spells cs p) : p.Proper := by
  cases p with
  | list vs =>
    obtain ⟨v, hv⟩ := h.exists_mem
    exact List.ne_nil_of_mem hv
  | step o n => exact h.one_le_stride
  | _ => trivial

/-! ## Membership -/

section Denotes

variable {v a z n : Nat} {ns : List Nat}

theorem exists_eq_add_mul_iff : (∃ k, v = a + k * n) ↔ a ≤ v ∧ n ∣ v - a := by
  constructor
  · rintro ⟨k, rfl⟩
    rw [Nat.add_sub_cancel_left]
    exact ⟨Nat.le_add_right a _, Nat.dvd_mul_left n k⟩
  · rintro ⟨hle, k, hk⟩
    rw [Nat.mul_comm] at hk
    exact ⟨k, by omega⟩

@[simp] theorem mem_denotes_any : v ∈ Exact.any.denotes := trivial

@[simp] theorem mem_denotes_single : v ∈ (Exact.single n).denotes ↔ v = n := Iff.rfl

@[simp] theorem mem_denotes_list : v ∈ (Exact.list ns).denotes ↔ v ∈ ns := Iff.rfl

@[simp] theorem mem_denotes_range : v ∈ (Exact.range a z).denotes ↔ a ≤ v ∧ v ≤ z := Iff.rfl

@[simp] theorem mem_denotes_stepAny : v ∈ (Exact.step .any n).denotes ↔ n ∣ v := Iff.rfl

@[simp] theorem mem_denotes_stepStart :
    v ∈ (Exact.step (.start a) n).denotes ↔ a ≤ v ∧ n ∣ v - a :=
  exists_eq_add_mul_iff

@[simp] theorem mem_denotes_stepRange :
    v ∈ (Exact.step (.range a z) n).denotes ↔ (a ≤ v ∧ v ≤ z) ∧ n ∣ v - a := by
  rw [and_right_comm, ← exists_eq_add_mul_iff]
  constructor
  · rintro ⟨k, rfl, hle⟩
    exact ⟨⟨k, rfl⟩, hle⟩
  · rintro ⟨⟨k, rfl⟩, hle⟩
    exact ⟨k, rfl, hle⟩

end Denotes

/-! ## Arithmetic on 32 bits -/

/-- From its first number on, a step asks for the distance to be a multiple of the stride. -/
theorem isMultiple_sub_iff {v a n : UInt32} (hn : 1 ≤ n) (ha : a ≤ v) :
    isMultiple (v - a) n = true ↔ n.toNat ∣ v.toNat - a.toNat := by
  rw [isMultiple_iff, UInt32.toNat_sub_of_le _ _ ha, and_iff_right hn]

/-- A pattern holds of the numbers that it denotes. -/
theorem holds_iff_mem_denotes {p : Pattern} (h : p.Proper) {v : UInt32} :
    p.holds v = true ↔ v.toNat ∈ p.toExact.denotes := by
  cases p with
  | any => simp [holds, toExact]
  | single a => simp [holds, toExact, UInt32.toNat_inj]
  | list vs => simp [holds, toExact, UInt32.toNat_inj]
  | range a z => simp [holds, toExact, UInt32.le_iff_toNat_le]
  | step o n =>
    have hn : 1 ≤ n := h
    cases o with
    | any => simp [holds, toExact, Base.toExact, isMultiple_iff, hn]
    | start a =>
      simp only [holds, toExact, Base.toExact, mem_denotes_stepStart, Bool.and_eq_true,
        decide_eq_true_eq, ← UInt32.le_iff_toNat_le]
      exact and_congr_right (isMultiple_sub_iff hn)
    | range a z =>
      simp only [holds, toExact, Base.toExact, mem_denotes_stepRange, Bool.and_eq_true,
        decide_eq_true_eq, ← UInt32.le_iff_toNat_le]
      exact and_congr_right fun hbetween => isMultiple_sub_iff hn hbetween.1

/-- The difference of two numbers, unless it lies below zero. -/
def difference? (v a : UInt32) : Option UInt32 := if a ≤ v then some (v - a) else none

/-- The remainder of a division, unless it is one by zero. -/
def remainder? (d n : UInt32) : Option UInt32 := if n = 0 then none else some (d % n)

/-- Whether `n` divides `d`, unless that asks for a division by zero. -/
def isMultiple? (d n : UInt32) : Option Bool := do
  let r ← remainder? d n
  return r == 0

/-- Whether a number belongs to the set that the pattern stands for, as `holds` finds it: from left
to right, and no further than is needed.  There is no answer where a difference or a remainder has
none. -/
def holds? : Pattern → UInt32 → Option Bool
  | step .any n, v => isMultiple? v n
  | step (.start a) n, v =>
    if a ≤ v then do
      let d ← difference? v a
      isMultiple? d n
    else some false
  | step (.range a z) n, v =>
    if a ≤ v ∧ v ≤ z then do
      let d ← difference? v a
      isMultiple? d n
    else some false
  | p, v => some (p.holds v)

theorem difference?_eq_some {v a : UInt32} (h : a ≤ v) : difference? v a = some (v - a) :=
  if_pos h

theorem isMultiple?_eq_some {n : UInt32} (hn : 1 ≤ n) (d : UInt32) :
    isMultiple? d n = some (isMultiple d n) := by
  have hne : n ≠ 0 := by
    rintro rfl
    exact absurd hn (by decide)
  simp [isMultiple?, remainder?, isMultiple, hne]

/-- The answer never fails, and it is that of `holds`. -/
theorem holds?_eq_some {p : Pattern} (h : p.Proper) (v : UInt32) :
    p.holds? v = some (p.holds v) := by
  cases p with
  | step o n =>
    have hn : 1 ≤ n := h
    cases o with
    | any => exact isMultiple?_eq_some hn v
    | start a =>
      by_cases ha : a ≤ v
      · simp [holds?, holds, ha, difference?_eq_some, isMultiple?_eq_some hn]
      · simp [holds?, holds, ha]
    | range a z =>
      by_cases hbetween : a ≤ v ∧ v ≤ z
      · simp [holds?, holds, hbetween, difference?_eq_some, isMultiple?_eq_some hn]
      · simp [holds?, holds, hbetween]
  | _ => rfl

/-! ## Numbers without room -/

theorem toNat_ofNatClamp (n : Nat) : (UInt32.ofNatClamp n).toNat = min n (UInt32.size - 1) :=
  ofNatClamp_eq_iff.mp rfl

/-- A stride without room divides zero only, and so does the largest number among the lower ones. -/
theorem min_dvd_iff {d n largest : Nat} (h : d < largest) : min n largest ∣ d ↔ n ∣ d := by
  by_cases hn : n ≤ largest
  · rw [Nat.min_eq_left hn]
  · rw [Nat.min_eq_right (by omega)]
    constructor
    · intro hd
      rw [Nat.eq_zero_of_dvd_of_lt hd h]
      exact Nat.dvd_zero n
    · intro hd
      rw [Nat.eq_zero_of_dvd_of_lt hd (by omega)]
      exact Nat.dvd_zero largest

/-- A first number without room leaves nothing below the largest number. -/
theorem min_le_and_dvd_iff {v a n largest : Nat} (h : v < largest) :
    (min a largest ≤ v ∧ min n largest ∣ v - min a largest) ↔ a ≤ v ∧ n ∣ v - a := by
  by_cases ha : a ≤ v
  · rw [Nat.min_eq_left (by omega), min_dvd_iff (by omega)]
  · constructor
    · rintro ⟨hle, -⟩
      omega
    · rintro ⟨hle, -⟩
      omega

/-- Below the largest number the numbers without room are not missed. -/
theorem mem_denotes_saturate_iff (q : Exact) {v : Nat} (h : v < UInt32.size - 1) :
    v ∈ q.saturate.toExact.denotes ↔ v ∈ q.denotes := by
  cases q with
  | any => rfl
  | single n =>
    simp only [Exact.saturate, toExact, mem_denotes_single, toNat_ofNatClamp]
    omega
  | list ns =>
    simp only [Exact.saturate, toExact, mem_denotes_list, List.map_map, List.mem_map,
      Function.comp_apply, toNat_ofNatClamp]
    constructor
    · rintro ⟨n, hn, hv⟩
      obtain rfl : n = v := by omega
      exact hn
    · intro hv
      exact ⟨v, hv, Nat.min_eq_left (by omega)⟩
  | range a z =>
    simp only [Exact.saturate, toExact, mem_denotes_range, toNat_ofNatClamp]
    omega
  | step o n =>
    cases o with
    | any =>
      simp only [Exact.saturate, Exact.Base.saturate, toExact, Base.toExact, mem_denotes_stepAny,
        toNat_ofNatClamp]
      exact min_dvd_iff h
    | start a =>
      simp only [Exact.saturate, Exact.Base.saturate, toExact, Base.toExact,
        mem_denotes_stepStart, toNat_ofNatClamp]
      exact min_le_and_dvd_iff h
    | range a z =>
      simp only [Exact.saturate, Exact.Base.saturate, toExact, Base.toExact,
        mem_denotes_stepRange, toNat_ofNatClamp]
      rw [and_right_comm, min_le_and_dvd_iff h, and_right_comm]
      omega

end Cron.Pattern
