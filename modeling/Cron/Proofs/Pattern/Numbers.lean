import Cron.Proofs.Pattern.Reading

/-! # Numbers of a pattern

A pattern that was read within bounds holds of a number within them: of the first one it names,
or of any if it is the star.  Only `*/n` names none of the numbers it holds of.  It holds of the
multiples of n, and so a multiple within the bounds has to be given (`Spells.exists_holds`); the
zero is one wherever it is within them (`exists_holds_of_read`).
-/
namespace Cron

variable {cs : List Char} {b : Bounds}

namespace Pattern

theorem isMultiple_iff {d n : UInt32} :
    isMultiple d n = true ↔ 1 ≤ n ∧ n.toNat ∣ d.toNat := by
  rw [isMultiple, Bool.and_eq_true, bne_iff_ne, beq_iff_eq, ← UInt32.toNat_inj, UInt32.toNat_mod,
    ne_eq, ← UInt32.toNat_inj, UInt32.le_iff_toNat_le, Nat.dvd_iff_mod_eq_zero]
  exact and_congr_left fun _ => Nat.pos_iff_ne_zero.symm

theorem isMultiple_zero {n : UInt32} (h : 1 ≤ n) : isMultiple 0 n = true :=
  isMultiple_iff.mpr ⟨h, Nat.dvd_zero _⟩

theorem isMultiple_self {n : UInt32} (h : 1 ≤ n) : isMultiple n n = true :=
  isMultiple_iff.mpr ⟨h, Nat.dvd_refl _⟩

/-- A number above zero is no multiple of a greater one. -/
theorem isMultiple_of_lt {d n : UInt32} (hpos : 1 ≤ d) (h : d < n) : isMultiple d n = false := by
  refine eq_false_of_ne_true fun hmultiple => ?_
  have hle := Nat.le_of_dvd hpos (isMultiple_iff.mp hmultiple).2
  exact absurd h (UInt32.not_lt.mpr hle)

/-- A list has a number in it. -/
theorem Spells.exists_mem {vs : List UInt32} (h : Spells cs (.list vs)) : ∃ v, v ∈ vs := by
  cases h with
  | list hlen hvs =>
    refine List.exists_mem_of_length_pos ?_
    rw [← hvs.length_eq]
    omega

/-- A pattern that fits the bounds holds of a number within them, if the one that is given
serves where the pattern is `*/n`. -/
theorem Spells.exists_holds {p : Pattern} {v : UInt32} (h : Spells cs p) (hfits : p.Fits b)
    (hv : b.contains v = true) (hany : ∀ n, p = .step .any n → isMultiple v n = true) :
    ∃ u, b.contains u = true ∧ p.holds u = true := by
  cases h with
  | any => exact ⟨v, hv, rfl⟩
  | single hnum => exact ⟨_, hfits, by simp [holds]⟩
  | list hlen hvs =>
    obtain ⟨u, hu⟩ := (Spells.list hlen hvs).exists_mem
    exact ⟨u, hfits u hu, by simpa [holds] using hu⟩
  | range hspan =>
    obtain ⟨hfirst, -, hlt⟩ := hfits
    exact ⟨_, hfirst, by simp [holds, UInt32.le_of_lt hlt]⟩
  | step hbase hstride hpos =>
    cases hbase with
    | any => exact ⟨v, hv, hany _ rfl⟩
    | start hnum => exact ⟨_, hfits, by simp [holds, isMultiple_zero hpos]⟩
    | range hspan =>
      obtain ⟨hfirst, -, hlt⟩ := hfits
      exact ⟨_, hfirst, by simp [holds, UInt32.le_of_lt hlt, isMultiple_zero hpos]⟩

/-- The stride of a pattern that was read is not zero. -/
theorem Spells.one_le_stride {o : Base} {n : UInt32} (h : Spells cs (.step o n)) : 1 ≤ n := by
  cases h with
  | step _ _ hpos => exact hpos

end Pattern

/-- Where a field may hold a zero, no text that it accepts is without numbers. -/
theorem Field.exists_holds_of_read {f : Field} {text : String} {p : Pattern}
    (h : f.read text = .ok p) (hzero : f.bounds.contains 0 = true) :
    ∃ v, f.bounds.contains v = true ∧ p.holds v = true := by
  obtain ⟨hspells, hfits⟩ := Pattern.readChars_eq_ok_iff.mp h
  refine hspells.exists_holds (hfits _ rfl) hzero ?_
  rintro n rfl
  exact Pattern.isMultiple_zero hspells.one_le_stride

end Cron
