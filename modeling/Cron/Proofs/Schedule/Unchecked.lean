import Cron.Proofs.Calendar.Values
import Cron.Proofs.Pattern.Bounds
import Cron.Proofs.Schedule.Reading

/-! # Runs of expressions that were not checked

An expression decides about an instant by its raw texts, and knows no bounds then.  So it may run
although a field refuses its text, but not for every fault: a text that is no pattern holds of
nothing, and what the numbers of a pattern miss has to leave room for a number that instants have
(`Expression.runs_confined`).

The numbers of an instant are within the bounds of the fields, and what a range or a step holds of
lies between its ends.  So a first number that misses the bounds is below them, for which only the
fields that begin with 1 have room; and ends that do not ascend are equal.
-/
namespace Cron

open Calendar (Instant)

/-- The numbers of an instant are within the bounds of the fields. -/
theorem Calendar.Instant.bounds_contains_value (t : Instant) (f : Field) :
    f.bounds.contains (t.value f) = true :=
  Field.contains_bounds_iff.mpr (Or.inl (t.supply_contains_value f))

/-- What a pattern holds of lies between its ends. -/
theorem Pattern.between_of_holds {p : Pattern} {v : UInt32} (h : p.holds v = true) :
    (∀ a ∈ p.first?, a ≤ v) ∧ ∀ z ∈ p.last?, v ≤ z := by
  unfold holds at h
  split at h <;> simp_all [first?, last?]

/-- The faults of patterns that may hold of a number of the field nevertheless. -/
inductive Field.Bears (f : Field) : Pattern → Pattern.Fault → Prop
  | list {vs : List UInt32} : Bears f (.list vs) (.list f.bounds)
  | stop {p : Pattern} : Bears f p (.stop f.bounds)
  | start {p : Pattern} : f = .dayOfMonth ∨ f = .month → p.first? = some 0 →
      Bears f p (.start f.bounds)
  | order {p : Pattern} {a : UInt32} : p.first? = some a → p.last? = some a → Bears f p .order

variable {f : Field} {text : String} {p : Pattern} {v : UInt32}

/-- A first number below the bounds is the zero of a field that begins with 1. -/
theorem Field.eq_zero_of_le {a : UInt32} (hv : f.bounds.contains v = true) (hle : a ≤ v)
    (ha : f.bounds.contains a = false) : (f = .dayOfMonth ∨ f = .month) ∧ a = 0 := by
  obtain ⟨-, hge⟩ := Bounds.contains_iff.mp hv
  have hlt : ¬ (f.bounds.least.toNat ≤ a.toNat ∧ a.toNat ≤ f.bounds.greatest.toNat) := by
    rw [← Bounds.contains_iff, ha]
    decide
  rw [UInt32.le_iff_toNat_le] at hle
  rw [← UInt32.toNat_inj]
  cases f <;> simp [bounds] at hge hlt ⊢ <;> omega

/-- A pattern that holds of a number within the bounds is refused for nothing but what the field
bears. -/
theorem Field.bears_of_hold {fault : Pattern.Fault} (hv : f.bounds.contains v = true)
    (hp : p.holds v = true) (h : p.hold f.bounds = .error fault) : f.Bears p fault := by
  obtain ⟨hfirst, hlast⟩ := Pattern.between_of_holds hp
  cases Pattern.misfit_of_hold h with
  | number hout =>
    obtain rfl : v = _ := beq_iff_eq.mp hp
    exact absurd (hv.symm.trans hout) (by decide)
  | list => exact .list
  | start ha hout =>
    obtain ⟨hf, rfl⟩ := Field.eq_zero_of_le hv (hfirst _ ha) hout
    exact .start hf ha
  | stop => exact .stop
  | order ha hz hle =>
    obtain rfl := UInt32.le_antisymm hle (UInt32.le_trans (hfirst _ ha) (hlast _ hz))
    exact .order ha hz

/-- A raw text that holds of a number within the bounds is read by its syntax, its ends ascend,
and it is refused for nothing but what the field bears. -/
theorem Field.bears_of_textHolds (hv : f.bounds.contains v = true)
    (h : f.textHolds text v = true) : ∃ p, Pattern.read text = .ok p ∧
      (∀ a ∈ p.first?, ∀ z ∈ p.last?, a ≤ z) ∧
      ∀ fault, f.read text = .error fault → f.Bears p fault := by
  simp only [textHolds, Bool.or_eq_true, Bool.and_eq_true, beq_iff_eq] at h
  rcases h with h | ⟨⟨rfl, -⟩, rfl⟩
  · obtain ⟨p, hread, hp⟩ := Pattern.textHolds_iff.mp h
    obtain ⟨hfirst, hlast⟩ := Pattern.between_of_holds hp
    refine ⟨p, hread, fun a ha z hz => UInt32.le_trans (hfirst a ha) (hlast z hz), ?_⟩
    intro fault hfault
    rw [f.read_eq_heldTo, hread] at hfault
    exact bears_of_hold hv hp hfault
  · -- the text of the Sundays, which its field takes
    refine ⟨_, Pattern.readChars_none_of_readChars Field.read_seven, by simp [Pattern.first?],
      fun fault hfault => ?_⟩
    cases Field.read_seven.symm.trans hfault

/-- **What an expression that was not checked can run with.**  Where it runs, each of its texts is
read by its syntax, and a field that refuses its text does so for a list, for the end of a range,
for a first number that is zero in a field that begins with 1, or for equal ends.  So it never runs
with a fault of the syntax, with a single number that misses the bounds, or with ends that
descend. -/
theorem Expression.runs_confined (e : Expression) :
    (∀ t, e.runsAt t = true → ∀ f : Field, ∃ p, Pattern.read (e.get f) = .ok p ∧
      ∀ fault, f.read (e.get f) = .error fault → f.Bears p fault) ∧
    ∀ f : Field, (∃ fault ∈ .number f.bounds :: Pattern.syntaxFaults,
        f.read (e.get f) = .error fault) ∨
      (∃ p a z, Pattern.read (e.get f) = .ok p ∧ p.first? = some a ∧ p.last? = some z ∧ z < a) →
      ∀ t, e.runsAt t = false := by
  have hbears : ∀ t, e.runsAt t = true → ∀ f : Field, ∃ p, Pattern.read (e.get f) = .ok p ∧
      (∀ a ∈ p.first?, ∀ z ∈ p.last?, a ≤ z) ∧
      ∀ fault, f.read (e.get f) = .error fault → f.Bears p fault := by
    intro t ht f
    have hholds := List.all_eq_true.mp ht f (Field.mem_all f)
    exact Field.bears_of_textHolds (t.bounds_contains_value f) hholds
  refine ⟨fun t ht f => ?_, fun f hf t => eq_false_of_ne_true fun ht => ?_⟩
  · obtain ⟨p, hread, -, hfault⟩ := hbears t ht f
    exact ⟨p, hread, hfault⟩
  · obtain ⟨p, hread, hascend, hfault⟩ := hbears t ht f
    rcases hf with ⟨fault, hmem, herror⟩ | ⟨q, a, z, hq, ha, hz, hlt⟩
    · cases hfault fault herror <;> simp [Pattern.syntaxFaults] at hmem
    · obtain rfl := Except.ok.inj (hread.symm.trans hq)
      exact absurd (hascend a ha z hz) (UInt32.not_le.mpr hlt)

/-- All that fields bear at once: equal ends, a list, a first number zero, and an end that no month
has; and what none bears, ends that descend. -/
theorem Expression.runs_confined_february :
    let e : Expression := ⟨"5-5", "3,99", "0/2", "1-4294967295", "*"⟩
    e.runsAt ⟨⟨2026, 2, 28, by decide⟩, 3, 5, 0, 0, by decide⟩ = true ∧
      Field.read .dayOfMonth "0/2" = .error (.start ⟨1, 31⟩) ∧
      Field.Bears .dayOfMonth (.step (.start 0) 2) (.start ⟨1, 31⟩) ∧
      ∀ t, Expression.runsAt ⟨"9-5", "*", "*", "*", "*"⟩ t = false := by
  intro e
  have hrun : e.runsAt ⟨⟨2026, 2, 28, by decide⟩, 3, 5, 0, 0, by decide⟩ = true := by
    decide +kernel
  have hread : Pattern.read "0/2" = .ok (.step (.start 0) 2) := by decide +kernel
  have hrefused : Field.read .dayOfMonth "0/2" = .error (.start ⟨1, 31⟩) := by decide +kernel
  have hdescend : Pattern.read "9-5" = .ok (.range 9 5) := by decide +kernel
  obtain ⟨p, hp, hbears⟩ := (Expression.runs_confined e).1 _ hrun .dayOfMonth
  obtain rfl := Except.ok.inj (hread.symm.trans hp)
  exact ⟨hrun, hrefused, hbears _ hrefused, (Expression.runs_confined _).2 .minute
    (Or.inr ⟨_, 9, 5, hdescend, rfl, rfl, by decide⟩)⟩

end Cron
