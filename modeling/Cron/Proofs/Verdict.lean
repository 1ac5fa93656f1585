import Cron.Description
import Cron.Proofs.Expression.Line
import Cron.Proofs.Preview.NextRuns

/-! # One verdict

A line can be checked, compiled, described and previewed, and each of these ways looks for
faults by itself: the check collects them all, compiling stops at the first, a description has
one text for any fault, and a preview is empty then.  They agree on every line (`Agreement`).

Two things carry this.  The messages of the check are those of the faults in the order of the
fields, so the one that compiling meets first comes first (`Expression.head?_errors`).  And no
description of a line without faults is the text for a fault, for they begin with other
letters (`Description.ofExpression_ne_ofFaulty`).
-/
namespace Cron

/-! ## Faults of an expression -/

namespace Expression

/-- The fields whose texts cannot be read, each with the cause, in the order of the fields. -/
def faults (e : Expression) : List (Field × Pattern.Fault) :=
  Field.all.filterMap fun f =>
    match f.read (e.get f) with
    | .ok _ => none
    | .error cause => some (f, cause)

variable {e : Expression}

theorem mem_faults_iff {f : Field} {cause : Pattern.Fault} :
    (f, cause) ∈ e.faults ↔ f.read (e.get f) = .error cause := by
  rw [faults, List.mem_filterMap]
  constructor
  · rintro ⟨g, _, hg⟩
    split at hg
    · cases hg
    · rename_i c hc
      cases hg
      exact hc
  · intro h
    exact ⟨f, Field.mem_all f, by rw [h]⟩

/-- No field is named twice, and the order is that of the fields. -/
theorem map_fst_faults_sublist (e : Expression) :
    (e.faults.map Prod.fst).Sublist Field.all := by
  have hmap : e.faults.map Prod.fst = Field.all.filter fun f => (e.fieldError? f).isSome := by
    rw [faults, List.map_filterMap, ← List.filterMap_eq_filter]
    refine List.filterMap_congr fun f _ => ?_
    cases hr : f.read (e.get f) <;> simp [Option.guard, fieldError?, hr]
  rw [hmap]
  exact List.filter_sublist

/-- The check of an expression tells its faults, one message for each. -/
theorem verdict_errors (e : Expression) :
    e.verdict.errors = e.faults.map (fun p => p.1.title ++ ": " ++ p.2.message) := by
  rw [faults, List.map_filterMap]
  refine List.filterMap_congr fun f _ => ?_
  unfold fieldError?
  cases f.read (e.get f) <;> rfl

/-- The fault at which compiling stops is the first one that the check tells. -/
theorem head?_errors {fault : Fault} (h : Schedule.ofExpression e = .error fault) :
    e.verdict.errors.head? = some fault.message := by
  obtain ⟨before, f, after, cause, hall, hread, hf, rfl⟩ := Schedule.exists_first_fault h
  have hbefore : before.filterMap e.fieldError? = [] :=
    List.filterMap_eq_nil_iff.mpr fun g hg => fieldError?_eq_none_iff.mpr (hread g hg)
  have hmessage : e.fieldError? f = some (Fault.message (.field f cause)) := by
    rw [fieldError?, hf]
    rfl
  rw [verdict, hall]
  simp [Verdict.ofErrors, hbefore, hmessage]

end Expression

/-! ## Descriptions -/

namespace Description

/-- The description of an expression begins with the word for its minute. -/
theorem head?_ofExpression (e : Expression) :
    (ofExpression e).toList.head? = some 'E' ∨ (ofExpression e).toList.head? = some 'A' := by
  unfold ofExpression
  split
  · exact Or.inl (by decide)
  split
  · split
    · exact Or.inl (by simp [String.toList_append])
    · exact Or.inl (by simp [String.toList_append])
  · exact Or.inr (by simp [String.toList_append])

/-- No expression is described as a line with a fault is. -/
theorem ofExpression_ne_ofFaulty (e : Expression) : ofExpression e ≠ ofFaulty := by
  intro he
  have hhead := head?_ofExpression e
  rw [he] at hhead
  revert hhead
  decide

/-- No preset is described as a line with a fault is. -/
theorem presets_ne_ofFaulty : ∀ p ∈ Preset.all, p.description ≠ ofFaulty := by decide

/-- A line has a description of its own exactly if nothing is wrong with it. -/
theorem ofLine_ne_ofFaulty_iff {line : String} :
    ofLine line ≠ ofFaulty ↔ (Verdict.ofLine line).valid = true := by
  unfold ofLine Verdict.ofLine
  cases Expression.ofLine line with
  | error fault => simp
  | ok e =>
    by_cases hvalid : e.verdict.valid = true
    · simp only [hvalid, iff_true]
      cases hp : Preset.find? line with
      | none => exact ofExpression_ne_ofFaulty e
      | some p => exact presets_ne_ofFaulty p (List.mem_of_find?_eq_some hp)
    · simp [hvalid]

end Description

/-! ## Agreement -/

/-- What the ways to ask about a line have to say of it. -/
structure Agreement (line : String) : Prop where
  /-- The line compiles exactly if the check finds it valid. -/
  valid_iff_compiles : (Verdict.ofLine line).valid = true ↔ ∃ s, Schedule.ofLine line = .ok s
  /-- It is told from a line with a fault exactly then. -/
  valid_iff_described :
    (Verdict.ofLine line).valid = true ↔ Description.ofLine line ≠ "Invalid cron expression"
  /-- Otherwise it has no runs, whatever the limits, the start and the count. -/
  no_runs : (Verdict.ofLine line).valid = false → ∀ (limits : Preview.Limits) start count,
    Preview.runsAfter limits.horizon line start count = []
  /-- The fault that compiling meets has the first of the messages. -/
  first_error : ∀ fault, Schedule.ofLine line = .error fault →
    (Verdict.ofLine line).errors.head? = some fault.message
  /-- Where there are five words, the messages are those of the fields whose words cannot be
  read, one for each and in the order of the fields. -/
  errors_of_five_words : (Text.words line.toList).length = 5 →
    ∃ texts : Field → String,
      Field.all.map (fun f => (texts f).toList) = Text.words line.toList ∧
      ∃ faults : List (Field × Pattern.Fault),
        (∀ f cause, (f, cause) ∈ faults ↔ f.read (texts f) = .error cause) ∧
        (faults.map Prod.fst).Sublist Field.all ∧
        (Verdict.ofLine line).errors = faults.map (fun p => p.1.title ++ ": " ++ p.2.message)
  /-- Where there are not, one message says so. -/
  errors_of_other_words : (Text.words line.toList).length ≠ 5 →
    (Verdict.ofLine line).errors = ["Invalid cron expression: must have exactly 5 fields"]

/-- **All ways to ask about a line give one verdict.** -/
theorem agreement (line : String) : Agreement line where
  valid_iff_compiles := Verdict.ofLine_valid_iff
  valid_iff_described := Description.ofLine_ne_ofFaulty_iff.symm
  no_runs := by
    intro hinvalid limits start count
    exact Preview.runsAfter_eq_nil_of_not_valid hinvalid limits.horizon start count
  first_error := by
    intro fault h
    unfold Verdict.ofLine
    rcases Outcome.bind_eq_error_iff.mp h with he | ⟨e, he, hse⟩
    · rw [he]
      rfl
    · rw [he]
      exact Expression.head?_errors hse
  errors_of_five_words := by
    intro hfive
    obtain ⟨e, he, hwords⟩ := Expression.ofLine_of_five_words hfive
    refine ⟨e.get, hwords, e.faults, fun f cause => Expression.mem_faults_iff,
      e.map_fst_faults_sublist, ?_⟩
    rw [Verdict.ofLine, he]
    exact e.verdict_errors
  errors_of_other_words := by
    intro hother
    rw [Verdict.ofLine, Expression.ofLine_of_other_words hother]
    rfl

end Cron
