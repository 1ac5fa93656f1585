import Cron.CommandLine.Arguments
import Cron.Proofs.Pattern.Reading

/-! # The option for JSON

Arguments that make sense without `--json` ask for the same with it, but for JSON: the option
may be put in front of them all (`Request.ofArguments_json_cons`) and behind the name of the
command (`Request.ofArguments_json_behind`).

What has been found so far carries a flag for the option.  No step looks at the flag but the
one that meets the option itself, and none takes it back; so all steps are the same with the
flag, as long as the option is not met again.
-/
namespace Cron.CommandLine

/-- What has been found, and `--json` besides. -/
def Found.asJson (found : Found) : Found := { found with json := true }

variable {place : Place} {found found' : Found} {argument : String} {next? : Option String}
  {usesNext : Bool}

/-! ## Options -/

/-- The value of an option is taken without a look at `--json`. -/
theorem takeValue_asJson (attached? : Option String) :
    takeValue place found.asJson attached? next? =
      (takeValue place found attached? next?).map (fun p => (p.1.asJson, p.2)) := by
  simp only [takeValue]
  cases attached? <|> next?.filter (fun v => Shape.ofArgument v == .plain) with
  | none => rfl
  | some v =>
    by_cases hrepeated : found.value?.isSome = true
    · simp [Found.asJson, hrepeated, Except.map]
    by_cases hadmits : place.admits v = true
    · simp [Found.asJson, hrepeated, hadmits, Except.map]
    · simp [Found.asJson, hrepeated, hadmits, Except.map]

/-- What an argument adds does not depend on `--json`, unless the argument is that option. -/
theorem takeOption_asJson {taken? : Option (Found × Bool)}
    (h : takeOption place found argument next? = .ok taken?)
    (hjson : ∀ p ∈ taken?, p.1.json = false) :
    takeOption place found.asJson argument next? =
      .ok (taken?.map fun p => (p.1.asJson, p.2)) := by
  unfold takeOption at h ⊢
  split at h
  · cases h; rfl
  · cases h; rfl
  · cases h
  · split at h
    · cases h
    · cases h
      exact absurd (hjson _ rfl) (by simp)
  · split at h
    · rename_i hname
      obtain ⟨p, hp, rfl⟩ := Outcome.map_eq_ok_iff.mp h
      simp only [if_pos hname, takeValue_asJson, hp]
      rfl
    · cases h
  · split at h
    · cases h
    split at h
    · rename_i hh hname
      obtain ⟨p, hp, rfl⟩ := Outcome.map_eq_ok_iff.mp h
      simp only [if_neg hh, if_pos hname, takeValue_asJson, hp]
      rfl
    · cases h

theorem asJson_of_json (h : found.json = true) : found.asJson = found := by
  simp [Found.asJson, ← h]

/-- No argument takes `--json` back. -/
theorem json_of_takeOption {p : Found × Bool}
    (h : takeOption place found argument next? = .ok (some p)) (hjson : found.json = true) :
    p.1.json = true := by
  cases hp : p.1.json with
  | true => rfl
  | false =>
    have htaken := takeOption_asJson h fun q hq => Option.some.inj hq ▸ hp
    rw [asJson_of_json hjson, h] at htaken
    have hsame := Option.some.inj (Except.ok.inj htaken)
    exact hp.symm.trans (congrArg (fun q => q.1.json) hsame)

theorem json_of_takeOptions {args rest : List String}
    (h : takeOptions place found args = .ok (found', rest)) (hjson : found.json = true) :
    found'.json = true := by
  fun_induction takeOptions place found args with
  | case1 found =>
    cases h
    exact hjson
  | case2 found a args refusal hoption => cases h
  | case3 found a args hoption =>
    cases h
    exact hjson
  | case4 found a args next usesNext hoption ih =>
    simp only [dite_eq_ite] at ih
    exact ih h (json_of_takeOption hoption hjson)

/-- Options are taken with `--json` as they are without, unless it is among them. -/
theorem takeOptions_asJson {args rest : List String}
    (h : takeOptions place found args = .ok (found', rest)) (hjson : found'.json = false) :
    takeOptions place found.asJson args = .ok (found'.asJson, rest) := by
  fun_induction takeOptions place found args with
  | case1 found =>
    cases h
    rw [takeOptions]
  | case2 found a args refusal hoption => cases h
  | case3 found a args hoption =>
    cases h
    have htaken := takeOption_asJson hoption nofun
    rw [takeOptions, htaken]
    rfl
  | case4 found a args next usesNext hoption ih =>
    simp only [dite_eq_ite] at ih
    have hnext : next.json = false :=
      Bool.eq_false_iff.mpr (mt (json_of_takeOptions h) (Bool.eq_false_iff.mp hjson))
    have htaken := takeOption_asJson hoption fun q hq => Option.some.inj hq ▸ hnext
    rw [takeOptions, htaken]
    exact ih h

/-! ## Operands -/

/-- Operands are taken without a look at `--json`. -/
theorem takeOperand_asJson {operand : String} (h : takeOperand place found operand = .ok found') :
    takeOperand place found.asJson operand = .ok found'.asJson := by
  unfold takeOperand at h ⊢
  simp only [Found.asJson]
  split at h
  · rename_i fits hfits
    split at h
    · rename_i hfit
      cases h
      rw [if_pos hfit]
    · cases h
  · cases h

theorem json_of_takeOperand {operand : String} (h : takeOperand place found operand = .ok found') :
    found'.json = found.json := by
  unfold takeOperand at h
  split at h
  · split at h
    · cases h
      rfl
    · cases h
  · cases h

theorem foldlM_takeOperand_asJson {operands : List String}
    (h : operands.foldlM (takeOperand place) found = .ok found') :
    operands.foldlM (takeOperand place) found.asJson = .ok found'.asJson := by
  induction operands generalizing found with
  | nil =>
    cases h
    rfl
  | cons operand operands ih =>
    obtain ⟨next, hnext, h⟩ := Outcome.bind_eq_ok_iff.mp h
    exact Outcome.bind_eq_ok_iff.mpr ⟨next.asJson, takeOperand_asJson hnext, ih h⟩

theorem json_of_foldlM_takeOperand {operands : List String}
    (h : operands.foldlM (takeOperand place) found = .ok found') : found'.json = found.json := by
  induction operands generalizing found with
  | nil =>
    cases h
    rfl
  | cons operand operands ih =>
    obtain ⟨next, hnext, h⟩ := Outcome.bind_eq_ok_iff.mp h
    rw [ih h, json_of_takeOperand hnext]

theorem json_of_takeAll {args : List String} (h : takeAll place found args = .ok found')
    (hjson : found.json = true) : found'.json = true := by
  fun_induction takeAll place found args with
  | case1 found =>
    cases h
    exact hjson
  | case2 found a args refusal hoption => cases h
  | case3 found a args next usesNext hoption ih =>
    simp only [dite_eq_ite] at ih
    exact ih h (json_of_takeOption hoption hjson)
  | case4 found args hoption => exact (json_of_foldlM_takeOperand h).trans hjson
  | case5 found a args hoption hend refusal hoperand => cases h
  | case6 found a args hoption hend next hoperand ih =>
    exact ih h ((json_of_takeOperand hoperand).trans hjson)

/-- Options and operands are taken with `--json` as they are without, unless it is among them. -/
theorem takeAll_asJson {args : List String} (h : takeAll place found args = .ok found')
    (hjson : found'.json = false) : takeAll place found.asJson args = .ok found'.asJson := by
  fun_induction takeAll place found args with
  | case1 found =>
    cases h
    rw [takeAll]
  | case2 found a args refusal hoption => cases h
  | case3 found a args next usesNext hoption ih =>
    simp only [dite_eq_ite] at ih
    have hnext : next.json = false :=
      Bool.eq_false_iff.mpr (mt (json_of_takeAll h) (Bool.eq_false_iff.mp hjson))
    rw [takeAll, takeOption_asJson hoption fun q hq => Option.some.inj hq ▸ hnext]
    exact ih h
  | case4 found args hoption =>
    rw [takeAll, takeOption_asJson hoption nofun]
    exact foldlM_takeOperand_asJson h
  | case5 found a args hoption hend refusal hoperand => cases h
  | case6 found a args hoption hend next hoperand ih =>
    rw [takeAll, takeOption_asJson hoption nofun]
    simp only [Option.map_none, if_neg hend, takeOperand_asJson hoperand]
    exact ih h

/-! ## Requests -/

namespace Request

/-- The arguments ask for something exactly if there are options, the name of a command and what
may stand behind it. -/
theorem ofArguments_eq_ok_iff {args : List String} {request : Request} :
    ofArguments args = .ok request ↔
      ∃ before name rest place after command,
        takeOptions front {} args = .ok (before, name :: rest) ∧ name ≠ "help" ∧
        placeOf? name = some place ∧ takeAll place {} rest = .ok after ∧
        commandOf? name after = some command ∧ request =
          ⟨before.value?.getD Settings.defaultFile, before.json || after.json, command⟩ := by
  constructor
  · intro h
    obtain ⟨⟨before, rest⟩, hbefore, h⟩ := Outcome.bind_eq_ok_iff.mp h
    cases rest with
    | nil => cases h
    | cons name rest =>
      dsimp only at h
      by_cases hhelp : name = "help"
      · rw [if_pos hhelp] at h
        cases h
      rw [if_neg hhelp] at h
      cases hplace : placeOf? name with
      | none =>
        rw [hplace] at h
        cases h
      | some place =>
        rw [hplace] at h
        obtain ⟨after, hafter, h⟩ := Outcome.bind_eq_ok_iff.mp h
        cases hcommand : commandOf? name after with
        | none =>
          rw [hcommand] at h
          cases h
        | some command =>
          rw [hcommand] at h
          exact ⟨before, name, rest, place, after, command, hbefore, hhelp, hplace, hafter,
            hcommand, (Except.ok.inj h).symm⟩
  · rintro ⟨before, name, rest, place, after, command, hbefore, hhelp, hplace, hafter, hcommand,
      rfl⟩
    refine Outcome.bind_eq_ok_iff.mpr ⟨_, hbefore, ?_⟩
    simp only [if_neg hhelp, hplace]
    refine Outcome.bind_eq_ok_iff.mpr ⟨_, hafter, ?_⟩
    rw [hcommand]
    rfl

/-- **The option `--json` may be put in front of all arguments**, and the request is the same but
for it. -/
theorem ofArguments_json_cons {args : List String} {request : Request}
    (h : ofArguments args = .ok request) (hjson : request.json = false) :
    ofArguments ("--json" :: args) = .ok { request with json := true } := by
  obtain ⟨before, name, rest, place, after, command, hbefore, hhelp, hplace, hafter, hcommand,
    rfl⟩ := ofArguments_eq_ok_iff.mp h
  have hfront : takeOptions front {} ("--json" :: args) =
      takeOptions front (Found.asJson {}) args := by
    rw [takeOptions]
    rfl
  have hquiet : before.json = false := (Bool.or_eq_false_iff.mp hjson).1
  refine ofArguments_eq_ok_iff.mpr ⟨before.asJson, name, rest, place, after, command, ?_, hhelp,
    hplace, hafter, hcommand, rfl⟩
  exact hfront.trans (takeOptions_asJson hbefore hquiet)

/-- The name of a command is no option. -/
theorem takeOptions_name {name : String} (h : (placeOf? name).isSome) (args : List String) :
    takeOptions front {} (name :: args) = .ok ({}, name :: args) := by
  have hplain : takeOption front {} name args.head? = .ok none := by
    unfold placeOf? at h
    split at h
    case h_7 => cases h
    all_goals rfl
  rw [takeOptions, hplain]

/-- **The option may be put behind the name of the command too.** -/
theorem ofArguments_json_behind {name : String} {args : List String} {request : Request}
    (h : ofArguments (name :: args) = .ok request) (hname : (placeOf? name).isSome)
    (hjson : request.json = false) :
    ofArguments (name :: "--json" :: args) = .ok { request with json := true } := by
  obtain ⟨before, name', rest, place, after, command, hbefore, hhelp, hplace, hafter, hcommand,
    rfl⟩ := ofArguments_eq_ok_iff.mp h
  rw [takeOptions_name hname] at hbefore
  cases hbefore
  have hbehind : takeAll place {} ("--json" :: args) = takeAll place (Found.asJson {}) args := by
    rw [takeAll]
    rfl
  have hquiet : after.json = false := hjson
  refine ofArguments_eq_ok_iff.mpr ⟨{}, name, "--json" :: args, place, after.asJson, command,
    takeOptions_name hname _, hhelp, hplace, ?_, ?_, rfl⟩
  · exact hbehind.trans (takeAll_asJson hafter hquiet)
  · exact hcommand

/-- Behind two hyphens any line may stand. -/
example (line : String) : ofArguments ["validate", "--json", "--", line] =
    .ok ⟨"cronexpr.hcl", true, .validate line⟩ := by cbv

end Request
end Cron.CommandLine
