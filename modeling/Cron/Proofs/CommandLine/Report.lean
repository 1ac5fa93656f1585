import Cron.CommandLine.Report
import Cron.Proofs.CommandLine.Arguments
import Cron.Proofs.Exchange
import Cron.Proofs.Settings
import Cron.Proofs.Verdict

/-! # Exit codes

Each command finds its exit code in its own way: one fails with the line, one has a flag, one
compares a text with that for faults, one looks whether there are runs.  The codes agree
nevertheless, whichever way the answer is written, and a settings file that cannot be used stops
all commands alike (`Consistent`).

The code of each command is told by a lemma about that command alone; what is common to all,
the settings file and the option for JSON, is added where the arguments are read.
-/
namespace Cron.CommandLine

open Calendar (Instant)
open Json (Value)

namespace Report

variable {json : Bool} {line : String}

/-! ## Commands -/

theorem codeOf_eq_zero_iff {valid : Bool} : codeOf valid = 0 ↔ valid = true := by
  cases valid <;> decide

theorem exitCode_validate_iff :
    (validate json line).exitCode = 0 ↔ ∃ s, Schedule.ofLine line = .ok s :=
  codeOf_eq_zero_iff.trans Verdict.ofLine_valid_iff

theorem exitCode_describe_iff :
    (describe json line).exitCode = 0 ↔ ∃ s, Schedule.ofLine line = .ok s := by
  refine codeOf_eq_zero_iff.trans ?_
  rw [bne_iff_ne, Description.ofLine_ne_ofFaulty_iff, Verdict.ofLine_valid_iff]

theorem exitCode_parse_iff :
    (parse json line).exitCode = 0 ↔ (Text.words line.toList).length = 5 := by
  unfold parse
  by_cases hfive : (Text.words line.toList).length = 5
  · obtain ⟨e, he, -⟩ := Expression.ofLine_of_five_words hfive
    rw [he]
    exact iff_of_true rfl hfive
  · rw [Expression.ofLine_of_other_words hfive]
    exact iff_of_false (by simp [failure]) hfive

/-- A line that has a run to come has no fault. -/
theorem exists_ofLine_of_exitCode_next {limits : Preview.Limits} {now : Instant}
    {count? : Option UInt64} (h : (next json limits now line count?).exitCode = 0) :
    ∃ s, Schedule.ofLine line = .ok s := by
  have hruns := codeOf_eq_zero_iff.mp h
  by_cases hvalid : (Verdict.ofLine line).valid = true
  · exact Verdict.ofLine_valid_iff.mp hvalid
  · rw [Preview.runs, Preview.runsAfter_eq_nil_of_not_valid (Bool.eq_false_iff.mpr hvalid)] at hruns
    cases hruns

/-- Whether a report is written as JSON makes no difference to its code. -/
theorem exitCode_ofCommand (settings : Settings) (now : Instant) (json json' : Bool)
    (command : Command) :
    (ofCommand settings now json command).exitCode =
      (ofCommand settings now json' command).exitCode := by
  cases command with
  | parse line =>
    simp only [ofCommand, parse]
    cases Expression.ofLine line <;> rfl
  | validate line | field f text | describe line | next line count? | presets => rfl

/-! ## The member `valid` -/

/-- The text is that of an object with the member `valid`, which says whether the code is 0. -/
def TellsValid (report : Report) : Prop :=
  ∃ members, Value.ofText? report.output = some (.object members) ∧
    Json.require members "valid" = some (.bool (report.exitCode == 0))

theorem output_finding_pretty {valid : Bool} {v : Value} :
    (finding valid [v.pretty]).output = v.pretty ++ "\n" := by
  simp [finding, lines, String.join]

theorem tellsValid_finding {valid : Bool} {members : List (String × Value)}
    (hplain : (Value.record members).IsPlain)
    (hvalid : Json.require (members.map fun m => (some m.1, m.2)) "valid" = some (.bool valid)) :
    (finding valid [(Value.record members).pretty]).TellsValid := by
  refine ⟨members.map fun m => (some m.1, m.2), ?_, ?_⟩
  · rw [output_finding_pretty]
    exact Value.ofText?_pretty_append_newline hplain
  · rw [hvalid]
    cases valid <;> rfl

theorem tellsValid_validate (line : String) : (validate true line).TellsValid :=
  tellsValid_finding (Verdict.isPlain_toJson _) rfl

theorem isPlain_fieldForm (f : Field) (error? : Option String) : (fieldForm f error?).IsPlain := by
  apply Value.isPlain_record
  refine List.forall_mem_append.mpr ⟨?_, ?_⟩
  · have hdomain : (Value.record [("min", .nat f.bounds.least.toNat),
        ("max", .nat f.bounds.greatest.toNat), ("name", .text f.title)]).IsPlain := by
      apply Value.isPlain_record
      simp only [List.forall_mem_cons]
      exact ⟨Value.isPlain_nat _, Value.isPlain_nat _, Value.isPlain_text _, nofun⟩
    simp only [List.forall_mem_cons]
    exact ⟨Value.isPlain_text _, hdomain, Value.isPlain_bool _, nofun⟩
  · cases error? with
    | none => exact nofun
    | some e =>
      rw [List.forall_mem_singleton]
      exact Value.isPlain_text e

theorem tellsValid_field (f : Field) (text : String) : (field true f text).TellsValid := by
  unfold field
  cases f.read text with
  | ok p => exact tellsValid_finding (isPlain_fieldForm f none) rfl
  | error cause => exact tellsValid_finding (isPlain_fieldForm f (some cause.message)) rfl

/-! ## Requests -/

variable {files : String → Settings.File} {now : Instant} {args : List String}
  {request : Request}

theorem ofArguments_of_ok (h : Request.ofArguments args = .ok request) :
    ofArguments args files now = ofRequest request (files request.settingsFile) now := by
  rw [ofArguments, h]

theorem ofRequest_of_ok {file : Settings.File} {settings : Settings}
    (h : Settings.ofFileOrDefault file = .ok settings) :
    ofRequest request file now = ofCommand settings now request.json request.command := by
  rw [ofRequest, h]

/-- The arguments ask for the command, and name a settings file that can be used or is not
there. -/
def Runs (files : String → Settings.File) (args : List String) (json : Bool)
    (command : Command) : Prop :=
  ∃ name, Request.ofArguments args = .ok ⟨name, json, command⟩ ∧ ¬ (files name).Unusable

theorem Runs.exists_eq {command : Command} (h : Runs files args json command) (now : Instant) :
    ∃ settings : Settings, ofArguments args files now = ofCommand settings now json command := by
  obtain ⟨name, hrequest, husable⟩ := h
  obtain ⟨settings, hsettings⟩ := Settings.File.exists_ok_of_not_unusable husable
  exact ⟨settings, (ofArguments_of_ok hrequest).trans (ofRequest_of_ok hsettings)⟩

/-- The code does not depend on whether JSON is asked for. -/
theorem exitCode_ofRequest_json {file : Settings.File} (json : Bool) :
    (ofRequest { request with json := json } file now).exitCode =
      (ofRequest request file now).exitCode := by
  unfold ofRequest
  cases Settings.ofFileOrDefault file with
  | error fault => rfl
  | ok settings => exact exitCode_ofCommand settings now json request.json request.command

/-- What the exit codes of the commands have to do with the settings file and with each other,
given what is found where a settings file is looked for, and the current local time. -/
structure Consistent (files : String → Settings.File) (now : Instant) : Prop where
  /-- A settings file that cannot be used stops every command. -/
  stopped : ∀ {args request}, Request.ofArguments args = .ok request →
    (files request.settingsFile).Unusable →
    (ofArguments args files now).exitCode = 1 ∧ (ofArguments args files now).output = ""
  /-- With any other file, or none, the command is run, and its previews show a run at least and
  look at a minute at least. -/
  run : ∀ {args request}, Request.ofArguments args = .ok request →
    ¬ (files request.settingsFile).Unusable →
    ∃ settings : Settings, Settings.ofFileOrDefault (files request.settingsFile) = .ok settings ∧
      1 ≤ settings.limits.count ∧ 1 ≤ settings.limits.horizon ∧
      ofArguments args files now = ofCommand settings now request.json request.command
  /-- A line passes the check exactly if it compiles. -/
  validate : ∀ {args json line}, Runs files args json (.validate line) →
    ((ofArguments args files now).exitCode = 0 ↔ ∃ s, Schedule.ofLine line = .ok s)
  /-- It is described exactly then, too. -/
  describe : ∀ {args json line}, Runs files args json (.describe line) →
    ((ofArguments args files now).exitCode = 0 ↔ ∃ s, Schedule.ofLine line = .ok s)
  /-- It is split exactly if it has five words. -/
  parse : ∀ {args json line}, Runs files args json (.parse line) →
    ((ofArguments args files now).exitCode = 0 ↔ (Text.words line.toList).length = 5)
  /-- A line that has runs to come passes the check. -/
  next : ∀ {args args' json json' line count?}, Runs files args json (.next line count?) →
    (ofArguments args files now).exitCode = 0 → Runs files args' json' (.validate line) →
    (ofArguments args' files now).exitCode = 0
  /-- Arguments that ask for the same but for JSON have the same code. -/
  json : ∀ {args args' request json'}, Request.ofArguments args = .ok request →
    Request.ofArguments args' = .ok { request with json := json' } →
    (ofArguments args' files now).exitCode = (ofArguments args files now).exitCode
  /-- The option is in front of the command, or right behind its name. -/
  json_option : ∀ {args request}, Request.ofArguments args = .ok request → request.json = false →
    (ofArguments ("--json" :: args) files now).exitCode = (ofArguments args files now).exitCode ∧
    ∀ {name rest}, args = name :: rest → (placeOf? name).isSome →
      (ofArguments (name :: "--json" :: rest) files now).exitCode =
        (ofArguments args files now).exitCode
  /-- The verdict on a line or a field, written as JSON, tells whether the code is 0. -/
  valid : ∀ {args command}, Runs files args true command →
    (∃ line, command = .validate line) ∨ (∃ f text, command = .field f text) →
    (ofArguments args files now).TellsValid

/-- **The exit codes of the command line are consistent.** -/
theorem consistent (files : String → Settings.File) (now : Instant) : Consistent files now where
  stopped := by
    intro args request hrequest hunusable
    rw [ofArguments_of_ok hrequest, ofRequest]
    cases hload : Settings.ofFileOrDefault (files request.settingsFile) with
    | ok settings => exact absurd hload hunusable.ne_ok
    | error fault => exact ⟨rfl, rfl⟩
  run := by
    intro args request hrequest husable
    obtain ⟨settings, hsettings⟩ := Settings.File.exists_ok_of_not_unusable husable
    obtain ⟨hcount, hhorizon⟩ := Settings.one_le_limits_of_ofFileOrDefault hsettings
    exact ⟨settings, hsettings, hcount, hhorizon,
      (ofArguments_of_ok hrequest).trans (ofRequest_of_ok hsettings)⟩
  validate := by
    intro args json line hruns
    obtain ⟨settings, heq⟩ := hruns.exists_eq now
    rw [heq]
    exact exitCode_validate_iff
  describe := by
    intro args json line hruns
    obtain ⟨settings, heq⟩ := hruns.exists_eq now
    rw [heq]
    exact exitCode_describe_iff
  parse := by
    intro args json line hruns
    obtain ⟨settings, heq⟩ := hruns.exists_eq now
    rw [heq]
    exact exitCode_parse_iff
  next := by
    intro args args' json json' line count? hnext hzero hvalidate
    obtain ⟨settings, heq⟩ := hnext.exists_eq now
    obtain ⟨settings', heq'⟩ := hvalidate.exists_eq now
    rw [heq] at hzero
    rw [heq']
    exact exitCode_validate_iff.mpr (exists_ofLine_of_exitCode_next hzero)
  json := by
    intro args args' request json' h h'
    rw [ofArguments_of_ok h, ofArguments_of_ok h']
    exact exitCode_ofRequest_json json'
  json_option := by
    intro args request h hjson
    refine ⟨?_, ?_⟩
    · rw [ofArguments_of_ok h, ofArguments_of_ok (Request.ofArguments_json_cons h hjson)]
      exact exitCode_ofRequest_json true
    · rintro name rest rfl hname
      rw [ofArguments_of_ok h, ofArguments_of_ok (Request.ofArguments_json_behind h hname hjson)]
      exact exitCode_ofRequest_json true
  valid := by
    intro args command hruns hcommand
    obtain ⟨settings, heq⟩ := hruns.exists_eq now
    rw [heq]
    rcases hcommand with ⟨line, rfl⟩ | ⟨f, text, rfl⟩
    · exact tellsValid_validate line
    · exact tellsValid_field f text

/-- A line passes the check if the settings file can be used.  If its count is zero, the line is
not even looked at. -/
theorem consistent_two_files :
    let now : Instant := ⟨⟨2026, 2, 5, by decide⟩, 10, 37, 0, 0, by decide⟩
    let args := ["--json", "validate", "0 0 * * 7"]
    let zero : String → Settings.File := fun _ => .bytes "scheduler \x7b count = 0 \x7d".toUTF8
    let debug : String → Settings.File := fun _ => .bytes "log_level = \"debug\"".toUTF8
    (ofArguments args zero now).exitCode = 1 ∧ (ofArguments args zero now).output = "" ∧
      (ofArguments args debug now).exitCode = 0 ∧ (ofArguments args debug now).TellsValid := by
  intro now args zero debug
  have hrequest : Request.ofArguments args =
      .ok ⟨"cronexpr.hcl", true, .validate "0 0 * * 7"⟩ := by cbv
  have hcompiles : Schedule.ofLine "0 0 * * 7" =
      .ok ⟨.single 0, .single 0, .any, .any, .single 7, true⟩ := by decide +kernel
  have hunusable : (zero "cronexpr.hcl").Unusable := by
    have hdenotes : Settings.TextDenotes "scheduler \x7b count = 0 \x7d" ⟨"warn", ⟨0, 525600⟩⟩ :=
      Option.bind_eq_some_iff.mp (by decide +kernel)
    exact .zeroCount (Settings.denotes_toUTF8_iff.mpr hdenotes) rfl
  have husable : ¬ (debug "cronexpr.hcl").Unusable := by
    have hdenotes : Settings.TextDenotes "log_level = \"debug\"" ⟨"debug", {}⟩ :=
      Option.bind_eq_some_iff.mp (by decide +kernel)
    have hload : Settings.ofFileOrDefault (debug "cronexpr.hcl") = .ok ⟨"debug", {}⟩ := by
      rw [Settings.ofFileOrDefault_toUTF8, Settings.ofHcl_eq_ok_iff]
      exact ⟨hdenotes, by decide, by decide⟩
    exact fun h => h.ne_ok hload
  have hruns : Runs debug args true (.validate "0 0 * * 7") :=
    ⟨"cronexpr.hcl", hrequest, husable⟩
  obtain ⟨hcode, houtput⟩ := (consistent zero now).stopped hrequest hunusable
  exact ⟨hcode, houtput, ((consistent debug now).validate hruns).mpr ⟨_, hcompiles⟩,
    (consistent debug now).valid hruns (Or.inl ⟨_, rfl⟩)⟩

end Report
end Cron.CommandLine
