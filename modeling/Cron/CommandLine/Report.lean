import Cron.Calendar.Instant
import Cron.CommandLine.Arguments
import Cron.Description

/-! # Reports

What the command line answers: an exit code, and what it writes to its two outputs.  The
code is 0 if what was asked about is valid, 1 if it is not or if the settings are refused,
and 2 if the arguments make no sense.  Whether a report is written as JSON or for a reader
makes no difference to its code.
-/
namespace Cron.CommandLine

open Calendar (Instant)

/-- An answer of the command line. -/
structure Report where
  exitCode : UInt8
  output : String
  errors : String
  deriving DecidableEq, Repr

namespace Report

/-- A text of which each line has its end. -/
def lines (ls : List String) : String := String.join (ls.map (· ++ "\n"))

/-- The code of a finding. -/
def codeOf (valid : Bool) : UInt8 := if valid then 0 else 1

/-- The report of a finding. -/
def finding (valid : Bool) (ls : List String) : Report := ⟨codeOf valid, lines ls, ""⟩

/-- The report of a failure. -/
def failure (message : String) : Report := ⟨1, "", lines ["[cronexpr] " ++ message]⟩

/-- A text filled up with spaces to a width. -/
def column (width : Nat) (text : String) : String := .ofList (text.toList.rightpad width ' ')

/-! ## The commands -/

/-- The five texts of a line. -/
def parse (json : Bool) (line : String) : Report :=
  match Expression.ofLine line with
  | .error fault => failure fault.message
  | .ok e =>
    finding true (if json then [e.toJson.pretty]
      else e.entries.map (fun p => column 14 p.1.title ++ " " ++ p.2))

/-- The verdict on a line. -/
def validate (json : Bool) (line : String) : Report :=
  let v := Verdict.ofLine line
  finding v.valid (if json then [v.toJson.pretty]
    else if v.valid then ["✓ " ++ line]
    else v.errors.map ("✗ " ++ ·))

/-- The form of what is found about the text of one field. -/
def fieldForm (f : Field) (error? : Option String) : Json.Value :=
  .record ([("field", .text f.label),
    ("domain", .record [("min", .nat f.bounds.least.toNat), ("max", .nat f.bounds.greatest.toNat),
      ("name", .text f.title)]),
    ("valid", .bool error?.isNone)] ++
    (match error? with
      | some e => [("error", .text e)]
      | none => []))

/-- What may stand in a field. -/
def fieldHint (f : Field) : String :=
  "  range " ++ toString f.bounds.least ++ "-" ++ toString f.bounds.greatest ++ ", examples: " ++
    String.intercalate ", " f.samples

/-- The verdict on the text of one field. -/
def field (json : Bool) (f : Field) (text : String) : Report :=
  let error? := match f.read text with
    | .ok _ => none
    | .error cause => some cause.message
  finding error?.isNone (if json then [(fieldForm f error?).pretty]
    else [match error? with
        | none => "✓ " ++ f.title ++ " " ++ text
        | some e => "✗ " ++ f.title ++ ": " ++ e,
      fieldHint f])

/-- The description of a line. -/
def describe (json : Bool) (line : String) : Report :=
  let text := Description.ofLine line
  finding (text != Description.ofFaulty) [if json then (Json.Value.text text).pretty else text]

/-- The next runs of a line. -/
def next (json : Bool) (limits : Preview.Limits) (now : Instant) (line : String)
    (count? : Option UInt64) : Report :=
  let runs := Preview.runs limits line now count?
  finding (!runs.isEmpty)
    (if json then [(Json.Value.array (runs.map (fun t => .text t.text))).pretty]
    else if runs.isEmpty then ["→ no upcoming runs"]
    else runs.map (fun t => "→ " ++ t.display))

/-- All presets. -/
def presets (json : Bool) : Report :=
  finding true (if json then [(Json.Value.array (Preset.all.map Preset.toJson)).pretty]
    else Preset.all.map (fun p =>
      column 14 p.expression ++ " " ++ column 26 p.name ++ " " ++ p.description))

/-- The report on a command. -/
def ofCommand (settings : Settings) (now : Instant) (json : Bool) : Command → Report
  | .parse line => parse json line
  | .validate line => validate json line
  | .field f text => field json f text
  | .describe line => describe json line
  | .next line count? => next json settings.limits now line count?
  | .presets => presets json

/-! ## Help -/

/-- What is told of a command, or of the program: what it is for, the form of its arguments,
and lists of what may stand in these. -/
structure Manual where
  about : String
  usage : String
  lists : List (String × List (String × String))

/-- A list with its heading.  What is told of the entries begins at one column for them all. -/
def Manual.listing (heading : String) (entries : List (String × String)) : List String :=
  let width := (entries.map fun e => e.1.length).foldl max 0
  "" :: (heading ++ ":") :: entries.map fun e => "  " ++ column width e.1 ++ "  " ++ e.2

/-- The lines of a manual. -/
def Manual.lines (m : Manual) : List String :=
  [m.about, "", "Usage: a3s-cronexpr " ++ m.usage] ++
    m.lists.flatMap fun l => Manual.listing l.1 l.2

/-- All commands, each with what it is for. -/
def purposes : List (String × String) := [
  ("parse", "Split an expression into its five fields"),
  ("validate", "Validate every field of an expression"),
  ("field", "Validate a single field value (minute, hour, dayOfMonth, month, dayOfWeek)"),
  ("describe", "Describe an expression in plain English"),
  ("next", "Show the next runs of an expression"),
  ("presets", "List the built-in presets"),
  ("help", "Print this message or the help of the given subcommand(s)")]

/-- The options that may stand everywhere, behind others. -/
def options (others : List (String × String)) : String × List (String × String) :=
  ("Options", others ++
    [("    --json", "Print machine-readable JSON"), ("-h, --help", "Print help")])

/-- What is told of the program. -/
def manual : Manual where
  about := "a3s-cronexpr — validate, explain, and preview cron expressions"
  usage := "[OPTIONS] <COMMAND>"
  lists := [("Commands", purposes), options [("-c, --config <CONFIG>",
    "Path to the config file [default: " ++ Settings.defaultFile ++ "]")]]

/-- What is told of a command. -/
def manualOf (name : String) : Manual :=
  let about := (purposes.lookup name).getD ""
  let line := ("Arguments", [("<EXPRESSION>", "")])
  match name with
  | "field" => ⟨about, "field [OPTIONS] <FIELD> <VALUE>",
      [("Arguments", [("<FIELD>", ""), ("<VALUE>", "")]), options []]⟩
  | "next" => ⟨about, "next [OPTIONS] <EXPRESSION>",
      [line, options [("-n, --count <COUNT>", "Number of runs (default from config)")]]⟩
  | "presets" => ⟨about, "presets [OPTIONS]", [options []]⟩
  | "help" => ⟨about, "help [COMMAND]...",
      [("Arguments", [("[COMMAND]...", "Print help for the subcommand(s)")])]⟩
  | _ => ⟨about, name ++ " [OPTIONS] <EXPRESSION>", [line, options []]⟩

example : (manualOf "presets").lines =
    ["List the built-in presets", "", "Usage: a3s-cronexpr presets [OPTIONS]", "", "Options:",
      "      --json  Print machine-readable JSON", "  -h, --help  Print help"] := by decide +kernel

/-! ## The whole -/

/-- The report on arguments that ask for nothing that can be done. -/
def ofRefusal : Refusal → Report
  | .help command? => finding true (command?.elim manual manualOf).lines
  | .misuse why => ⟨2, "", lines ["error: " ++ why]⟩

/-- The report on a request, given its settings file and the current local time.  Settings
that are refused stop every command. -/
def ofRequest (request : Request) (file : Settings.File) (now : Instant) : Report :=
  match Settings.ofFileOrDefault file with
  | .error fault => failure (fault.message (some request.settingsFile))
  | .ok settings => ofCommand settings now request.json request.command

/-- The report on arguments, given what is found where a settings file is looked for, and
the current local time.  Arguments that make no sense are refused before any file is looked
for. -/
def ofArguments (args : List String) (files : String → Settings.File) (now : Instant) : Report :=
  match Request.ofArguments args with
  | .error refusal => ofRefusal refusal
  | .ok request => ofRequest request (files request.settingsFile) now

end Report
end Cron.CommandLine
