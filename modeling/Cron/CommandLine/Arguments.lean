import Cron.Expression
import Cron.Preview
import Cron.Settings

/-! # Arguments

What the arguments of the command line ask for.  Options come before the command and after
it; which ones, and how many operands, depends on the command.  An argument that begins
with a hyphen is an option, unless it is the hyphen alone or follows `--`.
-/
namespace Cron.CommandLine

/-- What the command line can do. -/
inductive Command where
  | parse (line : String)
  | validate (line : String)
  | field (field : Field) (text : String)
  | describe (line : String)
  | next (line : String) (count? : Option UInt64)
  | presets
  deriving DecidableEq, Repr

/-- What the arguments ask for. -/
structure Request where
  settingsFile : String
  json : Bool
  command : Command
  deriving DecidableEq, Repr

/-- Why the arguments ask for nothing that can be done. -/
inductive Refusal where
  /-- They ask for help, with one command if it is named. -/
  | help (command? : Option String)
  /-- They do not fit together. -/
  | misuse (why : String)
  deriving DecidableEq, Repr

/-! ## Single arguments -/

/-- What an argument looks like. -/
inductive Shape where
  /-- Two hyphens and nothing else; no argument behind them is an option. -/
  | endOfOptions
  /-- An option by its name, as in `--name` or `--name=value`. -/
  | long (name : String) (value? : Option String)
  /-- An option by its letter, with whatever stands behind the letter. -/
  | short (letter : Char) (rest : List Char)
  /-- Anything else. -/
  | plain
  deriving DecidableEq, Repr

/-- What stands behind the first equals sign. -/
def afterEquals? (cs : List Char) : Option String :=
  match cs.dropWhile (· != '=') with
  | _ :: value => some (.ofList value)
  | [] => none

/-- What an argument looks like. -/
def Shape.ofArgument (argument : String) : Shape :=
  match argument.toList with
  | ['-', '-'] => .endOfOptions
  | '-' :: '-' :: cs => .long (.ofList (cs.takeWhile (· != '='))) (afterEquals? cs)
  | '-' :: c :: cs => .short c cs
  | _ => .plain

/-! ## Options and operands -/

/-- Which options and operands may stand at one place of the command line.  The options
`--json` and `--help` may stand everywhere. -/
structure Place where
  /-- The name of the command, for a place behind one. -/
  command? : Option String
  /-- The letter and the name of an option with a value, if there is one. -/
  option? : Option (Char × String)
  /-- Whether a text may be the value of that option. -/
  admits : String → Bool
  /-- For each operand, whether a text may be that operand. -/
  operands : List (String → Bool)

/-- What has been found at one place of the command line. -/
structure Found where
  json : Bool := false
  value? : Option String := none
  operands : List String := []

/-- The refusal of an argument that no option accounts for. -/
def unexpected (argument : String) : Refusal := .misuse ("unexpected argument '" ++ argument ++ "'")

/-- Takes the value of an option, from its own argument or else from the next one.  The flag
tells whether the next one was used. -/
def takeValue (place : Place) (found : Found) (attached? next? : Option String) :
    Except Refusal (Found × Bool) :=
  let value? := attached? <|> next?.filter (fun v => Shape.ofArgument v == .plain)
  match value? with
  | none => .error (.misuse "an option lacks its value")
  | some v =>
    if found.value?.isSome then .error (.misuse "an option is repeated")
    else if place.admits v then .ok ({ found with value? := some v }, attached?.isNone)
    else .error (.misuse ("invalid value '" ++ v ++ "'"))

/-- Takes an argument that is an option, with its value if it has one.  There is no result
for an argument that is no option. -/
def takeOption (place : Place) (found : Found) (argument : String) (next? : Option String) :
    Except Refusal (Option (Found × Bool)) :=
  match Shape.ofArgument argument with
  | .plain | .endOfOptions => .ok none
  | .long "help" none => .error (.help place.command?)
  | .long "json" none =>
    if found.json then .error (.misuse "an option is repeated")
    else .ok (some ({ found with json := true }, false))
  | .long name value? =>
    if place.option?.any (fun o => o.2 == name) then
      (takeValue place found value? next?).map some
    else .error (unexpected argument)
  | .short letter rest =>
    if letter = 'h' then .error (.help place.command?)
    else if place.option?.any (fun o => o.1 == letter) then
      let attached? := match rest with
        | [] => none
        | '=' :: cs => some (String.ofList cs)
        | cs => some (String.ofList cs)
      (takeValue place found attached? next?).map some
    else .error (unexpected argument)

/-- Takes one operand. -/
def takeOperand (place : Place) (found : Found) (operand : String) : Except Refusal Found :=
  match place.operands[found.operands.length]? with
  | some fits =>
    if fits operand then .ok { found with operands := found.operands ++ [operand] }
    else .error (.misuse ("invalid value '" ++ operand ++ "'"))
  | none => .error (unexpected operand)

/-- Takes options up to the first argument that is none, and leaves the rest. -/
def takeOptions (place : Place) (found : Found) : List String →
    Except Refusal (Found × List String)
  | [] => .ok (found, [])
  | a :: rest =>
    match takeOption place found a rest.head? with
    | .error r => .error r
    | .ok none => .ok (found, a :: rest)
    | .ok (some (found, usesNext)) =>
      takeOptions place found (rest.drop (if usesNext then 1 else 0))
termination_by args => args.length
decreasing_by simp only [List.length_drop, List.length_cons]; omega

/-- Takes all arguments, options and operands in any order. -/
def takeAll (place : Place) (found : Found) : List String → Except Refusal Found
  | [] => .ok found
  | a :: rest =>
    match takeOption place found a rest.head? with
    | .error r => .error r
    | .ok (some (found, usesNext)) =>
      takeAll place found (rest.drop (if usesNext then 1 else 0))
    | .ok none =>
      if a = "--" then rest.foldlM (takeOperand place) found
      else
        match takeOperand place found a with
        | .error r => .error r
        | .ok found => takeAll place found rest
termination_by args => args.length
decreasing_by all_goals (simp only [List.length_drop, List.length_cons]; omega)

/-! ## Commands -/

/-- The number that a count is written as: it may have a plus sign, and has room in 64
bits. -/
def countOf? (text : String) : Option UInt64 :=
  (Numeral.unsigned? text.toList).bind Preview.Limits.countOf?

/-- What may stand before the command. -/
def front : Place := ⟨none, some ('c', "config"), fun v => !v.isEmpty, []⟩

/-- Any text may be such an operand. -/
def anyText (_ : String) : Bool := true

/-- What may stand behind a command of the given name, if there is such a command. -/
def placeOf? (name : String) : Option Place :=
  match name with
  | "parse" | "validate" | "describe" => some ⟨some name, none, anyText, [anyText]⟩
  | "field" => some ⟨some name, none, anyText, [fun v => (Field.ofLabel? v).isSome, anyText]⟩
  | "next" => some ⟨some name, some ('n', "count"), fun v => (countOf? v).isSome, [anyText]⟩
  | "presets" => some ⟨some name, none, anyText, []⟩
  | _ => none

/-- The command of a given name with its operands and the value of its option. -/
def commandOf? (name : String) (found : Found) : Option Command :=
  match name, found.operands with
  | "parse", [line] => some (.parse line)
  | "validate", [line] => some (.validate line)
  | "field", [name, text] => (Field.ofLabel? name).map (fun f => .field f text)
  | "describe", [line] => some (.describe line)
  | "next", [line] => some (.next line (found.value?.bind countOf?))
  | "presets", [] => some .presets
  | _, _ => none

/-- The answer to a call for help on the commands that are named. -/
def helpOn : List String → Refusal
  | [] => .help none
  | [name] =>
    if name = "help" || (placeOf? name).isSome then .help (some name) else unexpected name
  | _ => .misuse "help takes one command"

/-- What the arguments ask for. -/
def Request.ofArguments (args : List String) : Except Refusal Request := do
  let (before, rest) ← takeOptions front {} args
  match rest with
  | [] => .error (.misuse "a command is missing")
  | name :: rest =>
    if name = "help" then .error (helpOn rest)
    else
      match placeOf? name with
      | none => .error (unexpected name)
      | some place =>
        let after ← takeAll place {} rest
        match commandOf? name after with
        | none => .error (.misuse "an operand is missing")
        | some command =>
          return ⟨before.value?.getD Settings.defaultFile, before.json || after.json, command⟩

end Cron.CommandLine
