import Cron.Hcl.Value

/-! # HCL bodies

A settings file is a body: settings and blocks, each of which ends with its line.  The
body of a block stands on lines of its own, or is a single setting on the line of the
block.  No body holds two settings of one name; what entries of one name mean together is
told by `Body.standing`.
-/
namespace Cron.Hcl

/-- An entry of a body. -/
inductive Item where
  | setting (name : String) (value : Value)
  | block (name : String) (labels : List String) (body : List Item)

namespace Item

/-- The name of an entry. -/
def name : Item → String
  | setting n _ => n
  | block n _ _ => n

/-- The three kinds of entry. -/
inductive Kind where
  | setting
  | plainBlock
  | labelledBlock
  deriving DecidableEq, Repr

/-- The kind of an entry. -/
def kind : Item → Kind
  | setting _ _ => .setting
  | block _ [] _ => .plainBlock
  | block _ (_ :: _) _ => .labelledBlock

/-- The name of a setting, if the entry is one. -/
def settingName? : Item → Option String
  | setting n _ => some n
  | block _ _ _ => none

end Item

namespace Body

/-- The entries of a body, unless two settings have one name. -/
def checked (items : List Item) : Option (List Item) :=
  if (items.filterMap Item.settingName?).Nodup then some items else none

/-- The labels with which a block begins. -/
def parseLabels : List Token → List String × List Token
  | .name l _ :: ts | .string l :: ts =>
    let (ls, rest) := parseLabels ts
    (l :: ls, rest)
  | ts => ([], ts)

mutual

/-- Reads the lines of a body, up to the brace that closes it or, for the outermost body, up
to the end.  The entries read so far come last first. -/
def parseLines (inBlock : Bool) : (fuel : Nat) → List Item → List Token →
    Option (List Item × List Token)
  | 0, _, _ => none
  | fuel + 1, found, ts =>
    match Value.skipLines ts with
    | [] => if inBlock then none else (checked found.reverse).map (fun items => (items, []))
    | .mark '\x7d' :: ts =>
      if inBlock then (checked found.reverse).map (fun items => (items, ts)) else none
    | ts =>
      match parseItem fuel ts with
      | some (item, []) => parseLines inBlock fuel (item :: found) []
      | some (item, .endOfLine :: ts) => parseLines inBlock fuel (item :: found) ts
      | _ => none

/-- Reads one entry. -/
def parseItem : (fuel : Nat) → List Token → Option (Item × List Token)
  | 0, _ => none
  | fuel + 1, ts =>
    match ts with
    | .name n _ :: .mark '=' :: ts => (Value.ofTokens? ts).map (fun p => (.setting n p.1, p.2))
    | .name n _ :: ts =>
      let (labels, ts) := parseLabels ts
      match ts with
      | .mark '\x7b' :: ts =>
        (parseBlock fuel ts).map (fun p => (.block n labels p.1, p.2))
      | _ => none
    | _ => none

/-- Reads the body of a block behind its opening brace. -/
def parseBlock : (fuel : Nat) → List Token → Option (List Item × List Token)
  | 0, _ => none
  | fuel + 1, ts =>
    match ts with
    | .mark '\x7d' :: ts => some ([], ts)
    | .endOfLine :: ts => parseLines true fuel [] ts
    | .name n _ :: .mark '=' :: ts =>
      match Value.ofTokens? ts with
      | some (v, .mark '\x7d' :: ts) => some ([.setting n v], ts)
      | _ => none
    | _ => none

end

/-- The body that a text denotes.  Three calls at most are made for each token. -/
def ofText? (text : String) : Option (List Item) := do
  let ts ← scan text.toList
  let (items, _) ← parseLines false (3 * ts.length + 3) [] ts
  return items

/-- The entries of a body that stand for a name, the last of them first.  An entry takes the
place of all before it that are of another kind, and joins those of its own kind. -/
def standing (items : List Item) (name : String) : List Item :=
  match (items.filter (fun i => i.name == name)).reverse with
  | [] => []
  | last :: earlier => last :: earlier.takeWhile (fun i => i.kind == last.kind)

end Body
end Cron.Hcl
