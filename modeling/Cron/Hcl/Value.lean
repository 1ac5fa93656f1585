import Cron.Hcl.Token

/-! # HCL values

What may stand behind the equals sign of a setting.  Line ends do not count inside an
array; inside an object they part its members, and none stands within a member.  An object
holds one member for each key; a key written bare and the same key between quotes are two.
-/
namespace Cron.Hcl

/-- The key of a member of an object, written bare or between quotes. -/
structure Key where
  text : String
  quoted : Bool
  deriving DecidableEq, Repr

/-- An HCL value. -/
inductive Value where
  | null
  | bool (value : Bool)
  | number (value : Number)
  | string (text : String)
  | array (items : List Value)
  | object (members : List (Key × Value))

namespace Value

/-! ## Reading -/

/-- Drops line ends, where they do not count. -/
def skipLines (ts : List Token) : List Token :=
  ts.dropWhile (fun t => t == .endOfLine || t == .strayReturn)

/-- The words that are values, and so no names. -/
def constant? (word : String) : Option Value :=
  if word = "null" then some null
  else if word = "true" then some (bool true)
  else if word = "false" then some (bool false)
  else none

/-- Reads the key of a member with the mark behind it. -/
def parseKey : List Token → Option (Key × List Token)
  | .name k _ :: .mark '=' :: ts | .name k _ :: .mark ':' :: ts => some (⟨k, false⟩, ts)
  | .string k :: .mark '=' :: ts | .string k :: .mark ':' :: ts => some (⟨k, true⟩, ts)
  | _ => none

/-- Whether the inside of an object begins as a comprehension does: with the word `for`,
and a blank or a comment behind it. -/
def beginsComprehension : List Token → Bool
  | .name w true :: _ => w == "for"
  | _ => false

/-- Adds a member to those of an object, of which the last comes first.  A key that is there
already keeps its place, and its value is replaced. -/
def addMember (k : Key) (v : Value) (ms : List (Key × Value)) : List (Key × Value) :=
  if ms.any (fun m => m.1 == k) then ms.map (fun m => if m.1 == k then (k, v) else m)
  else (k, v) :: ms

mutual

/-- Reads one value. -/
def parse : (fuel : Nat) → List Token → Option (Value × List Token)
  | 0, _ => none
  | fuel + 1, ts =>
    match ts with
    | .name w _ :: ts => (constant? w).map (fun v => (v, ts))
    | .string s :: ts => some (string s, ts)
    | .number n :: ts => some (number n, ts)
    | .mark '-' :: .number n :: ts => some (number n.negate, ts)
    | .mark '[' :: ts => parseItems fuel [] (skipLines ts)
    | .mark '\x7b' :: ts =>
      if beginsComprehension (skipLines ts) then none else parseMembers fuel [] (skipLines ts)
    | _ => none

/-- Reads the items of an array, with no line end before them.  Those read so far come last
first; the last item may have a comma behind it. -/
def parseItems : (fuel : Nat) → List Value → List Token → Option (Value × List Token)
  | 0, _, _ => none
  | fuel + 1, found, ts =>
    match ts with
    | .mark ']' :: ts => some (array found.reverse, ts)
    | ts =>
      match parse fuel ts with
      | none => none
      | some (v, ts) =>
        match skipLines ts with
        | .mark ',' :: ts => parseItems fuel (v :: found) (skipLines ts)
        | .mark ']' :: ts => some (array (v :: found).reverse, ts)
        | _ => none

/-- Reads the members of an object, with no line end before them.  Those read so far come
last first.  A comma or a line end parts two members. -/
def parseMembers : (fuel : Nat) → List (Key × Value) → List Token →
    Option (Value × List Token)
  | 0, _, _ => none
  | fuel + 1, found, ts =>
    match ts with
    | .mark '\x7d' :: ts => some (object found.reverse, ts)
    | ts =>
      match parseKey ts with
      | none => none
      | some (k, ts) =>
        match parse fuel ts with
        | some (v, .mark ',' :: ts) => parseMembers fuel (addMember k v found) (skipLines ts)
        | some (v, .endOfLine :: ts) => parseMembers fuel (addMember k v found) (skipLines ts)
        | some (v, .mark '\x7d' :: ts) => some (object (addMember k v found).reverse, ts)
        | _ => none

end

/-- Reads one value from the front.  Each token is met at most twice on the way down, so
twice their number is enough. -/
def ofTokens? (ts : List Token) : Option (Value × List Token) := parse (2 * ts.length + 1) ts

/-! ## Looking into values -/

/-- The natural number that a value is, if it is one. -/
def nat? : Value → Option Nat
  | number n => n.nat?
  | _ => none

/-- Whether a key can be compared with names: a constant that is not between quotes cannot. -/
def isNameable (k : Key) : Bool := k.quoted || (constant? k.text).isNone

/-- The value of the member of a given key, if there is such a member.  The look-up fails if
the key is written in both ways, or if any key of the object is no name. -/
def lookUp (ms : List (Key × Value)) (key : String) : Option (Option Value) :=
  if ms.all (fun m => isNameable m.1) then
    match ms.filter (fun m => m.1.text == key) with
    | [] => some none
    | [m] => some (some m.2)
    | _ => none
  else none

/-! ## Writing on one line -/

/-- Whether a character, with a brace behind it, begins a template. -/
def isSign (c : Char) : Bool := c == '$' || c == '%'

/-- Doubles the signs that would begin a template, in a text that is taken apart from the
front: a sign is taken together with the character behind it, whatever that is, and so does
not count as a sign when it stands second. -/
def shieldPairs : List Char → List Char
  | c :: d :: cs =>
    if isSign c then
      if d = '\x7b' then c :: c :: d :: shieldPairs cs else c :: d :: shieldPairs cs
    else c :: shieldPairs (d :: cs)
  | cs => cs

/-- Doubles the signs that would begin a template.  The first of them is the first sign with
a brace behind it; only what follows is taken apart in pairs. -/
def shield : List Char → List Char
  | c :: d :: cs =>
    if isSign c ∧ d = '\x7b' then c :: c :: d :: shieldPairs cs else c :: shield (d :: cs)
  | cs => cs

example : shield ['$', '$', '\x7b', ' ', '$', '$', '$', '\x7b'] =
    ['$', '$', '$', '\x7b', ' ', '$', '$', '$', '$', '\x7b'] := by decide
example : shield ['$', '\x7b', '$', '%', '\x7b'] = ['$', '$', '\x7b', '$', '%', '\x7b'] := by
  decide

/-- A text between quotes. -/
def quote (text : String) : List Char :=
  '"' :: (shield text.toList).flatMap Text.escapeChar ++ ['"']

/-- The text of a key. -/
def keyText (k : Key) : List Char := if k.quoted then quote k.text else k.text.toList

mutual

/-- Whether the text of a value ends with that of an empty array or object, no matter how
many arrays and objects are closed behind it. -/
def endsEmpty : Value → Bool
  | array vs => lastEndsEmpty vs
  | object ms => lastMemberEndsEmpty ms
  | _ => false

/-- Whether there is no item, or the last one ends empty. -/
def lastEndsEmpty : List Value → Bool
  | [] => true
  | [v] => endsEmpty v
  | _ :: v :: vs => lastEndsEmpty (v :: vs)

/-- Whether there is no member, or the last one ends empty. -/
def lastMemberEndsEmpty : List (Key × Value) → Bool
  | [] => true
  | [(_, v)] => endsEmpty v
  | _ :: m :: ms => lastMemberEndsEmpty (m :: ms)

end

/-- What parts an item from the one behind it: a comma, which is left out behind an item
that ends empty. -/
def itemGap (v : Value) : List Char := if endsEmpty v then [] else [',', ' ']

/-- What parts a member of the given value from the one behind it. -/
def memberGap (v : Value) : List Char := if endsEmpty v then [' '] else [',', ' ']

mutual

/-- The text of a value on one line. -/
def inline : Value → List Char
  | null => ['n', 'u', 'l', 'l']
  | bool true => ['t', 'r', 'u', 'e']
  | bool false => ['f', 'a', 'l', 's', 'e']
  | number n => n.text
  | string s => quote s
  | array vs => '[' :: inlineItems vs
  | object [] => ['\x7b', '\x7d']
  | object (m :: ms) => '\x7b' :: ' ' :: inlineMembers (m :: ms)

/-- The text of the items of an array, up to its end. -/
def inlineItems : List Value → List Char
  | [] => [']']
  | [v] => inline v ++ [']']
  | v :: w :: vs => inline v ++ itemGap v ++ inlineItems (w :: vs)

/-- The text of the members of an object, up to its end. -/
def inlineMembers : List (Key × Value) → List Char
  | [] => ['\x7d']
  | [(k, v)] => keyText k ++ ' ' :: '=' :: ' ' :: inline v ++ [' ', '\x7d']
  | (k, v) :: m :: ms =>
    keyText k ++ ' ' :: '=' :: ' ' :: inline v ++ memberGap v ++ inlineMembers (m :: ms)

end

/-- The text that a value is where a text is called for.  A value that is no string is
written as a template that holds it. -/
def asText : Value → String
  | string s => s
  | v => .ofList ('$' :: '\x7b' :: v.inline ++ ['\x7d'])

end Value
end Cron.Hcl
