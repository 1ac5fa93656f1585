import Cron.Json.Token

/-! # JSON values

A value has one sequence of tokens (`Value.tokens`), and a text denotes the value whose
tokens it has (`Value.ofTokens?`).  Objects keep their members in order, and may repeat a
key; what a repeated key means is left to those who look members up.

The same tokens can be laid out in two ways: without any gaps, or over lines that are
indented by two spaces for each array or object around them.
-/
namespace Cron.Json

/-- A JSON value. -/
inductive Value where
  | null
  | bool (value : Bool)
  | number (value : Number)
  | string (text? : Option String)
  | array (items : List Value)
  | object (members : List (Option String × Value))

namespace Value

/-- The value of a text. -/
def text (s : String) : Value := string (some s)

/-- The value of a natural number. -/
def nat (n : Nat) : Value := number (.natural n)

/-- The object with the given keys and values. -/
def record (members : List (String × Value)) : Value :=
  object (members.map (fun m => (some m.1, m.2)))

/-! ## From values to tokens -/

mutual

/-- The tokens of a value. -/
def tokens : Value → List Token
  | null => [.null]
  | bool b => [.bool b]
  | number n => [.number n]
  | string s => [.string s]
  | array vs => .openArray :: itemTokens vs
  | object ms => .openObject :: memberTokens ms

/-- The tokens of the items of an array, up to and with the one that closes it. -/
def itemTokens : List Value → List Token
  | [] => [.closeArray]
  | [v] => tokens v ++ [.closeArray]
  | v :: w :: vs => tokens v ++ .comma :: itemTokens (w :: vs)

/-- The tokens of the members of an object, up to and with the one that closes it. -/
def memberTokens : List (Option String × Value) → List Token
  | [] => [.closeObject]
  | [(k, v)] => .string k :: .colon :: tokens v ++ [.closeObject]
  | (k, v) :: m :: ms => .string k :: .colon :: tokens v ++ .comma :: memberTokens (m :: ms)

end

/-! ## From tokens to values -/

mutual

/-- Reads one value. -/
def parse : (fuel : Nat) → List Token → Option (Value × List Token)
  | 0, _ => none
  | fuel + 1, ts =>
    match ts with
    | .null :: ts => some (null, ts)
    | .bool b :: ts => some (bool b, ts)
    | .number n :: ts => some (number n, ts)
    | .string s :: ts => some (string s, ts)
    | .openArray :: .closeArray :: ts => some (array [], ts)
    | .openArray :: ts => parseItems fuel [] ts
    | .openObject :: .closeObject :: ts => some (object [], ts)
    | .openObject :: ts => parseMembers fuel [] ts
    | _ => none

/-- Reads the items of an array, of which there is at least one.  Those read so far come
last first. -/
def parseItems : (fuel : Nat) → List Value → List Token → Option (Value × List Token)
  | 0, _, _ => none
  | fuel + 1, found, ts =>
    match parse fuel ts with
    | some (v, .comma :: ts) => parseItems fuel (v :: found) ts
    | some (v, .closeArray :: ts) => some (array (v :: found).reverse, ts)
    | _ => none

/-- Reads the members of an object, of which there is at least one.  Those read so far come
last first. -/
def parseMembers : (fuel : Nat) → List (Option String × Value) → List Token →
    Option (Value × List Token)
  | 0, _, _ => none
  | fuel + 1, found, ts =>
    match ts with
    | .string k :: .colon :: ts =>
      match parse fuel ts with
      | some (v, .comma :: ts) => parseMembers fuel ((k, v) :: found) ts
      | some (v, .closeObject :: ts) => some (object ((k, v) :: found).reverse, ts)
      | _ => none
    | _ => none

end

/-- The value whose tokens these are.  Each token is met at most twice on the way down, so
twice their number is enough to reach the end. -/
def ofTokens? (ts : List Token) : Option Value :=
  match parse (2 * ts.length + 1) ts with
  | some (v, []) => some v
  | _ => none

/-- The value that a text denotes. -/
def ofText? (text : String) : Option Value := (scan text.toList).bind ofTokens?

/-! ## Looking into values -/

/-- The text that a value is, if it is one. -/
def text? : Value → Option String
  | string s => s
  | _ => none

/-- The truth value that a value is, if it is one. -/
def bool? : Value → Option Bool
  | bool b => some b
  | _ => none

/-- The natural number that a value is, if it is one. -/
def nat? : Value → Option Nat
  | number (.natural n) => some n
  | _ => none

/-- The items of an array. -/
def items? : Value → Option (List Value)
  | array vs => some vs
  | _ => none

end Value

/-- The value of the only member of a given key, if there is such a member.  The look-up
fails if the key is repeated. -/
def lookUp (ms : List (Option String × Value)) (key : String) : Option (Option Value) :=
  match ms.filter (fun m => m.1 == some key) with
  | [] => some none
  | [m] => some (some m.2)
  | _ => none

/-- The value of the only member of a given key, which must not be missing. -/
def require (ms : List (Option String × Value)) (key : String) : Option Value :=
  (lookUp ms key).bind id

/-- Whether every key is a text. -/
def keysAreTexts (ms : List (Option String × Value)) : Bool := ms.all (fun m => m.1.isSome)

/-! ## Layout -/

/-- A new line with its indent. -/
def newLine (depth : Nat) : List Char := '\n' :: List.replicate (2 * depth) ' '

/-- Lays tokens out over indented lines.  Nothing is put into an empty array or object. -/
def layOut : (depth : Nat) → List Token → List Char
  | _, [] => []
  | d, .openArray :: .closeArray :: ts => '[' :: ']' :: layOut d ts
  | d, .openObject :: .closeObject :: ts => '\x7b' :: '\x7d' :: layOut d ts
  | d, .openArray :: ts => '[' :: newLine (d + 1) ++ layOut (d + 1) ts
  | d, .openObject :: ts => '\x7b' :: newLine (d + 1) ++ layOut (d + 1) ts
  | d, .closeArray :: ts => newLine (d - 1) ++ ']' :: layOut (d - 1) ts
  | d, .closeObject :: ts => newLine (d - 1) ++ '\x7d' :: layOut (d - 1) ts
  | d, .comma :: ts => ',' :: newLine d ++ layOut d ts
  | d, .colon :: ts => ':' :: ' ' :: layOut d ts
  | d, t :: ts => t.spell ++ layOut d ts

/-- The text of a value without gaps. -/
def Value.compact (v : Value) : String := .ofList (v.tokens.flatMap Token.spell)

/-- The text of a value over indented lines. -/
def Value.pretty (v : Value) : String := .ofList (layOut 0 v.tokens)

end Cron.Json
