import Cron.Hcl.Number
import Cron.Text
import Cron.Text.Identifier

/-! # The tokens of HCL text

HCL is the language of settings files.  Its text is cut into tokens here; spaces, tabs and
comments do not become tokens, while the end of a line does, for it ends a setting.

The language is taken without templates, operators, function calls and exponents: text
that uses these is refused.
-/
namespace Cron.Hcl

/-- The smallest parts of HCL text. -/
inductive Token where
  /-- A name, and whether a blank or a comment stands right behind it. -/
  | name (text : String) (apart : Bool)
  | string (text : String)
  | number (value : Number)
  /-- One of the characters that stand for themselves. -/
  | mark (c : Char)
  | endOfLine
  /-- A carriage return that does not belong to the end of a line. -/
  | strayReturn
  deriving DecidableEq, Repr

/-- The characters that are tokens by themselves. -/
def marks : List Char := ['\x7b', '\x7d', '[', ']', ',', '=', ':', '-']

/-- Whether a name may begin with the character. -/
def beginsName (c : Char) : Bool := Text.beginsIdentifier c || c == '_'

/-- Whether a name may go on with the character. -/
def continuesName (c : Char) : Bool := Text.continuesIdentifier c || c == '-'

/-- Whether a character begins what parts two tokens: a blank, a line end or a comment. -/
def parts (c : Char) : Bool := [' ', '\t', '\n', '\r', '#', '/'].contains c

/-- The character of a code point, if there is one. -/
def charOf? (n : Nat) : Option Char := if n.isValidChar then some (Char.ofNat n) else none

/-- The character that hexadecimal digits denote. -/
def charOfDigits? (cs : List Char) : Option Char := (Text.hexNumber? cs).bind charOf?

/-- Reads a string up to its closing quote, which may stand on a later line.  A dollar or
percent sign before a brace begins a template, and is doubled to stand for itself.  The
characters read so far come last first. -/
def scanString : List Char → List Char → Option (String × List Char)
  | found, '"' :: cs => some (.ofList found.reverse, cs)
  | found, '\\' :: 'u' :: a :: b :: c :: d :: cs =>
    match charOfDigits? [a, b, c, d] with
    | some e => scanString (e :: found) cs
    | none => none
  | found, '\\' :: 'U' :: a :: b :: c :: d :: e :: f :: g :: h :: cs =>
    match charOfDigits? [a, b, c, d, e, f, g, h] with
    | some e => scanString (e :: found) cs
    | none => none
  | found, '\\' :: e :: cs =>
    match Text.shortEscape? e with
    | some c => scanString (c :: found) cs
    | none => none
  | found, '$' :: '$' :: '\x7b' :: cs => scanString ('\x7b' :: '$' :: found) cs
  | found, '%' :: '%' :: '\x7b' :: cs => scanString ('\x7b' :: '%' :: found) cs
  | _, '$' :: '\x7b' :: _ => none
  | _, '%' :: '\x7b' :: _ => none
  | found, c :: cs => if c = '\\' then none else scanString (c :: found) cs
  | _, [] => none

/-- Reads a number, which begins with a digit. -/
def scanNumber (cs : List Char) : Option (Number × List Char) :=
  let whole := cs.takeWhile Char.isDigit
  match cs.dropWhile Char.isDigit with
  | '.' :: rest =>
    let fraction := rest.takeWhile Char.isDigit
    if fraction.isEmpty then none
    else
      let digits := Nat.ofDigitChars 10 (whole ++ fraction) 0
      (Number.ofDecimal? ⟨digits, -fraction.length⟩).map
        (fun n => (n, rest.dropWhile Char.isDigit))
  | rest => (Number.ofNat? (Nat.ofDigitChars 10 whole 0)).map (fun n => (n, rest))

/-- What follows a comment between `/*` and `*/`, whose beginning has been read. -/
def afterComment : List Char → Option (List Char)
  | '*' :: '/' :: cs => some cs
  | _ :: cs => afterComment cs
  | [] => none

/-- What follows a comment that ends with its line.  There is no carriage return in it but
the one that belongs to the end of the line. -/
def afterLine (cs : List Char) : Option (List Char) :=
  match cs.dropWhile (fun c => c != '\n' && c != '\r') with
  | '\r' :: '\n' :: rest => some ('\r' :: '\n' :: rest)
  | '\r' :: _ => none
  | rest => some rest

/-- Reads one token, or one piece of text that is none. -/
def scanPiece : List Char → Option (Option Token × List Char)
  | [] => none
  | '\r' :: '\n' :: cs => some (some .endOfLine, cs)
  | '/' :: '/' :: cs => (afterLine cs).map (fun rest => (none, rest))
  | '/' :: '*' :: cs => (afterComment cs).map (fun rest => (none, rest))
  | c :: cs =>
    if c = ' ' ∨ c = '\t' then some (none, cs)
    else if c = '\n' then some (some .endOfLine, cs)
    else if c = '\r' then some (some .strayReturn, cs)
    else if c = '#' then (afterLine cs).map (fun rest => (none, rest))
    else if c = '"' then (scanString [] cs).map (fun p => (some (.string p.1), p.2))
    else if marks.contains c then some (some (.mark c), cs)
    else if c.isDigit then (scanNumber (c :: cs)).map (fun p => (some (.number p.1), p.2))
    else if beginsName c then
      let rest := cs.dropWhile continuesName
      let text : String := .ofList (c :: cs.takeWhile continuesName)
      some (some (.name text (rest.head?.any parts)), rest)
    else none

/-- Reads tokens until the text ends, and never more than `fuel` characters of it.  The
tokens read so far come last first. -/
def scanAll : (fuel : Nat) → List Token → List Char → Option (List Token)
  | _, found, [] => some found.reverse
  | 0, _, _ :: _ => none
  | fuel + 1, found, c :: cs =>
    match scanPiece (c :: cs) with
    | some (some t, rest) => scanAll fuel (t :: found) rest
    | some (none, rest) => scanAll fuel found rest
    | none => none

/-- The tokens of a text.  Every step takes at least one character off, so the length of
the text is enough to reach its end. -/
def scan (cs : List Char) : Option (List Token) := scanAll cs.length [] cs

end Cron.Hcl
