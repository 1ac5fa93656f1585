import Cron.Text

/-! # The tokens of JSON text

JSON text is a sequence of tokens; blanks between them do not matter.  `Token.spell`
writes a token and `scan` cuts a text into its tokens.

A string token holds the text that the string denotes.  There is none if its escapes leave
one half of a surrogate pair: such a string is well formed, and yet it is no Unicode text.
-/
namespace Cron.Json

/-- A number as data writes it. -/
inductive Number where
  /-- A number without sign, fraction or exponent. -/
  | natural (value : Nat)
  /-- Any other number, as it was written. -/
  | other (spelling : List Char)
  deriving DecidableEq, Repr

/-- The smallest parts of JSON text. -/
inductive Token where
  | openArray
  | closeArray
  | openObject
  | closeObject
  | comma
  | colon
  | null
  | bool (value : Bool)
  | number (value : Number)
  | string (text? : Option String)
  deriving DecidableEq, Repr

/-! ## Writing -/

/-- A text between quotes. -/
def quote (text : String) : List Char := '"' :: text.toList.flatMap Text.escapeChar ++ ['"']

/-- The text of a number. -/
def Number.spell : Number → List Char
  | natural n => Numeral.ofNat n
  | other cs => cs

/-- The text of a token.  A string that denotes no text is written as the first half of a
surrogate pair. -/
def Token.spell : Token → List Char
  | openArray => ['[']
  | closeArray => [']']
  | openObject => ['\x7b']
  | closeObject => ['\x7d']
  | comma => [',']
  | colon => [':']
  | null => ['n', 'u', 'l', 'l']
  | bool true => ['t', 'r', 'u', 'e']
  | bool false => ['f', 'a', 'l', 's', 'e']
  | number n => n.spell
  | string (some s) => quote s
  | string none => ['"', '\\', 'u', 'd', '8', '0', '0', '"']

/-! ## Reading strings -/

/-- Whether a code unit is the first half of a surrogate pair. -/
def isHighHalf (u : Nat) : Bool := decide (0xD800 ≤ u) && decide (u < 0xDC00)

/-- Whether a code unit is the second half of a surrogate pair. -/
def isLowHalf (u : Nat) : Bool := decide (0xDC00 ≤ u) && decide (u < 0xE000)

/-- The character that a surrogate pair denotes. -/
def joinHalves (high low : Nat) : Char :=
  Char.ofNat (0x10000 + (high - 0xD800) * 0x400 + (low - 0xDC00))

/-- The second half of a surrogate pair, if the text begins with an escape of one. -/
def lowHalf? : List Char → Option Nat
  | '\\' :: 'u' :: a :: b :: c :: d :: _ => (Text.hexNumber? [a, b, c, d]).filter isLowHalf
  | _ => none

/-- Reads a string up to its closing quote.  The characters read so far come last first;
they are lost once half of a pair was met, and the reading goes on.  The escape of a second
half has six characters. -/
def scanString : Option (List Char) → List Char → Option (Option (List Char) × List Char)
  | found, '"' :: cs => some (found.map List.reverse, cs)
  | found, '\\' :: 'u' :: a :: b :: c :: d :: cs =>
    match Text.hexNumber? [a, b, c, d] with
    | none => none
    | some u =>
      if isHighHalf u then
        match lowHalf? cs with
        | some v => scanString (found.map (joinHalves u v :: ·)) (cs.drop 6)
        | none => scanString none cs
      else if isLowHalf u then scanString none cs
      else scanString (found.map (Char.ofNat u :: ·)) cs
  | found, '\\' :: e :: cs =>
    match Text.shortEscape? e with
    | some c => scanString (found.map (c :: ·)) cs
    | none => none
  | found, c :: cs =>
    if c = '\\' ∨ c.toNat < 0x20 then none else scanString (found.map (c :: ·)) cs
  | _, [] => none
termination_by _ cs => cs.length
decreasing_by all_goals (simp only [List.length_drop, List.length_cons]; omega)

/-! ## Reading numbers -/

/-- Splits off the digits with which a text begins. -/
def spanDigits (cs : List Char) : List Char × List Char :=
  (cs.takeWhile Char.isDigit, cs.dropWhile Char.isDigit)

/-- Reads the sign of a number, which may be missing. -/
def scanMinus : List Char → List Char × List Char
  | '-' :: cs => (['-'], cs)
  | cs => ([], cs)

/-- Reads the whole part of a number.  It begins with a zero only if it is zero. -/
def scanWhole : List Char → Option (List Char × List Char)
  | '0' :: cs => some (['0'], cs)
  | cs =>
    match spanDigits cs with
    | ([], _) => none
    | p => some p

/-- Reads the fraction of a number, which may be missing. -/
def scanFraction : List Char → Option (List Char × List Char)
  | '.' :: cs =>
    match spanDigits cs with
    | ([], _) => none
    | (ds, rest) => some ('.' :: ds, rest)
  | cs => some ([], cs)

/-- Reads the sign of an exponent, which may be missing. -/
def scanSign : List Char → List Char × List Char
  | '+' :: cs => (['+'], cs)
  | '-' :: cs => (['-'], cs)
  | cs => ([], cs)

/-- Reads the exponent of a number, which may be missing. -/
def scanExponent : List Char → Option (List Char × List Char)
  | [] => some ([], [])
  | e :: cs =>
    if e = 'e' ∨ e = 'E' then
      let (sign, cs) := scanSign cs
      match spanDigits cs with
      | ([], _) => none
      | (ds, rest) => some (e :: sign ++ ds, rest)
    else some ([], e :: cs)

/-- Reads a number. -/
def scanNumber (cs : List Char) : Option (Number × List Char) := do
  let (sign, cs) := scanMinus cs
  let (whole, cs) ← scanWhole cs
  let (fraction, cs) ← scanFraction cs
  let (exponent, cs) ← scanExponent cs
  if sign.isEmpty && fraction.isEmpty && exponent.isEmpty then
    return (.natural (Nat.ofDigitChars 10 whole 0), cs)
  else
    return (.other (sign ++ whole ++ fraction ++ exponent), cs)

/-! ## Cutting a text into tokens -/

/-- Whether a character may stand between tokens. -/
def isGap (c : Char) : Bool := c == ' ' || c == '\n' || c == '\t' || c == '\r'

/-- Reads one token from a text that does not begin with a gap. -/
def scanToken : List Char → Option (Token × List Char)
  | '[' :: cs => some (.openArray, cs)
  | ']' :: cs => some (.closeArray, cs)
  | '\x7b' :: cs => some (.openObject, cs)
  | '\x7d' :: cs => some (.closeObject, cs)
  | ',' :: cs => some (.comma, cs)
  | ':' :: cs => some (.colon, cs)
  | 'n' :: 'u' :: 'l' :: 'l' :: cs => some (.null, cs)
  | 't' :: 'r' :: 'u' :: 'e' :: cs => some (.bool true, cs)
  | 'f' :: 'a' :: 'l' :: 's' :: 'e' :: cs => some (.bool false, cs)
  | '"' :: cs => (scanString (some []) cs).map (fun p => (.string (p.1.map .ofList), p.2))
  | cs => (scanNumber cs).map (fun p => (.number p.1, p.2))

/-- Reads tokens until the text ends, and never more than `fuel` characters of it.  The
tokens read so far come last first. -/
def scanAll : (fuel : Nat) → List Token → List Char → Option (List Token)
  | _, found, [] => some found.reverse
  | 0, _, _ :: _ => none
  | fuel + 1, found, c :: cs =>
    if isGap c then scanAll fuel found cs
    else
      match scanToken (c :: cs) with
      | some (t, rest) => scanAll fuel (t :: found) rest
      | none => none

/-- The tokens of a text.  Every step takes at least one character off, so the length of
the text is enough to reach its end. -/
def scan (cs : List Char) : Option (List Token) := scanAll cs.length [] cs

end Cron.Json
