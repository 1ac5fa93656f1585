/-! # Texts

Texts are read and written as lists of characters.  A *blank* is a character with the Unicode
property White_Space.  Two cuts are made at blanks: `Text.trim` drops them at both ends, and
`Text.words` keeps what stands between them.

An *escape* is what may follow a backslash in a quoted text: a letter that stands for a
character, or hexadecimal digits that give a code point.  Digits are written in lower case and
read in either case.  `Text.escapeChar` tells which characters are written behind a backslash.

A *numeral* is a non-empty run of the ASCII digits.  It denotes a natural number of any
size; where a caller has room for less it says so itself (`UInt32.ofNatClamp`, a bound).
-/
namespace Cron

namespace Text

/-! ## Blanks -/

/-- Whether a character has the Unicode property White_Space. -/
def isBlank (c : Char) : Bool :=
  let n := c.toNat
  (0x9 ≤ n && n ≤ 0xD) || n == 0x20 || n == 0x85 || n == 0xA0 || n == 0x1680 ||
    (0x2000 ≤ n && n ≤ 0x200A) || n == 0x2028 || n == 0x2029 || n == 0x202F ||
    n == 0x205F || n == 0x3000

/-- The text without the blanks at its two ends. -/
def trim (cs : List Char) : List Char :=
  ((cs.dropWhile isBlank).reverse.dropWhile isBlank).reverse

/-- The longest pieces of the text that hold no blank, in order. -/
def words (cs : List Char) : List (List Char) :=
  (cs.splitOnP isBlank).filter (fun w => !w.isEmpty)

example : words [' ', 'a', 'b', '\t', '\u2028', 'c', ' '] = [['a', 'b'], ['c']] := by decide

/-! ## Escapes -/

/-- The character that a backslash and another character denote together. -/
def shortEscape? : Char → Option Char
  | '"' => some '"'
  | '\\' => some '\\'
  | '/' => some '/'
  | 'b' => some '\x08'
  | 'f' => some '\x0c'
  | 'n' => some '\n'
  | 'r' => some '\r'
  | 't' => some '\t'
  | _ => none

/-- The hexadecimal digit of a number below 16. -/
def hexDigit (n : Nat) : Char := Nat.digitChar n

/-- How a character is written between quotes.  Quotes, backslashes and the control
characters below the space are escaped, and all others stand for themselves. -/
def escapeChar (c : Char) : List Char :=
  match c with
  | '"' => ['\\', '"']
  | '\\' => ['\\', '\\']
  | '\x08' => ['\\', 'b']
  | '\x0c' => ['\\', 'f']
  | '\n' => ['\\', 'n']
  | '\r' => ['\\', 'r']
  | '\t' => ['\\', 't']
  | c =>
    if c.toNat < 0x20 then
      ['\\', 'u', '0', '0', hexDigit (c.toNat / 16), hexDigit (c.toNat % 16)]
    else [c]

/-- The number of a hexadecimal digit. -/
def hexValue? (c : Char) : Option Nat :=
  if c.isDigit then some (c.toNat - '0'.toNat)
  else if 'a' ≤ c ∧ c ≤ 'f' then some (c.toNat - 'a'.toNat + 10)
  else if 'A' ≤ c ∧ c ≤ 'F' then some (c.toNat - 'A'.toNat + 10)
  else none

/-- The number that hexadecimal digits denote, the first of them weighing most. -/
def hexNumber? (cs : List Char) : Option Nat :=
  cs.foldlM (fun n c => (hexValue? c).map (16 * n + ·)) 0

example : hexNumber? ['0', '0', 'e', 'F'] = some 239 := by decide

end Text

namespace Numeral

/-! ## Numerals -/

/-- The number that a numeral denotes. -/
def natural? (cs : List Char) : Option Nat :=
  if !cs.isEmpty && cs.all Char.isDigit then some (Nat.ofDigitChars 10 cs 0) else none

/-- The number that a numeral denotes, where one plus sign may stand before it. -/
def unsigned? : List Char → Option Nat
  | '+' :: cs => natural? cs
  | cs => natural? cs

/-- The numeral of a number, without leading zeros. -/
def ofNat (n : Nat) : List Char := Nat.toDigits 10 n

/-- The numeral of a number, filled up with zeros on the left to at least `width` digits. -/
def padded (width n : Nat) : List Char :=
  List.replicate (width - (ofNat n).length) '0' ++ ofNat n

example : unsigned? ['+', '0', '7'] = some 7 := by decide
example : unsigned? ['+', '+', '7'] = none := by decide
example : padded 2 5 = ['0', '5'] := by decide

end Numeral
end Cron
