import Cron.Decimal
import Cron.Text

/-! # HCL numbers

A number is an integer of 64 bits, or else a binary number.  A literal without a fraction
is an integer, with room up to `2 ^ 64`; a literal with a fraction denotes the binary
number nearest to it, which counts as an integer again where it is one and has room.  Only
a minus before a literal makes a number negative, and negative integers have room down to
`-2 ^ 63`.
-/
namespace Cron.Hcl

/-- An HCL number. -/
inductive Number where
  | integer (value : Int)
  | fractional (negative : Bool) (size : Binary)
  deriving DecidableEq, Repr

namespace Number

/-- The number of a literal without a fraction. -/
def ofNat? (n : Nat) : Option Number :=
  if n < UInt64.size then some (integer n) else none

/-- The number of a literal with a fraction. -/
def ofDecimal? (x : Decimal) : Option Number :=
  let b := Binary.ofDecimal x
  if b.isFinite then
    match b.whole? with
    | some n => if n < UInt64.size then some (integer n) else some (fractional false b)
    | none => some (fractional false b)
  else none

/-- The number with a minus before it. -/
def negate : Number → Number
  | integer n =>
    if n ≤ 9223372036854775808 then integer (-n) else fractional true (Binary.nearest n.natAbs 1)
  | fractional negative b => fractional (!negative) b

/-- The natural number that the number is, if it is one. -/
def nat? : Number → Option Nat
  | integer n => n.toNat?
  | fractional _ _ => none

/-! ## Writing -/

/-- Drops the zeros at the end of a numeral. -/
def dropZeros (ds : List Char) : List Char := (ds.reverse.dropWhile (· == '0')).reverse

/-- The text of a decimal.  The point stands among the digits, or behind the last of them,
if at most sixteen digits come before it; at most four zeros are put between the point and
the first digit.  All other decimals have an exponent, and then one digit before the point
and no point behind it. -/
def decimalText (x : Decimal) : List Char :=
  let written := Numeral.ofNat x.digits
  let ds := dropZeros written
  let point : Int := written.length + x.exponent
  let zeros (n : Int) : List Char := List.replicate n.toNat '0'
  if 0 < point ∧ point ≤ 16 then
    let fraction := ds.drop point.toNat
    ds.take point.toNat ++ zeros (point - ds.length) ++
      '.' :: (if fraction.isEmpty then ['0'] else fraction)
  else if -5 < point ∧ point ≤ 0 then '0' :: '.' :: zeros (-point) ++ ds
  else
    let sign := if point ≤ 0 then ['-'] else []
    ds.take 1 ++ (if ds.length ≤ 1 then [] else '.' :: ds.drop 1) ++
      'e' :: sign ++ Numeral.ofNat (point - 1).natAbs

/-- The text of a number. -/
def text : Number → List Char
  | integer n => (if n < 0 then ['-'] else []) ++ Numeral.ofNat n.natAbs
  | fractional negative b => (if negative then ['-'] else []) ++ decimalText b.shortest

example : (ofDecimal? ⟨90071992547409930, -1⟩).bind nat? = some 9007199254740992 := by
  decide +kernel
example : (ofDecimal? ⟨123, -9⟩).map text = some ['1', '.', '2', '3', 'e', '-', '7'] := by
  decide +kernel
example : (ofDecimal? ⟨1, -5⟩).map text = some ['0', '.', '0', '0', '0', '0', '1'] := by
  decide +kernel
example : (ofDecimal? ⟨Nat.pow 10 25, -1⟩).map text = some ['1', 'e', '2', '4'] := by decide +kernel
example : (ofDecimal? ⟨15, -1⟩).map (fun n => n.negate.text) = some ['-', '1', '.', '5'] := by
  decide +kernel

end Number
end Cron.Hcl
