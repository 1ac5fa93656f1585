/-! # Decimals and their nearest binary numbers

A *decimal* is a natural number of units of a power of ten.  A *binary number* is one of
units of a power of two, and holds at most 53 bits: `Binary.nearest` is the binary number
next to a quotient.  Both are exact, and neither has a sign.
-/
namespace Cron

/-- The number `digits * 10 ^ exponent`. -/
structure Decimal where
  digits : Nat
  exponent : Int
  deriving DecidableEq, Repr

/-- The number `significand * 2 ^ exponent`. -/
structure Binary where
  significand : Nat
  exponent : Int
  deriving DecidableEq, Repr

namespace Decimal

/-- The number as a quotient of natural numbers. -/
def quotient (x : Decimal) : Nat × Nat :=
  (x.digits * Nat.pow 10 x.exponent.toNat, Nat.pow 10 (-x.exponent).toNat)

end Decimal

namespace Binary

/-- The quotient of two numbers, rounded to the nearest natural number.  A half goes to the
even neighbour. -/
def roundQuotient (n d : Nat) : Nat :=
  let q := n / d
  let twice := 2 * (n % d)
  if twice < d ∨ (twice = d ∧ q % 2 = 0) then q else q + 1

/-- The quotient `n / d`, counted in units of a power of two. -/
def inUnits (exponent : Int) (n d : Nat) : Nat × Nat :=
  (n <<< (-exponent).toNat, d <<< exponent.toNat)

/-- The exponent of the unit in which `n / d` is written: the least that leaves it below
`2 ^ 53` units, but no unit is finer than `2 ^ -1074`.  The logarithms fix it up to one. -/
def unitOf (n d : Nat) : Int :=
  let guess := max ((n.log2 : Int) - d.log2 - 53) (-1074)
  let (m, k) := inUnits guess n d
  if m < k <<< 53 then guess else guess + 1

/-- The binary number nearest to `n / d`.  Of two that are equally near it is the one with
the even significand. -/
def nearest (n d : Nat) : Binary :=
  let e := unitOf n d
  let (m, k) := inUnits e n d
  let s := roundQuotient m k
  if s = 1 <<< 53 then ⟨1 <<< 52, e + 1⟩ else ⟨s, e⟩

/-- The binary number nearest to a decimal. -/
def ofDecimal (x : Decimal) : Binary := nearest x.quotient.1 x.quotient.2

/-- Whether the number has room in a word of 64 bits. -/
def isFinite (b : Binary) : Bool := b.exponent ≤ 971

/-- The natural number that the binary number is, if it is one. -/
def whole? (b : Binary) : Option Nat :=
  let part := 1 <<< (-b.exponent).toNat
  if b.significand % part = 0 then some ((b.significand <<< b.exponent.toNat) / part) else none

/-- Halfway between two neighbours the even one is taken. -/
example : ofDecimal ⟨9007199254740993, 0⟩ = ⟨4503599627370496, 1⟩ := by decide +kernel
example : (ofDecimal ⟨90071992547409925, -1⟩).whole? = some 9007199254740992 := by decide +kernel
example : (ofDecimal ⟨15, -1⟩).whole? = none := by decide +kernel

/-! ## The shortest decimal

Many decimals have the same nearest binary number: they *read back* as that number.  The
shortest of them is looked for on one grid of decimals after the other, from the coarse
grids to the fine ones.  On a grid only the two neighbours of the number are tried, for if
any decimal of the grid reads back, then one of these does. -/

/-- The number as an exact quotient, counted in units of a power of ten. -/
def inTens (b : Binary) (exponent : Int) : Nat × Nat :=
  ((b.significand <<< b.exponent.toNat) * Nat.pow 10 (-exponent).toNat,
    (1 <<< (-b.exponent).toNat) * Nat.pow 10 exponent.toNat)

/-- The decimal of a grid that reads back.  The nearer neighbour goes before the other, and
of two that are equally near the even one goes first. -/
def onGrid? (b : Binary) (exponent : Int) : Option Decimal :=
  let (n, d) := b.inTens exponent
  let candidates : List Decimal :=
    [roundQuotient n d, n / d, n / d + 1].map (fun c => ⟨c, exponent⟩)
  candidates.find? (fun x => ofDecimal x == b)

/-- The decimal that the number is exactly. -/
def exact (b : Binary) : Decimal :=
  if 0 ≤ b.exponent then ⟨b.significand <<< b.exponent.toNat, 0⟩
  else ⟨b.significand * Nat.pow 5 (-b.exponent).toNat, b.exponent⟩

/-- The exponent of a power of ten above the number, at most two decades above it.  The
decimal logarithm of two lies just below 30103 / 100000. -/
def decade (b : Binary) : Int := (b.significand.log2 + b.exponent + 1) * 30103 / 100000 + 1

/-- The decimal on the first grid that has one that reads back, from the grid of the given
exponent on. -/
def shortestFrom (b : Binary) : (grids : Nat) → (exponent : Int) → Decimal
  | 0, _ => b.exact
  | grids + 1, e =>
    match b.onGrid? e with
    | some x => x
    | none => shortestFrom b grids (e - 1)

/-- The decimal with the fewest digits that reads back as a number that is not zero.
Seventeen digits are enough, and so twenty grids are. -/
def shortest (b : Binary) : Decimal := b.shortestFrom 20 b.decade

example : (ofDecimal ⟨1, -1⟩).shortest = ⟨1, -1⟩ := by decide +kernel
example : (nearest (1 <<< 64) 1).shortest = ⟨18446744073709552, 3⟩ := by decide +kernel

/-- Of two decimals that are equally near the even one is taken. -/
example : (nearest 1 (1 <<< 25)).shortest = ⟨29802322387695312, -24⟩ := by decide +kernel

end Binary
end Cron
