import SchemaClasses.Binary64.Basic

/-!
# The fewest digits that read back

A positive magnitude is written with the fewest decimal digits whose value rounds to it again, and
among those with the digits nearest to it.  For one digit, two digits and so on, the two decimals of
that length around the magnitude are tried; the first length with a hit is taken.
-/

namespace SchemaClasses

/-- The number `digits * 10 ^ exponent`. -/
structure Decimal where
  digits : Nat
  exponent : Int
  deriving DecidableEq, Repr

namespace Decimal

/-- The same number without zeros at the end of its digits, unless it is zero. -/
def strip : Nat → Decimal → Decimal
  | 0, decimal => decimal
  | limit + 1, decimal =>
      if decimal.digits % 10 = 0 ∧ decimal.digits ≠ 0 then
        strip limit ⟨decimal.digits / 10, decimal.exponent + 1⟩
      else decimal

def withoutZeros (decimal : Decimal) : Decimal :=
  strip decimal.digits.log2 decimal

/-- The numerator and the denominator of a decimal. -/
def ratio (decimal : Decimal) : Nat × Nat :=
  if decimal.exponent < 0 then (decimal.digits, Nat.pow 10 decimal.exponent.natAbs)
  else (decimal.digits * Nat.pow 10 decimal.exponent.natAbs, 1)

end Decimal

namespace Binary64

/-- What becomes of a magnitude half way between two decimals that both read back. -/
inductive Tie where
  | up
  | even
  deriving DecidableEq

/-- Whether a decimal rounds to the given magnitude. -/
def readsBack (decimal : Decimal) (magnitude : Magnitude) : Bool :=
  nearest? decimal.ratio.1 decimal.ratio.2 = some magnitude

/-- The exponent of the first decimal digit of a positive magnitude.  The least magnitude is above
`10 ^ (-400)`, which makes the logarithm one of a natural number. -/
def leadingExponent (magnitude : Magnitude) : Int :=
  ((Nat.toDigits 10 (magnitude.units * Nat.pow 10 400 / unitsPerOne)).length : Int) - 401

/-- A magnitude divided by `10 ^ exponent`, as a numerator and a denominator. -/
def scaledRatio (magnitude : Magnitude) (exponent : Int) : Nat × Nat :=
  if exponent < 0 then (magnitude.units * Nat.pow 10 exponent.natAbs, unitsPerOne)
  else (magnitude.units, unitsPerOne * Nat.pow 10 exponent.natAbs)

/-- The better one of the two decimals with the given last place around a magnitude, if one reads
back. -/
def neighbour? (tie : Tie) (magnitude : Magnitude) (exponent : Int) : Option Decimal :=
  let (numerator, denominator) := scaledRatio magnitude exponent
  let below := numerator / denominator
  let low : Decimal := ⟨below, exponent⟩
  let high : Decimal := ⟨below + 1, exponent⟩
  match readsBack low magnitude, readsBack high magnitude with
  | false, false => none
  | true, false => some low
  | false, true => some high
  | true, true =>
      let twice := 2 * (numerator % denominator)
      if twice < denominator then some low
      else if denominator < twice then some high
      else if tie = .even ∧ below % 2 = 0 then some low
      else some high

/-- The first hit among decimals of `count` digits and more, up to `count + remaining - 1`. -/
def search (tie : Tie) (magnitude : Magnitude) (leading : Int) (count : Nat) :
    Nat → Option Decimal
  | 0 => none
  | remaining + 1 =>
      (neighbour? tie magnitude (leading - count + 1)).orElse fun _ =>
        search tie magnitude leading (count + 1) remaining

/-- The magnitude itself as a decimal: `units / 2 ^ 1074 = units * 5 ^ 1074 / 10 ^ 1074`. -/
def exactDecimal (magnitude : Magnitude) : Decimal :=
  ⟨magnitude.units * Nat.pow 5 1074, -1074⟩

/-- The decimal that a positive magnitude is written with. -/
def shortest (tie : Tie) (magnitude : Magnitude) : Decimal :=
  ((search tie magnitude (leadingExponent magnitude) 1 17).getD
    (exactDecimal magnitude)).withoutZeros

end Binary64
end SchemaClasses
