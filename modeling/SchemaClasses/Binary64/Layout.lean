import SchemaClasses.Binary64.Digits

/-!
# Written numbers

How the digits of a number are set out as text.  Every decision is a field of one record, and the
two records of this library are the plain text of generated code and the text of JSON.
-/

namespace SchemaClasses
namespace Binary64

/-- The decisions of a number format. -/
structure Layout where
  /-- Where a magnitude half way between two shortest decimals goes. -/
  tie : Tie
  /-- The exponents of the first digit for which no exponent is written; all of them if absent. -/
  positional : Option (Int × Int)
  /-- Whether a whole number keeps a point and one zero. -/
  keepPoint : Bool

/-- Generated code writes every digit by position, and whole numbers without a point. -/
def plainLayout : Layout := ⟨.up, none, false⟩

/-- JSON text writes small and large numbers with an exponent, and whole numbers with `.0`. -/
def jsonLayout : Layout := ⟨.even, some (-5, 15), true⟩

def zeros (count : Nat) : List Char := List.replicate count '0'

/-- Digits followed by `exponent` zeros, or with a point inside or before them. -/
def positionalText (keepPoint : Bool) (digits : List Char) (exponent : Int) : List Char :=
  if 0 ≤ exponent then
    digits ++ zeros exponent.natAbs ++ (if keepPoint then ['.', '0'] else [])
  else if exponent.natAbs < digits.length then
    let whole := digits.length - exponent.natAbs
    digits.take whole ++ '.' :: digits.drop whole
  else
    '0' :: '.' :: zeros (exponent.natAbs - digits.length) ++ digits

/-- One digit, a point before any others, and the exponent with its sign. -/
def scientificText (digits : List Char) (leading : Int) : List Char :=
  let sign := if leading < 0 then '-' else '+'
  let significand :=
    match digits with
    | [] => []
    | [digit] => [digit]
    | digit :: rest => digit :: '.' :: rest
  significand ++ 'e' :: sign :: Nat.toDigits 10 leading.natAbs

/-- The text of a decimal. -/
def Layout.decimalText (layout : Layout) (decimal : Decimal) : List Char :=
  let digits := Nat.toDigits 10 decimal.digits
  let leading := decimal.exponent + digits.length - 1
  match layout.positional with
  | none => positionalText layout.keepPoint digits decimal.exponent
  | some (least, greatest) =>
      if least ≤ leading ∧ leading ≤ greatest then
        positionalText layout.keepPoint digits decimal.exponent
      else scientificText digits leading

/-- The text of a finite number; both zeros keep their sign. -/
def Layout.finiteText (layout : Layout) (value : Finite) : List Char :=
  let magnitudeText :=
    if value.magnitude.units = 0 then layout.decimalText ⟨0, 0⟩
    else layout.decimalText (shortest layout.tie value.magnitude)
  if value.negative then '-' :: magnitudeText else magnitudeText

def Layout.text (layout : Layout) : Binary64 → String
  | .finite value => String.ofList (layout.finiteText value)
  | .infinite negative => if negative then "-inf" else "inf"
  | .nan => "NaN"

end Binary64
end SchemaClasses
