import SchemaClasses.Binary64.Layout
import SchemaClasses.Json.Fault

/-!
# Numbers of JSON

A number without a point and an exponent is an integer of 64 bits if it fits one; every other number
is a finite double.  The double is computed from at most 64 bits of digits and one multiplication or
division by a power of ten, so that it may differ from the nearest double in the last place.
-/

namespace SchemaClasses
namespace Json

open Binary64

/-- The integers that have 64 bits with or without a sign. -/
def Number.InRange (value : Int) : Prop :=
  -9223372036854775808 ≤ value ∧ value < 18446744073709551616

instance (value : Int) : Decidable (Number.InRange value) :=
  inferInstanceAs (Decidable (_ ∧ _))

/-- A JSON number: an integer of 64 bits, or a finite double. -/
inductive Number where
  | integer (value : Int) (inRange : Number.InRange value)
  | float (value : Finite)
  deriving DecidableEq

namespace Number

/-- The double nearest to a number. -/
def toBinary64 : Number → Binary64
  | .integer value _ => Binary64.ofInt value
  | .float value => .finite value

/-- The value of an integer of 64 bits with a sign. -/
def toInt64? : Number → Option Int
  | .integer value _ => if value < 9223372036854775808 then some value else none
  | .float _ => none

/-- The JSON text of a number. -/
def text : Number → String
  | .integer value _ => toString value
  | .float value => String.ofList (jsonLayout.finiteText value)

end Number

/-- A number as it is written. -/
structure Numeral where
  negative : Bool
  whole : List Nat
  fraction : Option (List Nat)
  /-- Whether the exponent is negative, its digits, and the offset of its first digit. -/
  exponent : Option (Bool × List Nat × Nat)

namespace Numeral

/-- The digits at the start of a text, and the text after them. -/
def digitsAfter (digits : List Nat) (offset : Nat) : List Char → List Nat × Cursor
  | [] => (digits.reverse, ⟨[], offset⟩)
  | c :: rest =>
      if c.isDigit then digitsAfter ((c.toNat - '0'.toNat) :: digits) (offset + 1) rest
      else (digits.reverse, ⟨c :: rest, offset⟩)

def scanDigits (cursor : Cursor) : List Nat × Cursor :=
  digitsAfter [] cursor.offset cursor.rest

/-- A number that the end of the text cuts off.  A reader misses the value, while a skipper calls
the number invalid. -/
def cutOff (offset : Nat) : Breach :=
  ⟨⟨.endInValue, offset⟩, ⟨.badNumber, offset⟩⟩

/-- The whole part: a zero alone, or digits that do not start with zero. -/
def scanWhole (cursor : Cursor) : Except Breach (List Nat × Cursor) :=
  match cursor.rest with
  | [] => .error (cutOff cursor.offset)
  | c :: rest =>
      if c = '0' then
        match rest with
        | d :: _ =>
            if d.isDigit then .error (.plain .badNumber (cursor.offset + 2))
            else .ok ([0], ⟨rest, cursor.offset + 1⟩)
        | [] => .ok ([0], ⟨rest, cursor.offset + 1⟩)
      else if c.isDigit then .ok (scanDigits cursor)
      else .error (.plain .badNumber (cursor.offset + 1))

/-- The fraction, if a point follows. -/
def scanFraction (cursor : Cursor) : Except Breach (Option (List Nat) × Cursor) :=
  match cursor.rest with
  | '.' :: rest =>
      match scanDigits ⟨rest, cursor.offset + 1⟩ with
      | ([], ⟨[], offset⟩) => .error (cutOff offset)
      | ([], ⟨_ :: _, offset⟩) => .error (.plain .badNumber (offset + 1))
      | (digits, next) => .ok (some digits, next)
  | _ => .ok (none, cursor)

/-- The sign of an exponent, if there is one. -/
def scanSign (cursor : Cursor) : Bool × Cursor :=
  match cursor.rest with
  | '+' :: rest => (false, ⟨rest, cursor.offset + 1⟩)
  | '-' :: rest => (true, ⟨rest, cursor.offset + 1⟩)
  | _ => (false, cursor)

/-- The digits of an exponent after its sign. -/
def scanExponentDigits (negative : Bool) (cursor : Cursor) :
    Except Breach (Option (Bool × List Nat × Nat) × Cursor) :=
  match scanDigits cursor with
  | ([], ⟨[], offset⟩) => .error (cutOff offset)
  | ([], ⟨_ :: _, offset⟩) => .error (.plain .badNumber (offset + 1))
  | (digits, next) => .ok (some (negative, digits, cursor.offset), next)

/-- The exponent, if the letter for it follows. -/
def scanExponent (cursor : Cursor) :
    Except Breach (Option (Bool × List Nat × Nat) × Cursor) :=
  match cursor.rest with
  | c :: rest =>
      if c = 'e' ∨ c = 'E' then
        let (negative, next) := scanSign ⟨rest, cursor.offset + 1⟩
        scanExponentDigits negative next
      else .ok (none, cursor)
  | [] => .ok (none, cursor)

/-- A number from its whole part on. -/
def scanUnsigned (negative : Bool) (cursor : Cursor) : Except Breach (Numeral × Cursor) := do
  let (whole, afterWhole) ← scanWhole cursor
  let (fraction, afterFraction) ← scanFraction afterWhole
  let (exponent, next) ← scanExponent afterFraction
  return (⟨negative, whole, fraction, exponent⟩, next)

/-- A number with its sign. -/
def scan (cursor : Cursor) : Except Breach (Numeral × Cursor) :=
  match cursor.rest with
  | '-' :: rest => scanUnsigned true ⟨rest, cursor.offset + 1⟩
  | _ => scanUnsigned false cursor

/-- The greatest natural number of 64 bits. -/
def greatestSignificand : Nat := 18446744073709551615

/-- The greatest exponent that is computed with. -/
def greatestExponent : Nat := 2147483647

/-- Appends digits to a significand as long as it keeps 64 bits, and gives the digits left over. -/
def absorb (significand : Nat) : List Nat → Nat × List Nat
  | [] => (significand, [])
  | digit :: digits =>
      if significand * 10 + digit ≤ greatestSignificand then
        absorb (significand * 10 + digit) digits
      else (significand, digit :: digits)

/-- The exponent that digits spell, or the number of digits that already exceed the limit. -/
def exponentValue (value count : Nat) : List Nat → Except Nat Nat
  | [] => .ok value
  | digit :: digits =>
      if value * 10 + digit ≤ greatestExponent then
        exponentValue (value * 10 + digit) (count + 1) digits
      else .error (count + 1)

/-- The power of ten nearest to `10 ^ exponent`; all up to 308 are finite. -/
def powerOfTen (exponent : Nat) : Magnitude :=
  (nearest? (Nat.pow 10 exponent) 1).getD .zero

/-- A magnitude divided by `10 ^ exponent`, in steps of at most 308 places. -/
def scaleDown (magnitude : Magnitude) (exponent : Nat) : Magnitude :=
  if exponent ≤ 308 then (magnitude.div? (powerOfTen exponent)).getD .zero
  else if magnitude.units = 0 then magnitude
  else scaleDown ((magnitude.div? (powerOfTen 308)).getD .zero) (exponent - 308)
termination_by exponent

/-- The double for a significand and an exponent, unless it is out of range. -/
def scale? (significand : Nat) (exponent : Int) : Option Magnitude :=
  let magnitude := (nearest? significand 1).getD .zero
  if exponent < 0 then some (scaleDown magnitude exponent.natAbs)
  else if exponent ≤ 308 then magnitude.mul? (powerOfTen exponent.natAbs)
  else if magnitude.units = 0 then some magnitude
  else none

/-- The double of a numeral whose digits give the significand and exponent, and which ends at the
given offset. -/
def floatValue (numeral : Numeral) (significand : Nat) (exponent : Int) (stop : Nat) :
    Except Fault Number :=
  let finish (exponent : Int) : Except Fault Number :=
    match scale? significand exponent with
    | some magnitude => .ok (.float ⟨numeral.negative, magnitude⟩)
    | none => .error ⟨.numberOutOfRange, stop⟩
  match numeral.exponent with
  | none => finish exponent
  | some (negative, digits, offset) =>
      match exponentValue 0 0 digits with
      | .ok value => finish (if negative then exponent - value else exponent + value)
      | .error count =>
          if significand = 0 ∨ negative then .ok (.float ⟨numeral.negative, .zero⟩)
          else .error ⟨.numberOutOfRange, offset + count⟩

/-- The integer of a numeral without point and exponent, or the double nearest to it if it does not
fit.  Minus zero is a double. -/
def integerValue (negative : Bool) (significand : Nat) : Number :=
  let value : Int := if negative then -significand else significand
  if fits : ¬(negative ∧ significand = 0) ∧ Number.InRange value then
    .integer value fits.2
  else .float ⟨negative, (nearest? significand 1).getD .zero⟩

/-- The value of a numeral that ends at the given offset. -/
def value (numeral : Numeral) (stop : Nat) : Except Fault Number :=
  match absorb 0 numeral.whole with
  | (significand, leftOver) =>
      match numeral.fraction, numeral.exponent, leftOver with
      | none, none, [] => .ok (integerValue numeral.negative significand)
      | none, _, _ => floatValue numeral significand leftOver.length stop
      | some fraction, _, _ =>
          match absorb significand fraction with
          | (significand, dropped) =>
              let places := fraction.length - dropped.length
              floatValue numeral significand (leftOver.length - places) stop

end Numeral
end Json
end SchemaClasses
