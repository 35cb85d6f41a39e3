import SchemaClasses.Json.Value

/-!
# Default literals

The values that members start with.  Integers fit 32 bits with a sign, and numbers are finite and
fit single precision.
-/

namespace SchemaClasses

inductive Literal where
  | string (text : String)
  | integer (value : Int)
  | number (value : Binary64)
  | boolean (value : Bool)
  | sequence (elements : List Literal)

namespace Literal

/-- The integers of 32 bits. -/
def fitInt32? (value : Int) : Option Int :=
  if -2147483648 ≤ value ∧ value < 2147483648 then some value else none

/-- The integer that a double stands for, if it is whole and at most `2 ^ 31` in magnitude. -/
def wholeValue? : Binary64 → Option Int
  | .finite value =>
      let units := value.magnitude.units
      if units % Binary64.unitsPerOne = 0 ∧ units ≤ 2147483648 * Binary64.unitsPerOne then
        let magnitude : Int := (units / Binary64.unitsPerOne : Nat)
        some (if value.negative then -magnitude else magnitude)
      else none
  | _ => none

/-- The 32-bit integer that a number stands for, however it is spelled. -/
def integerOf? (written : Json.Number) : Option Int :=
  match written.toInt64? with
  | some value => fitInt32? value
  | none => (wholeValue? written.toBinary64).bind fitInt32?

/-- The greatest finite number of single precision, in units. -/
def greatestSingle : Nat := 16777215 * (1 <<< 104) * Binary64.unitsPerOne

/-- The double nearest to a number, if it does not exceed single precision. -/
def numberOf? (written : Json.Number) : Option Binary64 :=
  match written.toBinary64 with
  | .finite value =>
      if value.magnitude.units ≤ greatestSingle then some (.finite value) else none
  | _ => none

/-- The literal for a value of any kind: an integer if it is spelled as one and fits. -/
def ofUntyped? : Json.Value → Option Literal
  | .string text => some (.string text)
  | .boolean value => some (.boolean value)
  | .number written =>
      match written.toInt64?.bind fitInt32? with
      | some value => some (.integer value)
      | none => (numberOf? written).map .number
  | _ => none

mutual

/-- Whether a value on the wire equals a literal.  Doubles are equal if they are the same number,
which tells the two zeros apart. -/
def matchesValue : Literal → Json.Value → Bool
  | .string text, value => value.asString? = some text
  | .integer expected, value => value.asNumber?.bind Json.Number.toInt64? = some expected
  | .number expected, value => value.asNumber?.map Json.Number.toBinary64 = some expected
  | .boolean expected, value => value.asBoolean? = some expected
  | .sequence expected, .array values => matchesValues expected values
  | .sequence _, _ => false

/-- Whether values equal literals one by one, without any left over. -/
def matchesValues : List Literal → List Json.Value → Bool
  | [], [] => true
  | literal :: literals, value :: values =>
      literal.matchesValue value && matchesValues literals values
  | _, _ => false

end

end Literal
end SchemaClasses
