import Mathlib.Data.List.Forall2
import SchemaClasses.Member.Target
import SchemaClasses.Proofs.Binary64.Integers

/-!
# Comparing values with literals

A value on the wire is compared with a literal by `Literal.matchesValue`, while a literal of the
same type is made of it by `Literal.ofValue?`.  The comparison tells apart what the literals do not
in two cases: a number spelled as a float never equals an integer, and the two zeros are not equal.
-/

namespace SchemaClasses
namespace Literal

open Binary64

/-- The value of a number in units of `2 ^ (-1074)`. -/
def units? : Literal → Option Int
  | .integer value => some (value * unitsPerOne)
  | .number (.finite value) => some value.units
  | _ => none

/-- Literals that stand for the same value: numbers are compared by their value alone, sequences
element by element. -/
inductive SameValue : Literal → Literal → Prop
  | string (text : String) : SameValue (.string text) (.string text)
  | boolean (value : Bool) : SameValue (.boolean value) (.boolean value)
  | number {first second : Literal} {units : Int} (firstUnits : first.units? = some units)
      (secondUnits : second.units? = some units) : SameValue first second
  | sequence {first second : List Literal} (elements : List.Forall₂ SameValue first second) :
      SameValue (.sequence first) (.sequence second)

/-- An integer, and a number that is spelled with a point or an exponent or exceeds 64 bits. -/
inductive SpelledAsFloat : Literal → Json.Value → Prop
  | intro (expected : Int) (actual : Finite) :
      SpelledAsFloat (.integer expected) (.number (.float actual))

/-- The two zeros. -/
inductive OppositeZeros : Literal → Json.Value → Prop
  | intro {expected actual : Finite} {written : Json.Number}
      (actualEq : written.toBinary64 = .finite actual) (expectedZero : expected.units = 0)
      (actualZero : actual.units = 0) (signs : expected.negative ≠ actual.negative) :
      OppositeZeros (.number (.finite expected)) (.number written)

/-- Some literal and some value at the same place inside sequences are related. -/
inductive AtLeaf (related : Literal → Json.Value → Prop) : Literal → Json.Value → Prop
  | leaf {literal : Literal} {value : Json.Value} (here : related literal value) :
      AtLeaf related literal value
  | element {literals : List Literal} {values : List Json.Value} {literal : Literal}
      {value : Json.Value} (member : (literal, value) ∈ literals.zip values)
      (inside : AtLeaf related literal value) : AtLeaf related (.sequence literals) (.array values)

/-- A number that the comparison takes for another one although the values may be the same. -/
def Misjudged (literal : Literal) (value : Json.Value) : Prop :=
  SpelledAsFloat literal value ∨ OppositeZeros literal value

variable {literal converted : Literal} {origin value : Json.Value} {written : Json.Number}

theorem sameValue_of_units {units : Int} (unitsEq : literal.units? = some units) :
    SameValue literal converted ↔ converted.units? = some units := by
  constructor
  · intro same
    cases same with
    | string text => nomatch unitsEq
    | boolean value => nomatch unitsEq
    | number firstUnits secondUnits => rwa [← unitsEq, firstUnits]
    | sequence elements => nomatch unitsEq
  · intro convertedUnits
    exact .number unitsEq convertedUnits

theorem sameValue_string_iff {text : String} :
    SameValue (.string text) converted ↔ converted = .string text := by
  constructor
  · intro same
    cases same with
    | string text => rfl
    | number firstUnits secondUnits => nomatch firstUnits
  · rintro rfl
    exact .string text

theorem sameValue_boolean_iff {flag : Bool} :
    SameValue (.boolean flag) converted ↔ converted = .boolean flag := by
  constructor
  · intro same
    cases same with
    | boolean value => rfl
    | number firstUnits secondUnits => nomatch firstUnits
  · rintro rfl
    exact .boolean flag

theorem sameValue_sequence_iff {first second : List Literal} :
    SameValue (.sequence first) (.sequence second) ↔ List.Forall₂ SameValue first second := by
  constructor
  · intro same
    cases same with
    | number firstUnits secondUnits => nomatch firstUnits
    | sequence elements => exact elements
  · exact .sequence

theorem not_misjudged_string {text : String} : ¬Misjudged (.string text) value := by
  rintro (spelled | opposite)
  · nomatch spelled
  · nomatch opposite

theorem not_misjudged_boolean {flag : Bool} : ¬Misjudged (.boolean flag) value := by
  rintro (spelled | opposite)
  · nomatch spelled
  · nomatch opposite

theorem not_misjudged_sequence {literals : List Literal} :
    ¬Misjudged (.sequence literals) value := by
  rintro (spelled | opposite)
  · nomatch spelled
  · nomatch opposite

theorem misjudged_integer_iff {expected : Int} :
    Misjudged (.integer expected) (.number written) ↔ ∃ actual, written = .float actual := by
  constructor
  · rintro (spelled | opposite)
    · cases spelled with
      | intro _ actual => exact ⟨actual, rfl⟩
    · nomatch opposite
  · rintro ⟨actual, rfl⟩
    exact Or.inl ⟨expected, actual⟩

theorem misjudged_number_iff {expected actual : Finite}
    (actualEq : written.toBinary64 = .finite actual) :
    Misjudged (.number (.finite expected)) (.number written) ↔
      expected.units = 0 ∧ actual.units = 0 ∧ expected.negative ≠ actual.negative := by
  constructor
  · rintro (spelled | opposite)
    · nomatch spelled
    · cases opposite with
      | intro otherEq expectedZero actualZero signs =>
          obtain rfl := finite.inj (actualEq.symm.trans otherEq)
          exact ⟨expectedZero, actualZero, signs⟩
  · rintro ⟨expectedZero, actualZero, signs⟩
    exact Or.inr ⟨actualEq, expectedZero, actualZero, signs⟩

theorem fitInt32?_eq_some_iff {whole result : Int} :
    fitInt32? whole = some result ↔ whole = result ∧ -2147483648 ≤ whole ∧ whole < 2147483648 := by
  unfold fitInt32?
  split
  next fits => simp only [Option.some.injEq, fits, and_self, and_true]
  next beyond => simp only [reduceCtorEq, beyond, and_false]

theorem exists_of_numberOf? {double : Binary64} (doubleEq : numberOf? written = some double) :
    ∃ actual, written.toBinary64 = .finite actual ∧ double = .finite actual := by
  unfold numberOf? at doubleEq
  split at doubleEq
  next actual actualEq =>
    split at doubleEq
    · exact ⟨actual, actualEq, (Option.some.inj doubleEq).symm⟩
    · nomatch doubleEq
  next => nomatch doubleEq

theorem wholeValue?_ofInt_of_ge {whole : Int} (large : 9223372036854775808 ≤ whole) :
    wholeValue? (ofInt whole) = none := by
  cases ofIntEq : ofInt whole with
  | infinite negative => rfl
  | nan => rfl
  | finite double =>
      obtain ⟨-, nearestEq⟩ := ofRatio_eq_finite_iff.mp ofIntEq
      have bound : 2147483649 * unitsPerOne ≤ roundedUnits whole.natAbs 1 :=
        le_roundedUnits (by decide) (by omega)
      rw [← units_of_nearest? nearestEq] at bound
      have unitPos := unitsPerOne_pos
      have beyond : ¬double.magnitude.units ≤ 2147483648 * unitsPerOne := by
        omega
      simp only [wholeValue?, beyond, and_false, if_false]

/-- An integer on the wire is read as itself. -/
theorem eq_of_integerOf?_integer {whole result : Int} {inRange : Json.Number.InRange whole}
    (read : integerOf? (.integer whole inRange) = some result) :
    whole = result ∧ whole < 9223372036854775808 := by
  by_cases small : whole < 9223372036854775808
  · simp only [integerOf?, Json.Number.toInt64?, small, if_true] at read
    exact ⟨(fitInt32?_eq_some_iff.mp read).1, small⟩
  · simp only [integerOf?, Json.Number.toInt64?, small, if_false, Json.Number.toBinary64,
      wholeValue?_ofInt_of_ge (Int.not_lt.mp small)] at read
    nomatch read

/-- A value that the comparison judges by its literal, unless it misjudges a number. -/
def JudgedAs (literal : Literal) (value : Json.Value) (converted : Literal) : Prop :=
  literal.matchesValue value = true ↔ SameValue literal converted ∧ ¬Misjudged literal value

section Numbers

variable {expected whole : Int} {inRange : Json.Number.InRange whole} {actual : Finite}

theorem sameValue_integer_iff :
    SameValue (.integer expected) (.integer whole) ↔ whole = expected := by
  have unitNe : (unitsPerOne : Int) ≠ 0 := by
    have unitPos := unitsPerOne_pos
    omega
  rw [sameValue_of_units rfl, units?, Option.some.injEq, Int.mul_eq_mul_right_iff unitNe]

theorem integer_judgedAs_integer (small : whole < 9223372036854775808) :
    JudgedAs (.integer expected) (.number (.integer whole inRange)) (.integer whole) := by
  have notFloat : ¬Misjudged (.integer expected) (.number (.integer whole inRange)) := by
    rw [misjudged_integer_iff]
    rintro ⟨actual, isFloat⟩
    nomatch isFloat
  simp only [JudgedAs, sameValue_integer_iff, notFloat, not_false_eq_true, and_true, matchesValue,
    Json.Value.asNumber?, Option.bind_some, Json.Number.toInt64?, small, if_true,
    Option.some.injEq, decide_eq_true_eq]

theorem integer_judgedAs_of_float :
    JudgedAs (.integer expected) (.number (.float actual)) converted := by
  have isFloat : Misjudged (.integer expected) (.number (.float actual)) :=
    misjudged_integer_iff.mpr ⟨actual, rfl⟩
  simp [JudgedAs, isFloat, matchesValue, Json.Value.asNumber?, Json.Number.toInt64?]

/-- An integer of more than 32 bits is read as a double, and equals no integer of 32 bits. -/
theorem integer_judgedAs_double (expectedFits : -2147483648 ≤ expected ∧ expected < 2147483648)
    (beyond : ¬(-2147483648 ≤ whole ∧ whole < 2147483648))
    (actualEq : ofInt whole = .finite actual) :
    JudgedAs (.integer expected) (.number (.integer whole inRange)) (.number (.finite actual)) := by
  have otherValue : ¬SameValue (.integer expected) (.number (.finite actual)) := by
    rw [sameValue_of_units rfl, units?, Option.some.injEq]
    exact units_ofInt_ne actualEq beyond expectedFits
  have otherInteger : (Json.Number.integer whole inRange).toInt64? ≠ some expected := by
    intro spelled
    simp only [Json.Number.toInt64?] at spelled
    split at spelled
    · obtain rfl := Option.some.inj spelled
      exact beyond expectedFits
    · nomatch spelled
  simp [JudgedAs, otherValue, matchesValue, Json.Value.asNumber?, otherInteger]

theorem number_judgedAs {expected : Finite} (actualEq : written.toBinary64 = .finite actual)
    (convertedUnits : converted.units? = some actual.units) :
    JudgedAs (.number (.finite expected)) (.number written) converted := by
  have sameIff : SameValue (.number (.finite expected)) converted ↔
      expected.units = actual.units := by
    rw [sameValue_of_units rfl, convertedUnits, Option.some.injEq, eq_comm]
  rw [JudgedAs, sameIff, misjudged_number_iff actualEq, ← Finite.eq_iff, @eq_comm _ expected]
  simp only [matchesValue, Json.Value.asNumber?, Option.map_some, actualEq, Option.some.injEq,
    finite.injEq, decide_eq_true_eq]

end Numbers

theorem string_judgedAs {text : String}
    (readIff : value.asString? = some text ↔ converted = .string text) :
    JudgedAs (.string text) value converted := by
  rw [JudgedAs, sameValue_string_iff, ← readIff]
  simp only [matchesValue, decide_eq_true_eq, not_misjudged_string, not_false_eq_true, and_true]

theorem boolean_judgedAs {flag : Bool}
    (readIff : value.asBoolean? = some flag ↔ converted = .boolean flag) :
    JudgedAs (.boolean flag) value converted := by
  rw [JudgedAs, sameValue_boolean_iff, ← readIff]
  simp only [matchesValue, decide_eq_true_eq, not_misjudged_boolean, not_false_eq_true, and_true]

theorem judgedAs_of_no_number {units : Int} (unitsEq : literal.units? = some units)
    (noNumber : value.asNumber? = none) (noUnits : converted.units? = none) :
    JudgedAs literal value converted := by
  have otherValue : ¬SameValue literal converted := by
    rw [sameValue_of_units unitsEq, noUnits]
    nofun
  have notMatched : literal.matchesValue value = false := by
    cases literal with
    | integer expected => simp [matchesValue, noNumber]
    | number expected => simp [matchesValue, noNumber]
    | string | boolean | sequence => nomatch unitsEq
  simp [JudgedAs, otherValue, notMatched]

/-- What a value without a type of its own is read as: a number as an integer exactly if it is
spelled as one of 32 bits. -/
inductive ReadsUntyped : Json.Value → Literal → Prop
  | string (text : String) : ReadsUntyped (.string text) (.string text)
  | boolean (flag : Bool) : ReadsUntyped (.boolean flag) (.boolean flag)
  | integer (whole : Int) (inRange : Json.Number.InRange whole)
      (fits : -2147483648 ≤ whole ∧ whole < 2147483648) :
      ReadsUntyped (.number (.integer whole inRange)) (.integer whole)
  | double {written : Json.Number} {actual : Finite}
      (actualEq : written.toBinary64 = .finite actual)
      (beyond : ∀ whole inRange, written = .integer whole inRange →
        ¬(-2147483648 ≤ whole ∧ whole < 2147483648)) :
      ReadsUntyped (.number written) (.number (.finite actual))

theorem readsUntyped_number (read : ofUntyped? (.number written) = some converted) :
    ReadsUntyped (.number written) converted := by
  simp only [ofUntyped?] at read
  split at read
  next whole spelled =>
    obtain ⟨integer, integerEq, fitted⟩ := Option.bind_eq_some_iff.mp spelled
    obtain ⟨rfl, fits⟩ := fitInt32?_eq_some_iff.mp fitted
    obtain rfl := Option.some.inj read
    cases written with
    | float actual => nomatch integerEq
    | integer other inRange =>
        simp only [Json.Number.toInt64?] at integerEq
        split at integerEq
        · obtain rfl := Option.some.inj integerEq
          exact .integer other inRange fits
        · nomatch integerEq
  next notSpelled =>
    obtain ⟨double, doubleEq, rfl⟩ := Option.map_eq_some_iff.mp read
    obtain ⟨actual, actualEq, rfl⟩ := exists_of_numberOf? doubleEq
    refine .double actualEq ?_
    rintro whole inRange rfl fits
    have below : whole < 9223372036854775808 := by omega
    simp only [Json.Number.toInt64?, below, if_true, Option.bind_some,
      fitInt32?_eq_some_iff.mpr ⟨rfl, fits⟩] at notSpelled
    nomatch notSpelled

theorem readsUntyped (read : ofUntyped? value = some converted) :
    ReadsUntyped value converted := by
  cases value with
  | string text =>
      obtain rfl := Option.some.inj read
      exact .string text
  | boolean flag =>
      obtain rfl := Option.some.inj read
      exact .boolean flag
  | number written => exact readsUntyped_number read
  | null | array | object => nomatch read

theorem untyped_judgedAs (made : ReadsUntyped origin literal)
    (read : ReadsUntyped value converted) : JudgedAs literal value converted := by
  cases made with
  | string text =>
      apply string_judgedAs
      cases read <;> simp [Json.Value.asString?]
  | boolean flag =>
      apply boolean_judgedAs
      cases read <;> simp [Json.Value.asBoolean?]
  | integer expected _ expectedFits =>
      cases read with
      | string text => exact judgedAs_of_no_number rfl rfl rfl
      | boolean flag => exact judgedAs_of_no_number rfl rfl rfl
      | integer whole inRange fits => exact integer_judgedAs_integer (by omega)
      | double actualEq beyond =>
          rename_i written actual
          cases written with
          | integer whole inRange =>
              exact integer_judgedAs_double expectedFits (beyond whole inRange rfl) actualEq
          | float other => exact integer_judgedAs_of_float
  | double _ _ =>
      cases read with
      | string text => exact judgedAs_of_no_number rfl rfl rfl
      | boolean flag => exact judgedAs_of_no_number rfl rfl rfl
      | integer whole inRange fits =>
          obtain ⟨actual, actualEq, -, unitsEq⟩ :=
            ofInt_of_natAbs_lt (n := whole) (by omega)
          exact number_judgedAs actualEq (by rw [units?, unitsEq])
      | double actualEq beyond => exact number_judgedAs actualEq rfl

theorem scalar_judgedAs {kind : ScalarKind} (made : ofValue? (.scalar kind) origin = some literal)
    (read : ofValue? (.scalar kind) value = some converted) : JudgedAs literal value converted := by
  cases kind with
  | string =>
      obtain ⟨text, -, rfl⟩ := Option.map_eq_some_iff.mp made
      obtain ⟨other, otherEq, rfl⟩ := Option.map_eq_some_iff.mp read
      apply string_judgedAs
      simp [otherEq]
  | boolean =>
      obtain ⟨flag, -, rfl⟩ := Option.map_eq_some_iff.mp made
      obtain ⟨other, otherEq, rfl⟩ := Option.map_eq_some_iff.mp read
      apply boolean_judgedAs
      simp [otherEq]
  | integer =>
      obtain ⟨expected, -, rfl⟩ := Option.map_eq_some_iff.mp made
      obtain ⟨actual, actualEq, rfl⟩ := Option.map_eq_some_iff.mp read
      obtain ⟨written, writtenEq, integerEq⟩ := Option.bind_eq_some_iff.mp actualEq
      cases value with
      | number other =>
          obtain rfl := Option.some.inj writtenEq
          cases other with
          | integer whole inRange =>
              obtain ⟨rfl, small⟩ := eq_of_integerOf?_integer integerEq
              exact integer_judgedAs_integer small
          | float double => exact integer_judgedAs_of_float
      | null | boolean | string | array | object => nomatch writtenEq
  | number =>
      obtain ⟨expected, expectedEq, rfl⟩ := Option.map_eq_some_iff.mp made
      obtain ⟨actual, actualEq, rfl⟩ := Option.map_eq_some_iff.mp read
      obtain ⟨_, -, madeEq⟩ := Option.bind_eq_some_iff.mp expectedEq
      obtain ⟨written, writtenEq, doubleEq⟩ := Option.bind_eq_some_iff.mp actualEq
      obtain ⟨_, -, rfl⟩ := exists_of_numberOf? madeEq
      obtain ⟨double, wireEq, rfl⟩ := exists_of_numberOf? doubleEq
      cases value with
      | number other =>
          obtain rfl := Option.some.inj writtenEq
          exact number_judgedAs wireEq rfl
      | null | boolean | string | array | object => nomatch writtenEq
  | any => exact untyped_judgedAs (readsUntyped made) (readsUntyped read)

end Literal
end SchemaClasses
