import SchemaClasses.Proofs.Member.SequenceComparison

/-!
# When an array is written

The predicate of an array holds of the values that differ from the default, and of those in which
the comparison misjudges a number.  A default that spells an integer as a float is such a value
itself.
-/

namespace SchemaClasses

open Literal (AtLeaf Misjudged SameValue SpelledAsFloat)

/-- A condition that holds of what is not empty and differs from the given literals, and besides of
what has a misjudged number in it. -/
structure Condition.HoldsOfDifferences (condition : Condition) (element : Target)
    (defaults : List Literal) : Prop where
  of_no_array : ∀ value, value.asArray? = none → condition.evaluate value = false
  of_empty : condition.evaluate (.array []) = false
  of_values : ∀ values converted, values ≠ [] →
    Literal.sequenceOf? element (.array values) = some converted →
      (condition.evaluate (.array values) = true ↔
        ¬List.Forall₂ SameValue defaults converted ∨
          AtLeaf Misjudged (.sequence defaults) (.array values))

theorem Condition.sequenceDiffers_holdsOfDifferences {field : String} {element : Target}
    {defaults : List Literal} {origins : List Json.Value}
    (made : List.Forall₂ (fun value literal => Literal.ofValue? element value = some literal)
      origins defaults) :
    (sequenceDiffers field defaults).HoldsOfDifferences element defaults where
  of_no_array value noArray := by
    cases value with
    | array values => nomatch noArray
    | null | boolean | number | string | object => rfl
  of_empty := rfl
  of_values values converted notEmpty read := by
    obtain ⟨_, valuesEq, related⟩ := Literal.sequenceOf?_eq_some_iff.mp read
    obtain rfl := Json.Value.array.inj valuesEq
    have compared := Literal.matchesValues_iff (Literal.compares element) made related
    have isEmptyEq : values.isEmpty = false := List.isEmpty_eq_false_iff.mpr notEmpty
    rw [evaluate, isEmptyEq, Bool.not_false, Bool.true_and, Bool.not_eq_true', ← Bool.not_eq_true,
      compared, not_and_or, not_not]

/-- Of the value that the literals are made of, such a condition holds only by misjudging it. -/
theorem Condition.HoldsOfDifferences.of_own_default {condition : Condition} {element : Target}
    {defaults : List Literal} {initial : Json.Value}
    (holds : condition.HoldsOfDifferences element defaults)
    (convertedEq : Literal.sequenceOf? element initial = some defaults) :
    condition.evaluate initial = true ↔ AtLeaf SpelledAsFloat (.sequence defaults) initial := by
  have read : Literal.ofValue? (.arrayOf element) initial = some (.sequence defaults) := by
    rw [Descriptor.ofValue?_arrayOf, convertedEq, Option.map_some]
  have same : List.Forall₂ SameValue defaults defaults :=
    Literal.sameValue_sequence_iff.mp (Literal.sameValue_self read)
  obtain ⟨values, rfl, related⟩ := Literal.sequenceOf?_eq_some_iff.mp convertedEq
  rw [← Literal.atLeaf_misjudged_self_iff read]
  cases related with
  | nil => simp [holds.of_empty, Literal.not_atLeaf_nil]
  | cons _ _ =>
      rw [holds.of_values _ _ (List.cons_ne_nil _ _) convertedEq]
      simp only [same, not_true_eq_false, false_or]

namespace Descriptor

open Schema

variable {key : String} {node : Node} {pointer : Pointer} {items : Option Node}
  {requiredByParent : Bool} {descriptor : Descriptor}

/-- The only predicate of an array holds of its own default if that spells an integer as a float,
and of another value if it differs from the default or if a number in it is misjudged. -/
theorem ofProperty_array_holdsOfDifferences (isArray : node.shape = .array items)
    (mapped : ofProperty key node requiredByParent pointer = .ok descriptor) :
    ∃ element predicate,
      descriptor.target = .array element ∧ descriptor.predicates = [predicate] ∧
        predicate.condition.HoldsOfDifferences element.target
          (startingLiterals node element.target) ∧
        ∀ initial, node.initialValue? = some initial →
          Literal.sequenceOf? element.target initial =
              some (startingLiterals node element.target) ∧
            (predicate.condition.evaluate initial = true ↔
              AtLeaf SpelledAsFloat (.sequence (startingLiterals node element.target))
                initial) := by
  obtain ⟨-, shaped, shapedEq, rfl⟩ := ofProperty_eq_ok_iff.mp mapped
  unfold ofShape at shapedEq
  rw [isArray] at shapedEq
  obtain ⟨element, -, fits, rfl⟩ := ofArray_eq_ok_iff.mp shapedEq
  obtain ⟨origins, made⟩ := startingLiterals_made fits
  have holds : (Condition.sequenceDiffers (Naming.backingName (Naming.publicName key))
      (startingLiterals node element.target)).HoldsOfDifferences element.target
      (startingLiterals node element.target) :=
    Condition.sequenceDiffers_holdsOfDifferences made
  refine ⟨element, _, rfl, rfl, holds, ?_⟩
  intro initial initialEq
  have convertedEq := sequenceOf?_startingLiterals fits initialEq
  exact ⟨convertedEq, holds.of_own_default convertedEq⟩

section FloatDefault

/-- The double one. -/
def doubleOne : Binary64.Finite :=
  ⟨false, Binary64.unitsPerOne, by decide +kernel, 1, 1074, by decide, by decide +kernel⟩

/-- The array `[1.0]`. -/
def spelledOne : Json.Value :=
  .array [.number (.float doubleOne)]

/-- An array of integers whose default is spelled `[1.0]`. -/
def floatDefault : Node :=
  { Node.empty with
    typeKeyword := some (.single .array)
    items := some { Node.empty with typeKeyword := some (.single .integer) }
    defaultKeyword := some spelledOne }

theorem sequenceOf?_spelledOne :
    Literal.sequenceOf? (.scalar .integer) spelledOne = some [.integer 1] := by
  have whole : Literal.integerOf? (.float doubleOne) = some 1 := by decide +kernel
  simp [Literal.sequenceOf?, spelledOne, Json.Value.asArray?, Literal.ofValue?,
    Json.Value.asNumber?, whole]

theorem startingLiterals_floatDefault :
    startingLiterals floatDefault (.scalar .integer) = [.integer 1] := by
  have initialEq : floatDefault.initialValue? = some spelledOne := rfl
  simp only [startingLiterals, initialEq, Option.bind_some, sequenceOf?_spelledOne,
    Option.getD_some]

theorem ofProperty_floatDefault :
    ∃ descriptor, ofProperty "x" floatDefault false .root = .ok descriptor ∧
      descriptor.target = .arrayOf (.scalar .integer) ∧
      ∃ name field,
        descriptor.predicates = [⟨name, .sequenceDiffers field [.integer 1]⟩] := by
  have named : Naming.isMemberName (Naming.publicName "x") = true := by decide
  have itemsEq : ofItems floatDefault.items .root = .ok (bare (.scalar .integer)) := by
    change ofElement { Node.empty with typeKeyword := some (.single .integer) } _ = _
    rw [ofElement]
    rfl
  have fits : DefaultFits floatDefault (.arrayOf (.scalar .integer)) := by
    refine defaultFits_array_iff.mpr ?_
    intro value valueEq
    obtain rfl : spelledOne = value := Option.some.inj valueEq
    exact ⟨_, sequenceOf?_spelledOne⟩
  have shaped : ofShape (Naming.publicName "x") floatDefault .root = .ok _ :=
    ofArray_eq_ok_iff.mpr ⟨_, itemsEq, fits, rfl⟩
  rw [bare, startingLiterals_floatDefault] at shaped
  exact ⟨_, ofProperty_eq_ok_iff.mpr ⟨named, _, shaped, rfl⟩, rfl, _, _, rfl⟩

theorem floatDefault_holdsOfDifferences :
    floatDefault.shape = .array floatDefault.items ∧
      ∃ descriptor element predicate,
        ofProperty "x" floatDefault false .root = .ok descriptor ∧
          descriptor.target = .array element ∧ descriptor.predicates = [predicate] ∧
          predicate.condition.HoldsOfDifferences element.target
            (startingLiterals floatDefault element.target) := by
  have isArray : floatDefault.shape = .array floatDefault.items := rfl
  obtain ⟨descriptor, mapped, -⟩ := ofProperty_floatDefault
  obtain ⟨element, predicate, targetEq, predicatesEq, holds, -⟩ :=
    ofProperty_array_holdsOfDifferences isArray mapped
  exact ⟨isArray, descriptor, element, predicate, mapped, targetEq, predicatesEq, holds⟩

/-- The default `[1.0]` of an array of integers is written, although it is the value that the array
starts with. -/
theorem floatDefault_written :
    ∃ descriptor predicate,
      ofProperty "x" floatDefault false .root = .ok descriptor ∧
        descriptor.target = .arrayOf (.scalar .integer) ∧ descriptor.predicates = [predicate] ∧
        floatDefault.initialValue? = some spelledOne ∧
        startingLiterals floatDefault (.scalar .integer) = [.integer 1] ∧
        Literal.sequenceOf? (.scalar .integer) spelledOne = some [.integer 1] ∧
        List.Forall₂ SameValue [.integer 1] [.integer 1] ∧
        predicate.condition.evaluate spelledOne = true := by
  obtain ⟨descriptor, mapped, targetEq, name, field, predicatesEq⟩ := ofProperty_floatDefault
  have same : SameValue (.integer 1) (.integer 1) := Literal.sameValue_integer_iff.mpr rfl
  exact ⟨descriptor, _, mapped, targetEq, predicatesEq, rfl, startingLiterals_floatDefault,
    sequenceOf?_spelledOne, .cons same .nil, rfl⟩

end FloatDefault

end Descriptor
end SchemaClasses
