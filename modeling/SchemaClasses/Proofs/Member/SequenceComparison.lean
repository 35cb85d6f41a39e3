import SchemaClasses.Proofs.Member.Comparison
import SchemaClasses.Proofs.Member.Mapping

/-!
# Comparing sequences

The comparison of scalars, lifted through arrays to any depth: a value equals a literal exactly if
the literal made of it has the same value and no number at any depth is misjudged.
-/

namespace SchemaClasses
namespace Literal

variable {target element : Target} {literal converted : Literal} {origin value : Json.Value}
  {literals converteds : List Literal} {origins values : List Json.Value}

/-- A literal of a scalar type is its only leaf. -/
theorem atLeaf_iff_of_scalar {kind : ScalarKind} {related : Literal → Json.Value → Prop}
    (made : ofValue? (.scalar kind) origin = some literal) :
    AtLeaf related literal value ↔ related literal value := by
  constructor
  · intro atLeaf
    cases atLeaf with
    | leaf here => exact here
    | element member inside => exact absurd made ofValue?_scalar_ne_sequence
  · exact .leaf

/-- A misjudged number inside a sequence is inside one of the elements. -/
theorem atLeaf_sequence_iff :
    AtLeaf Misjudged (.sequence literals) (.array values) ↔
      ∃ literal value, (literal, value) ∈ literals.zip values ∧ AtLeaf Misjudged literal value := by
  constructor
  · intro atLeaf
    cases atLeaf with
    | leaf here => exact absurd here not_misjudged_sequence
    | element member inside => exact ⟨_, _, member, inside⟩
  · rintro ⟨literal, value, member, inside⟩
    exact .element member inside

theorem atLeaf_cons_iff :
    AtLeaf Misjudged (.sequence (literal :: literals)) (.array (value :: values)) ↔
      AtLeaf Misjudged literal value ∨
        AtLeaf Misjudged (.sequence literals) (.array values) := by
  simp only [atLeaf_sequence_iff, List.zip_cons_cons, List.mem_cons, Prod.mk.injEq]
  constructor
  · rintro ⟨_, _, ⟨rfl, rfl⟩ | later, inside⟩
    · exact Or.inl inside
    · exact Or.inr ⟨_, _, later, inside⟩
  · rintro (inside | ⟨other, wire, later, inside⟩)
    · exact ⟨literal, value, Or.inl ⟨rfl, rfl⟩, inside⟩
    · exact ⟨other, wire, Or.inr later, inside⟩

theorem not_atLeaf_nil : ¬AtLeaf Misjudged (.sequence []) (.array values) := by
  rw [atLeaf_sequence_iff]
  rintro ⟨_, _, member, -⟩
  nomatch member

/-- The comparison of a literal with a value, which is itself read as a literal of the same type. -/
def Compares (element : Target) : Prop :=
  ∀ ⦃origin literal value converted⦄, ofValue? element origin = some literal →
    ofValue? element value = some converted →
      (literal.matchesValue value = true ↔
        SameValue literal converted ∧ ¬AtLeaf Misjudged literal value)

/-- Sequences are compared element by element. -/
theorem matchesValues_iff (compares : Compares element)
    (made : List.Forall₂ (fun value literal => ofValue? element value = some literal)
      origins literals)
    (read : List.Forall₂ (fun value literal => ofValue? element value = some literal)
      values converteds) :
    matchesValues literals values = true ↔
      List.Forall₂ SameValue literals converteds ∧
        ¬AtLeaf Misjudged (.sequence literals) (.array values) := by
  induction made generalizing values converteds with
  | nil =>
      cases read with
      | nil => simp [matchesValues, not_atLeaf_nil]
      | cons readEq rest => simp [matchesValues]
  | cons madeEq _ ih =>
      cases read with
      | nil => simp [matchesValues]
      | cons readEq rest =>
          rw [matchesValues, Bool.and_eq_true, compares madeEq readEq, ih rest, atLeaf_cons_iff,
            List.forall₂_cons]
          tauto

theorem compares (target : Target) : Compares target := by
  induction target with
  | scalar kind =>
      intro origin literal value converted made read
      rw [atLeaf_iff_of_scalar made]
      exact scalar_judgedAs made read
  | array element ih =>
      intro origin literal value converted made read
      obtain ⟨origins, literals, rfl, rfl, madeAll⟩ := ofValue?_array_eq_some_iff.mp made
      obtain ⟨values, converteds, rfl, rfl, readAll⟩ := ofValue?_array_eq_some_iff.mp read
      rw [matchesValue, sameValue_sequence_iff]
      exact matchesValues_iff ih madeAll readAll
  | dictionary element =>
      intro origin literal value converted made
      cases made
  | object className =>
      intro origin literal value converted made
      cases made

theorem toBinary64_of_ofValue? {written : Json.Number} {double : Binary64}
    (made : ofValue? target (.number written) = some (.number double)) :
    written.toBinary64 = double := by
  cases target with
  | scalar kind =>
      cases kind with
      | string | boolean => nomatch made
      | integer =>
          obtain ⟨_, -, isNumber⟩ := Option.map_eq_some_iff.mp made
          nomatch isNumber
      | number =>
          obtain ⟨_, doubleEq, isNumber⟩ := Option.map_eq_some_iff.mp made
          obtain rfl := Literal.number.inj isNumber
          obtain ⟨actual, actualEq, rfl⟩ := exists_of_numberOf? doubleEq
          exact actualEq
      | any =>
          cases readsUntyped made with
          | double actualEq beyond => exact actualEq
  | array element =>
      obtain ⟨_, _, isArray, -⟩ := ofValue?_array_eq_some_iff.mp made
      nomatch isArray
  | dictionary element => nomatch made
  | object className => nomatch made

/-- A value in which a number is misjudged against the literal made of the value itself spells an
integer as a float: no zero has the other sign than itself. -/
theorem atLeaf_misjudged_self_iff (made : ofValue? target value = some literal) :
    AtLeaf Misjudged literal value ↔ AtLeaf SpelledAsFloat literal value := by
  constructor
  · intro atLeaf
    induction atLeaf generalizing target with
    | leaf here =>
        rcases here with spelled | opposite
        · exact .leaf spelled
        · cases opposite with
          | intro actualEq expectedZero actualZero signs =>
              have sameDouble := actualEq.symm.trans (toBinary64_of_ofValue? made)
              obtain rfl := Binary64.finite.inj sameDouble
              exact absurd rfl signs
    | element member inside ih =>
        cases target with
        | scalar kind => exact absurd made ofValue?_scalar_ne_sequence
        | array element =>
            obtain ⟨_, _, valuesEq, literalsEq, related⟩ := ofValue?_array_eq_some_iff.mp made
            obtain rfl := Json.Value.array.inj valuesEq
            obtain rfl := Literal.sequence.inj literalsEq
            exact .element member (ih (List.forall₂_zip related.flip member))
        | dictionary element => nomatch made
        | object className => nomatch made
  · intro atLeaf
    clear made
    induction atLeaf with
    | leaf here => exact .leaf (Or.inl here)
    | element member _ ih => exact .element member ih

theorem sameValue_self (made : ofValue? target value = some literal) :
    SameValue literal literal := by
  induction target generalizing value literal with
  | scalar kind =>
      cases kind with
      | string =>
          obtain ⟨text, -, rfl⟩ := Option.map_eq_some_iff.mp made
          exact .string text
      | integer =>
          obtain ⟨whole, -, rfl⟩ := Option.map_eq_some_iff.mp made
          exact .number rfl rfl
      | number =>
          obtain ⟨double, doubleEq, rfl⟩ := Option.map_eq_some_iff.mp made
          obtain ⟨_, _, numberEq⟩ := Option.bind_eq_some_iff.mp doubleEq
          obtain ⟨actual, -, rfl⟩ := exists_of_numberOf? numberEq
          exact .number rfl rfl
      | boolean =>
          obtain ⟨flag, -, rfl⟩ := Option.map_eq_some_iff.mp made
          exact .boolean flag
      | any =>
          cases readsUntyped made with
          | string text => exact .string text
          | boolean flag => exact .boolean flag
          | integer whole inRange fits => exact .number rfl rfl
          | double actualEq beyond => exact .number rfl rfl
  | array element ih =>
      obtain ⟨values, literals, rfl, rfl, related⟩ := ofValue?_array_eq_some_iff.mp made
      clear made
      refine .sequence ?_
      induction related with
      | nil => exact .nil
      | cons readEq _ ihRest => exact .cons (ih readEq) ihRest
  | dictionary element => nomatch made
  | object className => nomatch made

end Literal
end SchemaClasses
