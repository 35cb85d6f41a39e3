import SchemaClasses.Proofs.CSharp.Types
import SchemaClasses.Proofs.Member.Parts
import SchemaClasses.Proofs.Pairing

/-!
# Literals on one line

The literal for a default stays on one line if the texts in the default have no terminator that
string literals cannot escape.
-/

namespace SchemaClasses

/-- A text stands somewhere in a value. -/
inductive Json.Value.HasText : Json.Value → String → Prop
  | string (text : String) : HasText (.string text) text
  | element {elements : List Json.Value} {element : Json.Value} {text : String}
      (member : element ∈ elements) (has : HasText element text) : HasText (.array elements) text
  | member {members : List (String × Json.Value)} {entry : String × Json.Value} {text : String}
      (member : entry ∈ members) (has : HasText entry.2 text) : HasText (.object members) text

namespace CSharp

variable {target : Target} {value : Json.Value} {literal : Literal} {text : String}

theorem hasText_string_iff {given : String} :
    Json.Value.HasText (.string given) text ↔ text = given := by
  constructor
  · intro has
    cases has
    rfl
  · rintro rfl
    exact .string text

theorem hasText_array_iff {elements : List Json.Value} :
    Json.Value.HasText (.array elements) text ↔ ∃ element ∈ elements, element.HasText text := by
  constructor
  · intro has
    cases has with
    | element member has => exact ⟨_, member, has⟩
  · rintro ⟨element, member, has⟩
    exact .element member has

theorem literalTexts_eq_map (element : Target) (literals : List Literal) :
    literalTexts element literals = literals.map (literalText element) := by
  induction literals with
  | nil => rw [literalTexts, List.map_nil]
  | cons literal rest ih => rw [literalTexts, List.map_cons, ih]

theorem unbroken_literalText_of_scalar {kind : ScalarKind}
    (made : Literal.ofValue? (.scalar kind) value = some literal) :
    Unbroken (literalText target literal) ↔
      ∀ text, value.HasText text → Unbroken (stringLiteral text) := by
  cases value with
  | string given =>
      have literalEq : literal = .string given := by
        cases kind with
        | string | any => exact (Option.some.inj made).symm
        | integer | number | boolean => cases made
      simp only [literalEq, literalText, hasText_string_iff, forall_eq]
  | boolean flag =>
      have literalEq : literal = .boolean flag := by
        cases kind with
        | boolean | any => exact (Option.some.inj made).symm
        | integer | number | string => cases made
      refine iff_of_true ?_ (fun text has => by cases has)
      rw [literalEq, literalText]
      cases flag <;> decide
  | number written =>
      have literalEq :
          (∃ whole, literal = .integer whole) ∨ ∃ double, literal = .number double := by
        cases kind with
        | integer =>
            obtain ⟨whole, -, rfl⟩ := Option.map_eq_some_iff.mp made
            exact Or.inl ⟨whole, rfl⟩
        | number =>
            obtain ⟨double, -, rfl⟩ := Option.map_eq_some_iff.mp made
            exact Or.inr ⟨double, rfl⟩
        | any =>
            simp only [Literal.ofValue?, Literal.ofUntyped?] at made
            split at made
            · exact Or.inl ⟨_, (Option.some.inj made).symm⟩
            · obtain ⟨double, -, rfl⟩ := Option.map_eq_some_iff.mp made
              exact Or.inr ⟨double, rfl⟩
        | string | boolean => cases made
      refine iff_of_true ?_ (fun text has => by cases has)
      rcases literalEq with ⟨whole, rfl⟩ | ⟨double, rfl⟩
      · rw [literalText]
        exact unbroken_integerText whole
      · rw [literalText]
        exact unbroken_append.mpr ⟨unbroken_numberText double, by decide⟩
  | null | array | object => cases kind <;> cases made

/-- The literal of a value is on one line if the texts in the value are. -/
theorem unbroken_literalText_iff (typed : Unbroken (typeText target))
    (made : Literal.ofValue? target value = some literal) :
    Unbroken (literalText target literal) ↔
      ∀ text, value.HasText text → Unbroken (stringLiteral text) := by
  induction target generalizing value literal with
  | scalar kind => exact unbroken_literalText_of_scalar made
  | array element ih =>
      have elementTyped := unbroken_typeText_array.mp typed
      obtain ⟨values, literals, rfl, rfl, related⟩ := Literal.ofValue?_array_eq_some_iff.mp made
      rw [literalText, elementOf, unbroken_arrayText elementTyped, literalTexts_eq_map,
        List.forall_mem_map]
      simp only [hasText_array_iff, forall_exists_index, and_imp]
      constructor
      · intro onLine text value member has
        obtain ⟨literal, literalMem, madeElement⟩ := exists_right_of_mem related member
        exact (ih elementTyped madeElement).mp (onLine literal literalMem) text has
      · intro onLine literal literalMem
        obtain ⟨value, member, madeElement⟩ := exists_left_of_mem related literalMem
        exact (ih elementTyped madeElement).mpr fun text has => onLine text value member has
  | dictionary element => cases made
  | object className => cases made

theorem unbroken_default_iff {node : Schema.Node} (typed : Unbroken (typeText target))
    (fits : Descriptor.DefaultFits node target) :
    (∀ literal, node.initialValue?.bind (Literal.ofValue? target) = some literal →
        Unbroken (literalText target literal)) ↔
      ∀ value, node.initialValue? = some value →
        ∀ text, value.HasText text → Unbroken (stringLiteral text) := by
  constructor
  · intro onLine value initialEq
    obtain ⟨literal, made⟩ := fits value initialEq
    refine (unbroken_literalText_iff typed made).mp (onLine literal ?_)
    rw [initialEq, Option.bind_some, made]
  · intro onLine literal convertedEq
    obtain ⟨value, initialEq, made⟩ := Option.bind_eq_some_iff.mp convertedEq
    exact (unbroken_literalText_iff typed made).mpr (onLine value initialEq)

/-- The literal that a member starts with is on one line if the texts in its default are. -/
theorem unbroken_initial_iff {publicName : String} {node : Schema.Node} {pointer : Pointer}
    {descriptor : Descriptor}
    (shaped : Descriptor.ofShape publicName node pointer = .ok descriptor)
    (typed : Unbroken (typeText descriptor.target)) :
    (∀ literal, descriptor.initial = some literal →
        Unbroken (literalText descriptor.target literal)) ↔
      ∀ value, node.initialValue? = some value →
        ∀ text, value.HasText text → Unbroken (stringLiteral text) := by
  unfold Descriptor.ofShape at shaped
  split at shaped
  · cases shaped
  · cases shaped
  · obtain ⟨element, -, fits, rfl⟩ := Descriptor.ofArray_eq_ok_iff.mp shaped
    cases initialEq : node.initialValue? with
    | none =>
        have noLiterals : Descriptor.startingLiterals node element.target = [] := by
          rw [Descriptor.startingLiterals, initialEq, Option.bind_none, Option.getD_none]
        refine iff_of_true ?_ (fun value absent => by cases absent)
        intro literal literalEq
        obtain rfl := Option.some.inj literalEq
        rw [noLiterals, literalText]
        exact unbroken_emptyArray (unbroken_typeText_array.mp typed)
    | some initial =>
        have made : Literal.ofValue? (.array element) initial =
            some (.sequence (Descriptor.startingLiterals node element.target)) := by
          rw [Descriptor.ofValue?_array, Descriptor.sequenceOf?_startingLiterals fits initialEq,
            Option.map_some]
        simp only [Option.some.injEq, forall_eq']
        exact unbroken_literalText_iff typed made
  · obtain ⟨initialEq, value, -, rfl⟩ := Descriptor.ofDictionary_eq_ok_iff.mp shaped
    rw [initialEq]
    exact iff_of_true (fun literal absent => by cases absent) (fun value absent => by cases absent)
  · obtain ⟨fits, rfl⟩ := Descriptor.ofScalar_eq_ok_iff.mp shaped
    exact unbroken_default_iff typed fits
  · obtain ⟨fits, rfl⟩ := Descriptor.ofScalar_eq_ok_iff.mp shaped
    exact unbroken_default_iff typed fits

end CSharp
end SchemaClasses
