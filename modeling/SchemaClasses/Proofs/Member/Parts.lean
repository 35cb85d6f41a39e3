import SchemaClasses.CSharp.Source
import SchemaClasses.Proofs.Member.Mapping

/-!
# Parts of a member

The type of a member decides which initial value and which predicates it has.  An array starts with
a sequence and is compared with the same one, so that both are spelled alike in the source.
-/

namespace SchemaClasses
namespace Descriptor

open Schema

/-- The initial value and the predicates of a member are those of its type. -/
def FitsTarget (name field : String) (descriptor : Descriptor) : Prop :=
  match descriptor.target with
  | .array _ => ∃ defaults, descriptor.initial = some (.sequence defaults) ∧
      descriptor.predicates = [⟨Naming.predicateName name, .sequenceDiffers field defaults⟩]
  | .dictionary _ => descriptor.initial = none ∧
      descriptor.predicates = [⟨Naming.predicateName name, .notNull field⟩]
  | .scalar _ | .object _ => descriptor.predicates = [] ∧
      ∀ defaults, descriptor.initial ≠ some (.sequence defaults)

variable {publicName key name field : String} {node source : Node} {pointer : Pointer}
  {requiredByParent : Bool} {descriptor : Descriptor} {predicate : Predicate}

theorem scalarTarget_eq (node : Node) :
    (∃ kind, scalarTarget node = .scalar kind) ∨
      ∃ className, scalarTarget node = .object className := by
  unfold scalarTarget objectTarget
  split
  case h_5 =>
    split
    · exact Or.inr ⟨_, rfl⟩
    · exact Or.inl ⟨_, rfl⟩
  all_goals exact Or.inl ⟨_, rfl⟩

theorem fitsTarget_of_ofScalar (shaped : ofScalar node source pointer = .ok descriptor) :
    descriptor.FitsTarget name field ∧ descriptor.wireName? = none := by
  obtain ⟨-, rfl⟩ := ofScalar_eq_ok_iff.mp shaped
  have noSequence : ∀ defaults,
      node.initialValue?.bind (Literal.ofValue? (scalarTarget source)) ≠
        some (.sequence defaults) := by
    intro defaults initialEq
    obtain ⟨value, -, converted⟩ := Option.bind_eq_some_iff.mp initialEq
    rcases scalarTarget_eq source with ⟨kind, targetEq⟩ | ⟨className, targetEq⟩
    · rw [targetEq] at converted
      exact Literal.ofValue?_scalar_ne_sequence converted
    · rw [targetEq] at converted
      nomatch converted
  constructor
  · unfold FitsTarget
    rcases scalarTarget_eq source with ⟨kind, targetEq⟩ | ⟨className, targetEq⟩
    · simpa only [targetEq, true_and] using noSequence
    · simpa only [targetEq, true_and] using noSequence
  · cases node.required.isEmpty <;> rfl

/-- Every shape gives a descriptor whose parts fit together, and leaves the key to its place. -/
theorem fitsTarget_of_ofShape (shaped : ofShape publicName node pointer = .ok descriptor) :
    descriptor.FitsTarget publicName (Naming.backingName publicName) ∧
      descriptor.wireName? = none := by
  unfold ofShape at shaped
  split at shaped
  · nomatch shaped
  · nomatch shaped
  · obtain ⟨element, -, -, rfl⟩ := ofArray_eq_ok_iff.mp shaped
    exact ⟨⟨_, rfl, rfl⟩, rfl⟩
  · obtain ⟨-, value, -, rfl⟩ := ofDictionary_eq_ok_iff.mp shaped
    exact ⟨⟨rfl, rfl⟩, rfl⟩
  · exact fitsTarget_of_ofScalar shaped
  · exact fitsTarget_of_ofScalar shaped

theorem wireName?_finalize (noName : descriptor.wireName? = none) :
    (descriptor.finalize key requiredByParent).wireName? = some key := by
  unfold wireName? at noName ⊢
  unfold finalize
  rw [List.findSome?_append, List.findSome?_append, noName]
  cases requiredByParent <;> cases descriptor.isRequired <;> rfl

theorem fitsTarget_of_ofProperty
    (mapped : ofProperty key node requiredByParent pointer = .ok descriptor) :
    descriptor.FitsTarget (Naming.publicName key) (Naming.backingName (Naming.publicName key)) ∧
      descriptor.wireName? = some key := by
  obtain ⟨-, shaped, shapedEq, rfl⟩ := ofProperty_eq_ok_iff.mp mapped
  obtain ⟨fits, noName⟩ := fitsTarget_of_ofShape shapedEq
  exact ⟨fits, wireName?_finalize noName⟩

/-- The attributes of a property are that it is required, and its key. -/
theorem eq_or_eq_of_mem_attributes {hint : Attribute}
    (mapped : ofProperty key node requiredByParent pointer = .ok descriptor)
    (member : hint ∈ descriptor.attributes) : hint = .required ∨ hint = .wireName key := by
  obtain ⟨-, shaped, shapedEq, rfl⟩ := ofProperty_eq_ok_iff.mp mapped
  obtain ⟨-, noName⟩ := fitsTarget_of_ofShape shapedEq
  unfold finalize at member
  rcases List.mem_append.mp member with earlier | last
  · refine Or.inl ?_
    rcases List.mem_append.mp earlier with ofShape | added
    · have notNamed := List.findSome?_eq_none_iff.mp noName hint ofShape
      cases hint with
      | required => rfl
      | wireName other => nomatch notNamed
    · split at added
      · exact List.mem_singleton.mp added
      · nomatch added
  · exact Or.inr (List.mem_singleton.mp last)

theorem FitsTarget.name_of_mem_predicates (fits : descriptor.FitsTarget name field)
    (member : predicate ∈ descriptor.predicates) :
    predicate.name = Naming.predicateName name := by
  unfold FitsTarget at fits
  split at fits
  · obtain ⟨defaults, -, predicatesEq⟩ := fits
    rw [predicatesEq] at member
    exact List.mem_singleton.mp member ▸ rfl
  · rw [fits.2] at member
    exact List.mem_singleton.mp member ▸ rfl
  · rw [fits.1] at member
    nomatch member
  · rw [fits.1] at member
    nomatch member

end Descriptor

namespace CSharp

variable {property : Property} {element : Target}

/-- The declaration of a field that starts with the value of an expression. -/
def startedField (property : Property) (expression : String) : String :=
  s!"{memberIndent}private {typeText property.descriptor.target} " ++ property.backingName ++
    " = " ++ expression ++ ";"

/-- The condition that a field holds elements and differs from the value of an expression. -/
def differsText (field expression : String) : String :=
  s!"((this.{field} != null) && (this.{field}.Length > 0) && " ++
    s!"(this.{field}.SequenceEqual({expression}) == false))"

/-- The line which returns whether the field of a member differs from the value of an expression. -/
def comparingLine (property : Property) (expression : String) : String :=
  s!"{bodyIndent}return {differsText property.backingName expression};"

theorem literalText_sequence (target : Target) (elements : List Literal) :
    literalText target (.sequence elements) = sequenceText (elementOf target) elements := by
  rw [literalText, sequenceText]

theorem fieldLine_mem_propertyLines (property : Property) :
    fieldLine property ∈ propertyLines property := by
  simp [propertyLines]

theorem mem_propertyLines_of_mem_predicates {predicate : Predicate} {line : String}
    (member : predicate ∈ property.descriptor.predicates)
    (inPredicate : line ∈ predicateLines property.descriptor.target predicate) :
    line ∈ propertyLines property :=
  List.mem_append_right _ (List.mem_flatMap.mpr ⟨predicate, member, inPredicate⟩)

end CSharp
end SchemaClasses
