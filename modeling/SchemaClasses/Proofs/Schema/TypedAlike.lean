import SchemaClasses.Proofs.Pairing
import SchemaClasses.Proofs.Schema.Spellings

/-!
# Schemas of the same type

The type of a member is read from few of the keywords of its schema: the names of types, the title,
the reference, and the schemas that the shape leads on to.  A branch of an enumeration counts
besides as one that stands for a value or as one that does not.  Schemas that agree in this have the
same shape, up to schemas that agree in it again.
-/

namespace SchemaClasses
namespace Schema

/-- Two schemas agree, at every depth, in what a type is read from. -/
inductive TypedAlike : Node → Node → Prop
  | intro {first second : Node} (types : SameTypes first.typeKeyword second.typeKeyword)
      (title : first.title = second.title) (reference : first.reference = second.reference)
      (additional : SameAdditional TypedAlike first.additional second.additional)
      (items : Option.Rel TypedAlike first.items second.items)
      (anyOf : List.Forall₂ TypedAlike first.anyOf second.anyOf)
      (values : first.anyOf.map Node.isValueBranch = second.anyOf.map Node.isValueBranch) :
      TypedAlike first second

/-- Shapes that lead on to schemas which agree in what a type is read from. -/
inductive Shape.TypedAlike : Shape → Shape → Prop
  | reference (target : String) : TypedAlike (.reference target) (.reference target)
  | array {first second : Option Node} (items : Option.Rel Schema.TypedAlike first second) :
      TypedAlike (.array first) (.array second)
  | enumeration {first second : Node} (fallback : Schema.TypedAlike first second) :
      TypedAlike (.enumeration first) (.enumeration second)
  | dictionary {first second : Node} (values : Schema.TypedAlike first second) :
      TypedAlike (.dictionary first) (.dictionary second)
  | misplacedDictionary : TypedAlike .misplacedDictionary .misplacedDictionary
  | scalar : TypedAlike .scalar .scalar

variable {first second : Node} {branches others : List Node}

section Implications

variable {α : Type} {related implied : Node → Node → Prop}

theorem SameAdditional.imp_of_mem {given other : Option (Additional Node)}
    (same : SameAdditional related given other)
    (implies : ∀ values others, given = some (.schema values) → related values others →
      implied values others) : SameAdditional implied given other := by
  cases same with
  | permission firstIs secondIs => exact .permission firstIs secondIs
  | schema values => exact .schema (implies _ _ rfl values)

theorem rel_imp_of_mem {related implied : α → α → Prop} {given other : Option α}
    (pair : Option.Rel related given other)
    (implies : ∀ left right, given = some left → related left right → implied left right) :
    Option.Rel implied given other := by
  cases pair with
  | none => exact .none
  | some holds => exact .some (implies _ _ rfl holds)

end Implications

/-- Branches of an enumeration that agree as schemas, and in whether they stand for a value. -/
def BranchAlike (first second : Node) : Prop :=
  TypedAlike first second ∧ first.isValueBranch = second.isValueBranch

namespace TypedAlike

theorem types (alike : TypedAlike first second) :
    SameTypes first.typeKeyword second.typeKeyword := by
  cases alike with
  | intro types => exact types

theorem title (alike : TypedAlike first second) : first.title = second.title := by
  cases alike with
  | intro _ title => exact title

theorem reference (alike : TypedAlike first second) : first.reference = second.reference := by
  cases alike with
  | intro _ _ reference => exact reference

theorem isSome_typeKeyword (alike : TypedAlike first second) :
    first.typeKeyword.isSome = second.typeKeyword.isSome :=
  alike.types.isSome_eq

theorem declaredTypes_eq (alike : TypedAlike first second) :
    first.declaredTypes = second.declaredTypes :=
  Node.declaredTypes_eq_of_sameTypes alike.types

theorem isSingleType_eq (alike : TypedAlike first second) (name : TypeName) :
    first.isSingleType name = second.isSingleType name :=
  Node.isSingleType_eq_of_sameTypes alike.types name

theorem trimmedTitle?_eq (alike : TypedAlike first second) :
    first.trimmedTitle? = second.trimmedTitle? := by
  rw [Node.trimmedTitle?, Node.trimmedTitle?, alike.title]

theorem branches_alike (anyOf : List.Forall₂ TypedAlike branches others)
    (values : branches.map Node.isValueBranch = others.map Node.isValueBranch) :
    List.Forall₂ BranchAlike branches others := by
  induction anyOf with
  | nil => exact .nil
  | cons branch _ ih =>
      obtain ⟨sameValue, sameValues⟩ := List.cons.inj values
      exact .cons ⟨branch, sameValue⟩ (ih sameValues)

theorem all_isValueBranch_eq (alike : List.Forall₂ BranchAlike branches others) :
    branches.all Node.isValueBranch = others.all Node.isValueBranch := by
  induction alike with
  | nil => rfl
  | cons branch _ ih => rw [List.all_cons, List.all_cons, branch.2, ih]

/-- A test that related branches pass together picks branches at the same places. -/
theorem filter_alike {test : Node → Bool}
    (agree : ∀ {branch other}, BranchAlike branch other → test branch = test other)
    (alike : List.Forall₂ BranchAlike branches others) :
    List.Forall₂ BranchAlike (branches.filter test) (others.filter test) := by
  refine List.rel_filter (fun branch other related => ?_) alike
  change test branch = true ↔ test other = true
  rw [agree related]

theorem enumerationFallback?_related (alike : TypedAlike first second) :
    Option.Rel TypedAlike first.enumerationFallback? second.enumerationFallback? := by
  unfold Node.enumerationFallback?
  rw [alike.isSome_typeKeyword]
  obtain ⟨-, -, -, -, -, anyOf, values⟩ := alike
  have branches := branches_alike anyOf values
  have typed := filter_alike (fun related => related.1.isSome_typeKeyword) branches
  have untyped :
      List.Forall₂ BranchAlike (first.anyOf.filter (not ∘ fun branch => branch.typeKeyword.isSome))
        (second.anyOf.filter (not ∘ fun branch => branch.typeKeyword.isSome)) :=
    filter_alike (fun related => congrArg not related.1.isSome_typeKeyword) branches
  rw [List.partition_eq_filter_filter, List.partition_eq_filter_filter]
  split
  · exact .none
  · generalize first.anyOf.filter (fun branch => branch.typeKeyword.isSome) = firstTyped at typed ⊢
    generalize second.anyOf.filter (fun branch => branch.typeKeyword.isSome) = secondTyped
      at typed ⊢
    generalize first.anyOf.filter (not ∘ _) = firstUntyped at untyped ⊢
    generalize second.anyOf.filter (not ∘ _) = secondUntyped at untyped ⊢
    -- There is a fallback only beside one branch with a type and some without.
    cases typed with
    | nil => exact .none
    | cons fallback more =>
        cases more with
        | cons => exact .none
        | nil =>
            cases untyped with
            | nil => exact .none
            | cons value values =>
                simp only [all_isValueBranch_eq (.cons value values)]
                split
                · exact .some fallback.1
                · exact .none

theorem shape (alike : TypedAlike first second) : first.shape.TypedAlike second.shape := by
  have fallback := alike.enumerationFallback?_related
  unfold Node.shape
  rw [alike.reference, Node.isObjectTyped, Node.isObjectTyped, alike.isSingleType_eq,
    alike.isSingleType_eq]
  obtain ⟨-, -, -, additional, items, -, -⟩ := alike
  generalize first.enumerationFallback? = firstFallback at fallback ⊢
  generalize second.enumerationFallback? = secondFallback at fallback ⊢
  generalize first.additional = firstAdditional at additional ⊢
  generalize second.additional = secondAdditional at additional ⊢
  cases second.reference with
  | some target => exact .reference target
  | none =>
      cases additional with
      | permission firstIs secondIs =>
          cases firstIs <;> cases secondIs
          all_goals
            simp only
            split
            · exact .array items
            · cases fallback with
              | none => exact .scalar
              | some fallback => exact .enumeration fallback
      | schema values =>
          simp only
          split
          · exact .dictionary values
          · exact .misplacedDictionary

end TypedAlike

namespace Respelled

/-- The nodes that a type may be read from. -/
theorem typeSources (respelled : Respelled first second) :
    SameAdditional Respelled first.additional second.additional ∧
      Option.Rel Respelled first.items second.items ∧
      List.Forall₂ Respelled first.anyOf second.anyOf := by
  obtain ⟨-, additional, -, items, -, anyOf⟩ := respelled
  exact ⟨additional, items, anyOf⟩

/-- A type does not depend on how its schemas are spelled. -/
theorem typedAlike {first second : Node} (respelled : Respelled first second) :
    TypedAlike first second := by
  have keywords := respelled.keywords
  obtain ⟨additional, items, anyOf⟩ := respelled.typeSources
  have values : first.anyOf.map Node.isValueBranch = second.anyOf.map Node.isValueBranch :=
    (map_eq_map_of_related anyOf fun _ _ branch => branch.isValueBranch_eq.symm).symm
  refine .intro keywords.types keywords.title keywords.reference ?_ ?_ ?_ values
  · exact additional.imp_of_mem fun values other valuesEq alike => typedAlike alike
  · exact rel_imp_of_mem items fun node other itemsEq alike => typedAlike alike
  · exact forall₂_imp_of_mem anyOf fun branch other member alike => typedAlike alike
termination_by sizeOf first
decreasing_by
  · exact Node.sizeOf_values_lt valuesEq
  · exact Node.sizeOf_items_lt itemsEq
  · exact Node.sizeOf_branch_lt member

end Respelled

namespace TypedAlike

theorem refl (node : Node) : TypedAlike node node :=
  (Respelled.refl node).typedAlike

/-- A default, required keys, a description, properties, parts and listed or single values play no
part in a type. -/
theorem untyped_keywords {node : Node} (defaultKeyword constant : Option Json.Value)
    (required : List String) (description : Option String) (properties : List (String × Node))
    (allOf : List Node) (enumeration : Option (List Json.Value)) {items : Option Node}
    (alike : Option.Rel TypedAlike node.items items) :
    TypedAlike node
      { node with
        defaultKeyword := defaultKeyword
        constant := constant
        required := required
        description := description
        properties := properties
        allOf := allOf
        enumeration := enumeration
        items := items } :=
  .intro (.same _) rfl rfl (.refl fun values _ => refl values) alike
    (List.forall₂_same.mpr fun branch _ => refl branch) rfl

end TypedAlike

end Schema
end SchemaClasses
