import SchemaClasses.Proofs.Classes.MemberNames

/-!
# Attributes of members

The attributes of a member are its key, and in front of that a mark if the member is required.  Two
lists can require it: that of the enclosing document, by the key of the member, and that of its own
schema, by not being empty, if the schema is read as a scalar.
-/

namespace SchemaClasses

open Schema

/-- A schema whose member has the type of a scalar or an object. -/
def Schema.Node.IsReadAsScalar (node : Node) : Prop :=
  node.shape = .scalar ∨ ∃ fallback, node.shape = .enumeration fallback

/-- A schema that is read as a scalar has required names of its own. -/
def Schema.Node.MarksItself (node : Node) : Prop :=
  node.IsReadAsScalar ∧ node.required ≠ []

/-- A document with another list of required names than its own. -/
def Schema.Node.withRequired (document : Node) (required : List String) : Node :=
  { document with required := required }

namespace Descriptor

variable {publicName key : String} {node source : Node} {pointer : Pointer}
  {requiredByParent : Bool} {descriptor : Descriptor}

theorem attributes_of_ofScalar (readAsScalar : node.IsReadAsScalar)
    (shaped : ofScalar node source pointer = .ok descriptor) :
    (node.MarksItself ∧ descriptor.attributes = [.required]) ∨
      (¬node.MarksItself ∧ descriptor.attributes = []) := by
  obtain ⟨-, rfl⟩ := ofScalar_eq_ok_iff.mp shaped
  by_cases noneRequired : node.required = []
  · exact Or.inr ⟨fun marks => marks.2 noneRequired, by simp [noneRequired]⟩
  · exact Or.inl ⟨⟨readAsScalar, noneRequired⟩, by simp [noneRequired]⟩

/-- What a schema says by itself marks a member as required, or adds no attributes at all. -/
theorem attributes_of_ofShape (shaped : ofShape publicName node pointer = .ok descriptor) :
    (node.MarksItself ∧ descriptor.attributes = [.required]) ∨
      (¬node.MarksItself ∧ descriptor.attributes = []) := by
  unfold ofShape at shaped
  split at shaped
  · nomatch shaped
  · nomatch shaped
  · next items shapeEq =>
      obtain ⟨element, -, -, rfl⟩ := ofArray_eq_ok_iff.mp shaped
      have notScalar : ¬node.IsReadAsScalar := by simp [Node.IsReadAsScalar, shapeEq]
      exact Or.inr ⟨fun marks => notScalar marks.1, rfl⟩
  · next values shapeEq =>
      obtain ⟨-, value, -, rfl⟩ := ofDictionary_eq_ok_iff.mp shaped
      have notScalar : ¬node.IsReadAsScalar := by simp [Node.IsReadAsScalar, shapeEq]
      exact Or.inr ⟨fun marks => notScalar marks.1, rfl⟩
  · next fallback shapeEq => exact attributes_of_ofScalar (Or.inr ⟨fallback, shapeEq⟩) shaped
  · next shapeEq => exact attributes_of_ofScalar (Or.inl shapeEq) shaped

/-- A mark that the schema has made already is not made again for the enclosing object. -/
theorem attributes_finalize_of_marked (marked : descriptor.attributes = [.required]) :
    (descriptor.finalize key requiredByParent).attributes = [.required, .wireName key] := by
  have isRequired : descriptor.isRequired = true := by
    rw [isRequired, marked]
    decide
  simp [finalize, isRequired, marked]

theorem attributes_finalize_of_bare (unmarked : descriptor.attributes = []) :
    (descriptor.finalize key requiredByParent).attributes =
      if requiredByParent then [.required, .wireName key] else [.wireName key] := by
  have notRequired : descriptor.isRequired = false := by
    rw [isRequired, unmarked]
    decide
  cases requiredByParent <;> simp [finalize, notRequired, unmarked]

theorem attributes_of_ofProperty
    (mapped : ofProperty key node requiredByParent pointer = .ok descriptor) :
    ((requiredByParent = true ∨ node.MarksItself) ∧
        descriptor.attributes = [.required, .wireName key]) ∨
      (¬(requiredByParent = true ∨ node.MarksItself) ∧
        descriptor.attributes = [.wireName key]) := by
  obtain ⟨-, shaped, shapedEq, rfl⟩ := ofProperty_eq_ok_iff.mp mapped
  rcases attributes_of_ofShape shapedEq with ⟨marks, marked⟩ | ⟨marksNot, bare⟩
  · exact Or.inl ⟨Or.inr marks, attributes_finalize_of_marked marked⟩
  · rw [attributes_finalize_of_bare bare]
    cases requiredByParent with
    | true => exact Or.inl ⟨Or.inl rfl, rfl⟩
    | false => exact Or.inr ⟨by simpa using marksNot, rfl⟩

end Descriptor

namespace ClassDef

variable {namespaceName className fileName : String} {required others taken : List String}
  {document : Node} {entry : String × Node} {entries : List (String × Node)} {property : Property}
  {classDef : ClassDef}

/-- The attributes of the member for an entry of a document. -/
structure ExactAttributes (document : Node) (entry : String × Node) (property : Property) :
    Prop where
  key_eq : property.key = entry.1
  attributes : property.descriptor.attributes = [.wireName entry.1] ∨
    property.descriptor.attributes = [.required, .wireName entry.1]
  required_iff : Attribute.required ∈ property.descriptor.attributes ↔
    entry.1 ∈ document.required ∨ entry.2.MarksItself

theorem Declares.exactAttributes (declared : Declares fileName document.required entry property) :
    ExactAttributes document entry property := by
  obtain ⟨descriptor, mapped, rfl⟩ := propertyOf_eq_ok_iff.mp declared
  have listed_iff : document.required.contains entry.1 = true ↔ entry.1 ∈ document.required := by
    rw [List.contains_iff_mem]
  rcases Descriptor.attributes_of_ofProperty mapped with ⟨requires, attributesEq⟩ |
    ⟨requiresNot, attributesEq⟩
  · refine ⟨rfl, Or.inr attributesEq, ?_⟩
    rw [listed_iff] at requires
    exact iff_of_true (by simp [attributesEq]) requires
  · refine ⟨rfl, Or.inl attributesEq, ?_⟩
    rw [listed_iff] at requiresNot
    exact iff_of_false (by simp [attributesEq]) requiresNot

/-- Lists of required names that agree on the keys of properties give the same members. -/
theorem propertiesOf_eq_of_agree
    (agree : ∀ entry ∈ entries, entry.1 ∈ required ↔ entry.1 ∈ others) :
    propertiesOf className fileName required taken entries =
      propertiesOf className fileName others taken entries := by
  induction entries generalizing taken with
  | nil => rfl
  | cons entry rest ih =>
      obtain ⟨key, node⟩ := entry
      have sameMark : required.contains key = others.contains key := by
        rw [Bool.eq_iff_iff, List.contains_iff_mem, List.contains_iff_mem]
        exact agree (key, node) List.mem_cons_self
      have sameProperty : propertyOf fileName required key node =
          propertyOf fileName others key node := by
        rw [propertyOf, propertyOf, sameMark]
      have restAgree : ∀ entry ∈ rest, entry.1 ∈ required ↔ entry.1 ∈ others := fun entry member =>
        agree entry (List.mem_cons_of_mem _ member)
      rw [propertiesOf, propertiesOf, sameProperty]
      refine bind_congr fun property => ?_
      cases takeNames taken property.memberNames with
      | error name => rfl
      | ok grown => simp only [ih restAgree]

/-- Of the required names of a document only the keys of its properties count. -/
theorem ofDocument_withRequired
    (agree : ∀ entry ∈ document.properties, entry.1 ∈ required ↔ entry.1 ∈ document.required) :
    ofDocument namespaceName fileName (document.withRequired required) =
      ofDocument namespaceName fileName document := by
  have sameProperties :
      propertiesOf (nameOf fileName document) fileName required [nameOf fileName document]
          document.properties =
        propertiesOf (nameOf fileName document) fileName document.required
          [nameOf fileName document] document.properties :=
    propertiesOf_eq_of_agree agree
  have sameName : nameOf fileName (document.withRequired required) = nameOf fileName document := rfl
  simp only [ofDocument, sameName]
  simp only [Node.withRequired, sameProperties]

/-- Every member of a class is written under its key, and is required exactly if the document lists
the key or its own schema, read as a scalar, requires something; the other names that the document
requires make no difference. -/
theorem ofDocument_exactAttributes
    (made : ofDocument namespaceName fileName document = .ok classDef) :
    List.Forall₂ (ExactAttributes document) document.properties classDef.properties ∧
      ∀ required : List String,
        (∀ entry ∈ document.properties, entry.1 ∈ required ↔ entry.1 ∈ document.required) →
        ofDocument namespaceName fileName (document.withRequired required) = .ok classDef := by
  obtain ⟨-, declared, -, -⟩ := ofDocument_eq_ok_iff.mp made
  refine ⟨declared.imp fun entry property => Declares.exactAttributes, ?_⟩
  intro required agree
  rw [ofDocument_withRequired agree, made]

/-- A document whose properties are required by the document, by themselves, by both and, as an
array cannot require itself, by neither; and which requires a name that is none of theirs. -/
def requiringDocument : Node :=
  { Node.empty with
    required := ["both", "listed", "absent", "listed"]
    properties := [
      ("listed", { Node.empty with typeKeyword := some (.single .integer) }),
      ("marked", { Node.empty with required := ["x"] }),
      ("both", { Node.empty with typeKeyword := some (.single .string), required := ["x", "y"] }),
      ("list", { Node.empty with typeKeyword := some (.single .array), required := ["x"] })] }

theorem exactAttributes_requiringDocument :
    ∃ classDef, ofDocument defaultNamespace "a.schema.json" requiringDocument = .ok classDef ∧
      classDef.properties.map (fun property => property.descriptor.attributes) =
        [[.required, .wireName "listed"], [.required, .wireName "marked"],
          [.required, .wireName "both"], [.wireName "list"]] ∧
      List.Forall₂ (ExactAttributes requiringDocument) requiringDocument.properties
        classDef.properties ∧
      ofDocument defaultNamespace "a.schema.json"
        (requiringDocument.withRequired ["listed", "both"]) = .ok classDef := by
  have attributesEq : (ofDocument defaultNamespace "a.schema.json" requiringDocument).toOption.map
      (fun classDef => classDef.properties.map fun property => property.descriptor.attributes) =
        some [[.required, .wireName "listed"], [.required, .wireName "marked"],
          [.required, .wireName "both"], [.wireName "list"]] := by
    decide +kernel
  obtain ⟨classDef, made, listed⟩ := Steps.toOption_map_eq_some_iff.mp attributesEq
  obtain ⟨exact, unaffected⟩ := ofDocument_exactAttributes made
  refine ⟨classDef, made, listed, exact, unaffected _ ?_⟩
  simp [requiringDocument]

end ClassDef
end SchemaClasses
