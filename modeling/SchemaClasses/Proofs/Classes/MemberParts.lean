import SchemaClasses.Proofs.Classes.MemberNames

/-!
# Consistent members

A member has its names from the class and its parts from the mapping rules, each derived on its own.
They agree: the predicate reads the field of the member, and the field starts with the sequence that
the predicate compares it with.
-/

namespace SchemaClasses

/-- The parts of a member belong to each other, and an array starts in the source with the
expression that it is compared with. -/
structure Property.Consistent (property : Property) : Prop where
  wireName : property.descriptor.wireName? = some property.key
  fits : property.descriptor.FitsTarget property.name property.backingName
  spelledAlike : ∀ element, property.descriptor.target = .array element → ∃ expression,
    CSharp.fieldLine property = CSharp.startedField property expression ∧
      CSharp.startedField property expression ∈ CSharp.propertyLines property ∧
      CSharp.comparingLine property expression ∈ CSharp.propertyLines property

theorem Descriptor.FitsTarget.spelledAlike {property : Property} {element : Descriptor}
    (fits : property.descriptor.FitsTarget property.name property.backingName)
    (isArray : property.descriptor.target = .array element) : ∃ expression,
      CSharp.fieldLine property = CSharp.startedField property expression ∧
        CSharp.startedField property expression ∈ CSharp.propertyLines property ∧
        CSharp.comparingLine property expression ∈ CSharp.propertyLines property := by
  unfold FitsTarget at fits
  rw [isArray] at fits
  obtain ⟨defaults, initialEq, predicatesEq⟩ := fits
  have fieldEq : CSharp.fieldLine property =
      CSharp.startedField property (CSharp.sequenceText element.target defaults) := by
    unfold CSharp.fieldLine CSharp.startedField
    simp only [initialEq, isArray, CSharp.literalText_sequence, CSharp.elementOf]
  refine ⟨_, fieldEq, fieldEq ▸ CSharp.fieldLine_mem_propertyLines property, ?_⟩
  refine CSharp.mem_propertyLines_of_mem_predicates (predicatesEq ▸ List.mem_singleton_self _) ?_
  rw [isArray]
  exact List.mem_cons_of_mem _ (List.mem_cons_of_mem _ List.mem_cons_self)

namespace ClassDef

variable {namespaceName fileName : String} {document : Schema.Node} {classDef : ClassDef}

theorem Declares.consistent {required : List String} {entry : String × Schema.Node}
    {property : Property} (declared : Declares fileName required entry property) :
    property.Consistent := by
  obtain ⟨descriptor, mapped, propertyEq⟩ := propertyOf_eq_ok_iff.mp declared
  obtain ⟨descriptorFits, wireName⟩ := Descriptor.fitsTarget_of_ofProperty mapped
  have fits : property.descriptor.FitsTarget property.name property.backingName := by
    rw [propertyEq]
    exact descriptorFits
  refine ⟨?_, fits, fun element isArray => fits.spelledAlike isArray⟩
  rw [propertyEq]
  exact wireName

/-- The parts of every member of a class belong to each other. -/
theorem ofDocument_consistent (made : ofDocument namespaceName fileName document = .ok classDef) :
    ∀ property ∈ classDef.properties, property.Consistent := by
  intro property member
  obtain ⟨-, declared, -, -⟩ := ofDocument_eq_ok_iff.mp made
  obtain ⟨entry, -, entryDeclared⟩ := exists_left_of_mem declared member
  exact entryDeclared.consistent

theorem consistent_assetDocument :
    ∃ classDef,
      ofDocument defaultNamespace "asset.schema.json" assetDocument = .ok classDef ∧
        classDef.properties.map (fun property => property.descriptor.target.text) =
          ["array of string", "integer", "dictionary of string"] ∧
        ∀ property ∈ classDef.properties, property.Consistent := by
  have targetsEq :
      (ofDocument defaultNamespace "asset.schema.json" assetDocument).toOption.map
          (fun classDef =>
            classDef.properties.map fun property => property.descriptor.target.text) =
        some ["array of string", "integer", "dictionary of string"] := by
    decide +kernel
  obtain ⟨classDef, made, mappedTo⟩ := Steps.toOption_map_eq_some_iff.mp targetsEq
  exact ⟨classDef, made, mappedTo, ofDocument_consistent made⟩

end ClassDef
end SchemaClasses
