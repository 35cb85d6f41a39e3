import SchemaClasses.Proofs.Classes.Collisions
import SchemaClasses.Proofs.Naming.BackingFields
import SchemaClasses.Proofs.Text.Blank

/-!
# Fields in a class

The fields of a class share one set of names with the class itself, the accessors and the
predicates.  Where all names come from ASCII texts, two fields have the same name only if their
accessors do, which come first, so that no field is ever the one to collide.
-/

namespace SchemaClasses
namespace ClassDef

open Naming Schema Text

variable {namespaceName fileName name : String} {taken : List String} {document : Node}
  {entry : String × Node} {property : Property} {properties : List Property}

/-- The texts that the names of a class come from are ASCII. -/
structure AsciiNames (fileName : String) (document : Node) : Prop where
  title : ∀ title, document.title = some title → IsAscii title.toList
  fileName : IsAscii fileName.toList
  keys : ∀ entry ∈ document.properties, IsAscii entry.1.toList

theorem AsciiNames.startsRaised_nameOf (ascii : AsciiNames fileName document) :
    StartsRaised (nameOf fileName document) := by
  have ofFile := startsRaised_classNameOfFile ascii.fileName
  unfold nameOf
  cases titleEq : document.trimmedTitle? with
  | none => exact ofFile
  | some title =>
      obtain ⟨given, givenEq, trimmed⟩ := Option.bind_eq_some_iff.mp titleEq
      have titleAscii : IsAscii title.toList := by
        intro c member
        rw [(trimmed?_eq_some_iff.mp trimmed).1] at member
        exact ascii.title given givenEq c (mem_of_mem_trim member)
      simp only [Option.map_some]
      split
      · exact ofFile
      · exact startsRaised_className titleAscii

theorem AsciiNames.isAscii_key (ascii : AsciiNames fileName document)
    (inDocument : entry ∈ document.properties)
    (declared : Declares fileName document.required entry property) :
    IsAscii property.key.toList := by
  rw [declared.key_eq]
  exact ascii.keys entry inDocument

/-- The names of a property are its accessor, its field and its predicates. -/
theorem mem_memberNames_iff : name ∈ property.memberNames ↔
    name = property.name ∨ name = property.backingName ∨
      ∃ predicate ∈ property.descriptor.predicates, predicate.name = name := by
  rw [Property.memberNames, List.mem_cons, List.mem_cons, List.mem_map]

/-- A name of a property is its accessor or a predicate, and not its field. -/
def IsAccessorOrPredicate (property : Property) (name : String) : Prop :=
  name = property.name ∨ ∃ predicate ∈ property.descriptor.predicates, predicate.name = name

theorem startsRaised_of_isAccessorOrPredicate (ascii : IsAscii property.key.toList)
    (declared : Declares fileName document.required entry property)
    (isOther : IsAccessorOrPredicate property name) : StartsRaised name := by
  obtain ⟨nameEq, -, predicateNames⟩ := declared.names
  rcases isOther with rfl | ⟨predicate, member, rfl⟩
  · rw [nameEq]
    exact startsRaised_publicName ascii
  · rw [predicateNames predicate member]
    exact startsRaised_predicateName _

/-- Of the names of a property that cannot be taken the first is not its field: were the field
taken, the accessor, which comes before it, would be so too. -/
theorem isAccessorOrPredicate_of_firstTaken
    (fieldTaken : property.backingName ∈ taken → property.name ∈ taken)
    (fieldDiffers : property.name ≠ property.backingName)
    (first : FirstTaken taken property.memberNames name) : IsAccessorOrPredicate property name := by
  obtain ⟨before, after, namesEq, -, free, twice⟩ := first
  rw [Property.memberNames] at namesEq
  rcases List.cons_eq_append_iff.mp namesEq with ⟨-, startsWith⟩ | ⟨behind, rfl, restEq⟩
  · exact Or.inl (List.cons.inj startsWith).1
  · rcases List.cons_eq_append_iff.mp restEq with ⟨rfl, startsWith⟩ | ⟨inPredicates, rfl, lastEq⟩
    · obtain rfl := (List.cons.inj startsWith).1
      rcases twice with isTaken | isAccessor
      · exact absurd (fieldTaken isTaken) (free property.name List.mem_cons_self)
      · exact absurd (List.mem_singleton.mp isAccessor).symm fieldDiffers
    · have inNames : name ∈ property.descriptor.predicates.map Predicate.name := by
        rw [lastEq]
        exact List.mem_append_right _ List.mem_cons_self
      exact Or.inr (List.mem_map.mp inNames)

/-- A field that is taken has been taken as the field of an earlier property, whose accessor is the
same as well. -/
theorem AsciiNames.accessor_taken {before : List (String × Node)}
    (ascii : AsciiNames fileName document) (within : ∀ entry ∈ before, entry ∈ document.properties)
    (made : List.Forall₂ (Declares fileName document.required) before properties)
    (inDocument : entry ∈ document.properties)
    (declared : Declares fileName document.required entry property)
    (fieldTaken : property.backingName ∈
      (properties.flatMap Property.memberNames).reverse ++ [nameOf fileName document]) :
    property.name ∈
      (properties.flatMap Property.memberNames).reverse ++ [nameOf fileName document] := by
  obtain ⟨nameEq, fieldEq, -⟩ := declared.names
  rcases List.mem_append.mp fieldTaken with earlierName | isClass
  · obtain ⟨earlier, earlierMem, inEarlier⟩ := List.mem_flatMap.mp (List.mem_reverse.mp earlierName)
    obtain ⟨other, otherMem, otherDeclared⟩ := exists_left_of_mem made earlierMem
    have earlierAscii := ascii.isAscii_key (within other otherMem) otherDeclared
    have noAccessorOrPredicate : ¬IsAccessorOrPredicate earlier property.backingName :=
      fun isOther =>
        (startsRaised_of_isAccessorOrPredicate earlierAscii otherDeclared isOther).ne_backingName _
          fieldEq
    rcases mem_memberNames_iff.mp inEarlier with isAccessor | sameField | isPredicate
    · exact absurd (Or.inl isAccessor) noAccessorOrPredicate
    · obtain ⟨otherName, otherField, -⟩ := otherDeclared.names
      rw [fieldEq, otherField, nameEq, otherName] at sameField
      have sameName := publicName_eq_of_backingName_eq (ascii.isAscii_key inDocument declared)
        earlierAscii sameField
      rw [nameEq, sameName, ← otherName]
      refine List.mem_append_left _ (List.mem_reverse.mpr (List.mem_flatMap.mpr ?_))
      exact ⟨earlier, earlierMem, List.mem_cons_self⟩
    · exact absurd (Or.inr isPredicate) noAccessorOrPredicate
  · rw [fieldEq] at isClass
    exact absurd (List.mem_singleton.mp isClass).symm (ascii.startsRaised_nameOf.ne_backingName _)

/-- The fields of a class are apart from its other names, and from each other unless the accessors
are the same already. -/
structure FieldsApart (namespaceName fileName : String) (document : Node) : Prop where
  /-- The name that a collision tells of is an accessor or a predicate, and not a field. -/
  reported : ∀ scope name,
    ofDocument namespaceName fileName document = .error (.collision scope name) →
      (∃ entry ∈ document.properties, ∃ property,
        Declares fileName document.required entry property ∧
          IsAccessorOrPredicate property name) ∧
      ∀ entry ∈ document.properties, name ≠ backingName (publicName entry.1)
  injective : ∀ first ∈ document.properties, ∀ second ∈ document.properties,
    backingName (publicName first.1) = backingName (publicName second.1) →
      publicName first.1 = publicName second.1
  ne_class : ∀ entry ∈ document.properties,
    nameOf fileName document ≠ backingName (publicName entry.1)
  ne_accessor : ∀ first ∈ document.properties, ∀ second ∈ document.properties,
    publicName first.1 ≠ backingName (publicName second.1)
  ne_predicate : ∀ first ∈ document.properties, ∀ second ∈ document.properties,
    predicateName (publicName first.1) ≠ backingName (publicName second.1)

/-- A class whose names come from ASCII texts is never refused for the name of a field. -/
theorem fieldsApart_of_asciiNames (ascii : AsciiNames fileName document) (namespaceName : String) :
    FieldsApart namespaceName fileName document where
  reported := by
    intro scope name failed
    obtain ⟨-, property, before, entry, after, properties, entriesEq, made, declared, first⟩ :=
      exists_collidesAt_of_ofDocument failed
    have inDocument : entry ∈ document.properties := by
      rw [entriesEq]
      exact List.mem_append_right _ List.mem_cons_self
    have within : ∀ earlier ∈ before, earlier ∈ document.properties := by
      intro earlier member
      rw [entriesEq]
      exact List.mem_append_left _ member
    have keyAscii := ascii.isAscii_key inDocument declared
    have fieldDiffers : property.name ≠ property.backingName := by
      rw [declared.names.1, declared.names.2.1]
      exact (startsRaised_publicName keyAscii).ne_backingName _
    have isOther := isAccessorOrPredicate_of_firstTaken
      (ascii.accessor_taken within made inDocument declared) fieldDiffers first
    refine ⟨⟨entry, inDocument, property, declared, isOther⟩, fun other _ => ?_⟩
    exact (startsRaised_of_isAccessorOrPredicate keyAscii declared isOther).ne_backingName _
  injective := fun first firstMem second secondMem =>
    publicName_eq_of_backingName_eq (ascii.keys first firstMem) (ascii.keys second secondMem)
  ne_class := fun _ _ => ascii.startsRaised_nameOf.ne_backingName _
  ne_accessor := fun first firstMem _ _ =>
    (startsRaised_publicName (ascii.keys first firstMem)).ne_backingName _
  ne_predicate := fun _ _ _ _ => (startsRaised_predicateName _).ne_backingName _

/-- A document with a property called like the predicate of a later one. -/
def predicateDocument : Node :=
  { Node.empty with
    title := some "m_items list"
    properties := [
      ("should_serialize_items", { Node.empty with typeKeyword := some (.single .boolean) }),
      ("m_items", { Node.empty with typeKeyword := some (.single .string) }),
      ("items", { Node.empty with typeKeyword := some (.single .array) })] }

theorem fieldsApart_predicateDocument :
    AsciiNames "a.schema.json" predicateDocument ∧
      ofDocument defaultNamespace "a.schema.json" predicateDocument =
        .error (.collision (.members "M_itemsList" "a.schema.json") "ShouldSerializeItems") ∧
      (∃ entry ∈ predicateDocument.properties, ∃ property,
        Declares "a.schema.json" predicateDocument.required entry property ∧
          IsAccessorOrPredicate property "ShouldSerializeItems") ∧
      ∀ entry ∈ predicateDocument.properties,
        "ShouldSerializeItems" ≠ backingName (publicName entry.1) := by
  have ascii : AsciiNames "a.schema.json" predicateDocument := by
    refine ⟨?_, by decide, ?_⟩
    · rintro title ⟨⟩
      decide
    · intro entry member
      simp only [predicateDocument, List.mem_cons, List.not_mem_nil, or_false] at member
      rcases member with rfl | rfl | rfl
      · decide
      · decide
      · decide
  have failed : ofDocument defaultNamespace "a.schema.json" predicateDocument =
      .error (.collision (.members "M_itemsList" "a.schema.json") "ShouldSerializeItems") := by
    cbv
  have apart := fieldsApart_of_asciiNames ascii defaultNamespace
  exact ⟨ascii, failed, apart.reported _ _ failed⟩

end ClassDef
end SchemaClasses
