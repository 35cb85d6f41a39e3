import SchemaClasses.Proofs.Classes.MemberNames
import SchemaClasses.Proofs.Naming.Identifiers

/-!
# Identifiers of a class

Of the names in a class only the accessors are checked, and the names of fields and predicates
follow them.  The class itself has an identifier for its name where its title is made of words, or
where its file name begins with a letter.
-/

namespace SchemaClasses
namespace ClassDef

open Naming Schema Text

variable {namespaceName fileName title : String} {required : List String} {document : Node}
  {entry : String × Node} {property : Property} {classDef : ClassDef}

/-- What the names in a class are made of, and how they begin. -/
structure WellNamed (fileName : String) (document : Node) (classDef : ClassDef) : Prop where
  members : ∀ property ∈ classDef.properties, ∀ name ∈ property.memberNames,
    IsIdentifierFrom property.key.toList name
  titled : ∀ title, document.trimmedTitle? = some title → IsPlainTitle title →
    IsIdentifierFrom title.toList classDef.name
  untitled : document.trimmedTitle? = none → LetterFirst (stemOf fileName) →
    IsIdentifierFrom fileName.toList classDef.name

theorem Declares.isMemberName (declared : Declares fileName required entry property) :
    isMemberName property.name = true := by
  obtain ⟨descriptor, mapped, rfl⟩ := propertyOf_eq_ok_iff.mp declared
  exact (Descriptor.ofProperty_eq_ok_iff.mp mapped).1

theorem Declares.isIdentifierFrom (declared : Declares fileName required entry property) :
    ∀ name ∈ property.memberNames, IsIdentifierFrom property.key.toList name := by
  have starts := declared.isMemberName
  obtain ⟨nameEq, fieldEq, predicateEq⟩ := declared.names
  rw [nameEq] at starts
  intro name member
  rw [Property.memberNames, List.mem_cons, List.mem_cons, List.mem_map] at member
  rcases member with rfl | rfl | ⟨predicate, isPredicate, rfl⟩
  · rw [nameEq]
    exact isIdentifierFrom_publicName starts
  · rw [fieldEq, nameEq]
    exact isIdentifierFrom_backingName _
  · rw [predicateEq predicate isPredicate, nameEq]
    exact isIdentifierFrom_predicateName _

theorem nameOf_of_isPlainTitle (titleEq : document.trimmedTitle? = some title)
    (plainTitle : IsPlainTitle title) (fileName : String) :
    nameOf fileName document = className title := by
  refine nameOf_of_trimmedTitle titleEq ?_ fileName
  intro isEmpty
  obtain ⟨first, rest, nameEq, -⟩ := isMemberName_iff.mp plainTitle.isIdentifierFrom.start
  rw [isEmpty] at nameEq
  nomatch nameEq

theorem nameOf_of_untitled (untitled : document.trimmedTitle? = none) (fileName : String) :
    nameOf fileName document = classNameOfFile fileName := by
  unfold nameOf
  rw [untitled, Option.map_none]

/-- In a class that is made the members have identifiers for their names, and so has the class
itself where its title or its file name allows for one. -/
theorem ofDocument_wellNamed
    (made : ofDocument namespaceName fileName document = .ok classDef) :
    WellNamed fileName document classDef := by
  obtain ⟨-, declared, -, classEq⟩ := ofDocument_eq_ok_iff.mp made
  have nameEq : classDef.name = nameOf fileName document := congrArg ClassDef.name classEq
  constructor
  · intro property member
    obtain ⟨entry, -, entryDeclares⟩ := exists_left_of_mem declared member
    exact entryDeclares.isIdentifierFrom
  · intro title titleEq plainTitle
    rw [nameEq, nameOf_of_isPlainTitle titleEq plainTitle]
    exact plainTitle.isIdentifierFrom
  · intro untitled letterFirst
    rw [nameEq, nameOf_of_untitled untitled]
    exact isIdentifierFrom_classNameOfFile letterFirst

/-- A document with keys whose first letters fall apart in upper case. -/
def markedDocument : Node :=
  { Node.empty with
    title := some "Line_2 heights"
    typeKeyword := some (.single .object)
    properties := [
      ("\u1E96eight", { Node.empty with typeKeyword := some (.single .number) }),
      ("\u01F0oints", { Node.empty with
        typeKeyword := some (.single .array)
        items := some { Node.empty with typeKeyword := some (.single .string) } })] }

theorem exists_markedClass :
    ∃ classDef, ofDocument defaultNamespace "a.schema.json" markedDocument = .ok classDef ∧
      classDef.declaredNames =
        ["Line_2Heights", "H\u0331eight", "m_h\u0331eight", "J\u030Coints", "m_j\u030Coints",
          "ShouldSerializeJ\u030Coints"] := by
  have namesEq :
      (ofDocument defaultNamespace "a.schema.json" markedDocument).toOption.map declaredNames =
        some ["Line_2Heights", "H\u0331eight", "m_h\u0331eight", "J\u030Coints", "m_j\u030Coints",
          "ShouldSerializeJ\u030Coints"] := by
    decide +kernel
  exact Steps.toOption_map_eq_some_iff.mp namesEq

theorem wellNamed_markedDocument :
    ∃ classDef, ofDocument defaultNamespace "a.schema.json" markedDocument = .ok classDef ∧
      classDef.declaredNames =
        ["Line_2Heights", "H\u0331eight", "m_h\u0331eight", "J\u030Coints", "m_j\u030Coints",
          "ShouldSerializeJ\u030Coints"] ∧
      WellNamed "a.schema.json" markedDocument classDef := by
  obtain ⟨classDef, made, namesEq⟩ := exists_markedClass
  exact ⟨classDef, made, namesEq, ofDocument_wellNamed made⟩

/-- A mark that is no letter, digit or underscore gets into a class with the upper case of a key. -/
theorem markedDocument_names_mark :
    markedDocument.isObjectTyped = true ∧
      ∃ classDef, ofDocument defaultNamespace "a.schema.json" markedDocument = .ok classDef ∧
        publicName "\u1E96eight" ∈ classDef.declaredNames ∧
        '\u0331' ∈ (publicName "\u1E96eight").toList ∧
        isWordCharacter '\u0331' = false ∧ '\u0331' ≠ '_' := by
  have nameEq : publicName "\u1E96eight" = "H\u0331eight" := by decide +kernel
  obtain ⟨classDef, made, namesEq⟩ := exists_markedClass
  refine ⟨by decide, classDef, made, ?_, ?_, by decide +kernel, by decide⟩
  · rw [namesEq, nameEq]
    decide
  · rw [nameEq]
    decide

end ClassDef
end SchemaClasses
