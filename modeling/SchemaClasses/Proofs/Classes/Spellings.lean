import SchemaClasses.Proofs.Classes.AlikeDocuments

/-!
# Classes and the spelling of their schemas

The mapping of a property and the class of a document see what schemas declare, not how they spell
it.  Documents that differ in their spelling only have the same class, or are refused for the same
reason at the same place.
-/

namespace SchemaClasses

open Schema

variable {first second : Node}

theorem Schema.Respelled.memberAlike (respelled : Respelled first second) :
    MemberAlike first second where
  typed := respelled.typedAlike
  initial := respelled.initialValue?_eq
  required := respelled.keywords.required
  description := respelled.keywords.description

theorem Schema.Respelled.documentAlike (respelled : Respelled first second) :
    DocumentAlike first second := by
  obtain ⟨keywords, -, properties, -, parts, -⟩ := respelled
  have references : first.allOf.map Node.reference = second.allOf.map Node.reference :=
    (map_eq_map_of_related parts fun _ _ part => part.keywords.reference.symm).symm
  exact ⟨keywords.types, keywords.title, keywords.description, keywords.required, keywords.keys,
    properties.imp fun _ _ => Respelled.memberAlike, references⟩

namespace ClassDef

/-- A document in another spelling, at any of its nodes, has a class under the same condition, and
the class or what stands in its way is the same, with the pointer to it. -/
theorem ofDocument_eq_of_respelled (respelled : Respelled first second)
    (namespaceName fileName : String) :
    first.isObjectTyped = second.isObjectTyped ∧
      ofDocument namespaceName fileName first = ofDocument namespaceName fileName second :=
  ⟨respelled.documentAlike.isObjectTyped_eq,
    ofDocument_of_alike respelled.documentAlike namespaceName fileName⟩

/-- A document with a matrix, whose schemas name their types and leave out what they can. -/
def terseDocument : Node :=
  { Node.empty with
    typeKeyword := some (.single .object)
    properties := [("matrix", { Node.empty with
      typeKeyword := some (.single .array)
      items := some { Node.empty with
        typeKeyword := some (.single .array)
        items := some { Node.empty with typeKeyword := some (.single .number) } } })]
    anyOf := [{ Node.empty with additional := some (.allowed false) }] }

/-- The same document with its types in lists, null defaults and permissions. -/
def wordyDocument : Node :=
  { Node.empty with
    typeKeyword := some (.several [.object])
    additional := some (.allowed true)
    properties := [("matrix", { Node.empty with
      typeKeyword := some (.several [.array])
      defaultKeyword := some .null
      items := some { Node.empty with
        typeKeyword := some (.single .array)
        additional := some (.allowed false)
        items := some { Node.empty with
          typeKeyword := some (.several [.number])
          defaultKeyword := some .null } } })]
    anyOf := [{ Node.empty with additional := some (.allowed true) }] }

theorem respelled_wordyDocument : Respelled terseDocument wordyDocument := by
  have number : Respelled { Node.empty with typeKeyword := some (.single .number) }
      { Node.empty with
        typeKeyword := some (.several [.number])
        defaultKeyword := some .null } :=
    .of_keywords ⟨.listed _, .written, rfl, rfl, rfl, rfl, rfl, rfl, rfl⟩
      (.permission .absent .absent) rfl rfl rfl rfl
  have branch : Respelled { Node.empty with additional := some (.allowed false) }
      { Node.empty with additional := some (.allowed true) } :=
    .of_keywords ⟨.same _, .same _, rfl, rfl, rfl, rfl, rfl, rfl, rfl⟩
      (.permission (.allowed false) (.allowed true)) rfl rfl rfl rfl
  refine .intro ⟨.listed _, .same _, rfl, rfl, rfl, rfl, rfl, rfl, rfl⟩
    (.permission .absent (.allowed true)) (.cons ?_ .nil) .none .nil (.cons branch .nil)
  refine .intro ⟨.listed _, .written, rfl, rfl, rfl, rfl, rfl, rfl, rfl⟩
    (.permission .absent .absent) .nil (.some ?_) .nil .nil
  exact .intro ⟨.same _, .same _, rfl, rfl, rfl, rfl, rfl, rfl, rfl⟩
    (.permission .absent (.allowed false)) .nil (.some number) .nil .nil

theorem ofDocument_wordyDocument :
    Respelled terseDocument wordyDocument ∧
      terseDocument.isObjectTyped = wordyDocument.isObjectTyped ∧
        ofDocument defaultNamespace "grid.schema.json" terseDocument =
          ofDocument defaultNamespace "grid.schema.json" wordyDocument :=
  ⟨respelled_wordyDocument,
    ofDocument_eq_of_respelled respelled_wordyDocument defaultNamespace "grid.schema.json"⟩

end ClassDef
end SchemaClasses
