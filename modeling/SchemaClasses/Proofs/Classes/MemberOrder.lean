import SchemaClasses.Proofs.Classes.AlikeDocuments
import SchemaClasses.Proofs.Classes.MemberNames
import SchemaClasses.Proofs.Schema.MemberOrder

/-!
# Classes and the order of keywords

A document has the same class with the members of its schemas in another order and without what is
no keyword.  Of all orders in a document the class shows that of its properties, and no other.
-/

namespace SchemaClasses

open Schema Json

variable {namespaceName fileName : String} {document node : Node} {classDef : ClassDef}

theorem ClassDef.keys_eq
    (made : ClassDef.ofDocument namespaceName fileName document = .ok classDef) :
    classDef.properties.map Property.key = document.properties.map Prod.fst := by
  obtain ⟨-, declared, -⟩ := ClassDef.ofDocument_eq_ok_iff.mp made
  exact map_eq_map_of_related declared fun _ _ => ClassDef.Declares.key_eq

/-- The order in which a text gives the keys of properties shows in the class. -/
structure KeyOrderShows : Prop where
  /-- Properties are in the order of their keys in the text. -/
  read : ∀ (depth start : Nat) (entries : List (String × Tree)) (properties : List (String × Node)),
    (entries.map Prod.fst).Nodup →
      readProperties depth (.object start (.ofEntries entries)) = .ok properties →
      properties.map Prod.fst = entries.map Prod.fst
  /-- Documents with the same class have their properties in the same order. -/
  shown : ∀ (namespaceName fileName : String) (first second : Node) (classDef : ClassDef),
    ClassDef.ofDocument namespaceName fileName first = .ok classDef →
      ClassDef.ofDocument namespaceName fileName second = .ok classDef →
      first.properties.map Prod.fst = second.properties.map Prod.fst

theorem keyOrderShows : KeyOrderShows where
  read _ _ _ _ distinct read := keys_readProperties distinct read
  shown _ _ _ _ _ first second := (ClassDef.keys_eq first).symm.trans (ClassDef.keys_eq second)

/-- A text whose document is that of another text, up to the order of members and members that are
no keyword in the objects that stand for schemas, holds the same schema and gives the same output.
Only the order of properties shows. -/
theorem ofDocument_rearranged {first second : String} {node : Node}
    (rearranged : RearrangedDocuments (lay first).1.unplaced (lay second).1.unplaced)
    (read : Node.ofDocument first = .ok node) :
    Node.ofDocument second = .ok node ∧
      (∀ namespaceName fileName sink,
        generateTo namespaceName fileName second sink =
          generateTo namespaceName fileName first sink) ∧
      KeyOrderShows := by
  have withoutPlaces : readNode depthLimit (lay first).1.unplaced = .ok node := by
    have same := (Node.sameReading_ofDocument first).symm
    rw [read] at same
    obtain ⟨_, unplacedRead, rfl⟩ := same.exists_of_ok
    exact unplacedRead
  have same := Node.sameReading_ofDocument second
  rw [readNode_rearranged rearranged withoutPlaces] at same
  obtain ⟨_, again, rfl⟩ := same.exists_of_ok
  exact ⟨again, generateTo_eq_of_alike again read (.refl _), keyOrderShows⟩

/-- A schema with members that are no keywords, one of them in a schema for additional
properties. -/
def annotatedSchema : String :=
  "\x7b\"id\":null,\"type\":\"object\",\"additionalProperties\":" ++
    "\x7b\"unit\":[],\"title\":\"B\",\"type\":\"string\"\x7d\x7d"

/-- The same schema in another order and without annotations. -/
def plainSchema : String :=
  "\x7b\"additionalProperties\":\x7b\"type\":\"string\",\"title\":\"B\"\x7d,\"type\":\"object\"\x7d"

/-- The members of the schema for additional properties in `annotatedSchema`. -/
def annotatedMembers : List (String × Tree) :=
  [("unit", .array 0 .closed), ("title", .string (.ok "B") 0), ("type", .string (.ok "string") 0)]

/-- The members of the schema for additional properties in `plainSchema`. -/
def plainMembers : List (String × Tree) :=
  [("type", .string (.ok "string") 0), ("title", .string (.ok "B") 0)]

theorem unplaced_annotatedSchema :
    (lay annotatedSchema).1.unplaced = .object 0 (.ofEntries [("id", .null 0),
      ("type", .string (.ok "object") 0),
      ("additionalProperties", .object 0 (.ofEntries annotatedMembers))]) := by
  decide +kernel

theorem unplaced_plainSchema :
    (lay plainSchema).1.unplaced = .object 0 (.ofEntries [
      ("additionalProperties", .object 0 (.ofEntries plainMembers)),
      ("type", .string (.ok "object") 0)]) := by
  decide +kernel

theorem rearranged_annotatedSchema :
    RearrangedDocuments (lay annotatedSchema).1.unplaced (lay plainSchema).1.unplaced := by
  have inner : Rearranged (.ofEntries annotatedMembers) (.ofEntries plainMembers) :=
    ⟨annotatedMembers, _, plainMembers, rfl, rfl,
      .leftOut (by decide) (.kept _ (.kept _ .nil)), .swap _ _ _⟩
  have outer : Rearranged
      (.ofEntries [("id", .null 0), ("type", .string (.ok "object") 0),
        ("additionalProperties", .object 0 (.ofEntries plainMembers))])
      (.ofEntries [("additionalProperties", .object 0 (.ofEntries plainMembers)),
        ("type", .string (.ok "object") 0)]) :=
    ⟨_, _, _, rfl, rfl, .leftOut (by decide) (.kept _ (.kept _ .nil)), .swap _ _ _⟩
  rw [unplaced_annotatedSchema, unplaced_plainSchema]
  -- First the schema for additional properties is rearranged, then the one that holds it.
  exact .tail (.single (.object 0 (.unchanged _ _ _ _ (.unchanged _ _ _ _
    (.changed 0 0 rfl (.additional (.here 0 inner)) (.closed _)))))) (.here 0 outer)

theorem ofDocument_plainSchema :
    RearrangedDocuments (lay annotatedSchema).1.unplaced (lay plainSchema).1.unplaced ∧
      ∃ node, Node.ofDocument annotatedSchema = .ok node ∧
        Node.ofDocument plainSchema = .ok node ∧
        (∀ namespaceName fileName sink,
          generateTo namespaceName fileName plainSchema sink =
            generateTo namespaceName fileName annotatedSchema sink) ∧
        KeyOrderShows := by
  have loads : (Node.ofDocument annotatedSchema).toOption.map Node.isObjectTyped = some true := by
    decide +kernel
  obtain ⟨node, read, -⟩ := Steps.toOption_map_eq_some_iff.mp loads
  exact ⟨rearranged_annotatedSchema, node, read,
    ofDocument_rearranged rearranged_annotatedSchema read⟩

end SchemaClasses
