import SchemaClasses.Failure
import SchemaClasses.Member.Mapping

/-!
# Generated classes

One class per document: its name, and a member for each declared property in the order of the
schema.  No two names of a class are the same, its own among them.
-/

namespace SchemaClasses

/-- A public member with its private field. -/
structure Property where
  name : String
  backingName : String
  /-- The key of the schema that the member is written under. -/
  key : String
  descriptor : Descriptor
  doc : Option String

/-- The names that a property adds to its class. -/
def Property.memberNames (property : Property) : List String :=
  property.name :: property.backingName :: property.descriptor.predicates.map Predicate.name

/-- The namespace of the classes of a run that names none. -/
def defaultNamespace : String := "glTFLoader.Schema"

structure ClassDef where
  name : String
  namespaceName : String
  description : Option String
  /-- The name of the file whose document the class is made from. -/
  sourceFile : String
  properties : List Property

namespace ClassDef

/-- The first property with a public name. -/
def property? (classDef : ClassDef) (name : String) : Option Property :=
  classDef.properties.find? fun property => property.name = name

/-- The class name of a document: from its title, or else from the name of its file. -/
def nameOf (fileName : String) (document : Schema.Node) : String :=
  match document.trimmedTitle?.map Naming.className with
  | some name => if name.isEmpty then Naming.classNameOfFile fileName else name
  | none => Naming.classNameOfFile fileName

/-- The references among the parts of a document, from the given index on. -/
def composedReference? (index : Nat) : List Schema.Node → Option Unsupported
  | [] => none
  | part :: parts =>
      match part.reference with
      | some target =>
          some ⟨Pointer.root.join "allOf" (toString index), .composedReference target⟩
      | none => composedReference? (index + 1) parts

/-- Adds names one by one to those taken, up to the first that is taken already. -/
def takeNames (taken : List String) : List String → Except String (List String)
  | [] => .ok taken
  | name :: names =>
      if name ∈ taken then .error name else takeNames (name :: taken) names

/-- The property for a key of the document. -/
def propertyOf (fileName : String) (required : List String) (key : String)
    (node : Schema.Node) : Except Failure Property := do
  let pointer := Pointer.root.join "properties" key
  let descriptor ←
    (Descriptor.ofProperty key node (required.contains key) pointer).mapError
      (.unsupported fileName)
  let name := Naming.publicName key
  return {
    name
    backingName := Naming.backingName name
    key
    descriptor
    doc := node.description.bind Text.trimmed? }

/-- The properties of a class of which some names are taken. -/
def propertiesOf (className fileName : String) (required : List String)
    (taken : List String) : List (String × Schema.Node) → Except Failure (List Property)
  | [] => .ok []
  | (key, node) :: rest => do
      let property ← propertyOf fileName required key node
      match takeNames taken property.memberNames with
      | .error name => .error (.collision (.members className fileName) name)
      | .ok taken => return property :: (← propertiesOf className fileName required taken rest)

/-- The class of a document. -/
def ofDocument (namespaceName fileName : String) (document : Schema.Node) :
    Except Failure ClassDef := do
  let name := nameOf fileName document
  match composedReference? 0 document.allOf with
  | some unsupported => .error (.unsupported fileName unsupported)
  | none =>
      let properties ←
        propertiesOf name fileName document.required [name] document.properties
      return {
        name
        namespaceName
        description := document.description.bind Text.trimmed?
        sourceFile := fileName
        properties }

end ClassDef
end SchemaClasses
