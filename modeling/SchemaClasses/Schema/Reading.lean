import SchemaClasses.Schema.Node

/-!
# Reading schemas

A schema is read from an object by its keywords, in any order, or from an array that gives them by
position.  Members that are no keyword are skipped.  The values of `type` and of
`additionalProperties` have several forms: such a value is first read as plain JSON, and what is
then none of the forms is refused as a whole.
-/

namespace SchemaClasses
namespace Schema

open Json

/-- The keywords that are read, in the order of the positional form. -/
inductive Keyword where
  | title
  | description
  | typeKeyword
  | properties
  | required
  | items
  | additional
  | defaultKeyword
  | reference
  | enumeration
  | constant
  | allOf
  | anyOf
  deriving DecidableEq, Repr

namespace Keyword

def all : List Keyword :=
  [.title, .description, .typeKeyword, .properties, .required, .items, .additional,
    .defaultKeyword, .reference, .enumeration, .constant, .allOf, .anyOf]

def name : Keyword → String
  | .title => "title"
  | .description => "description"
  | .typeKeyword => "type"
  | .properties => "properties"
  | .required => "required"
  | .items => "items"
  | .additional => "additionalProperties"
  | .defaultKeyword => "default"
  | .reference => "$ref"
  | .enumeration => "enum"
  | .constant => "const"
  | .allOf => "allOf"
  | .anyOf => "anyOf"

def ofName? (name : String) : Option Keyword :=
  all.find? fun keyword => keyword.name = name

end Keyword

/-- Reads a value that null leaves out. -/
def optional {α : Type} (read : Tree → Reading α) : Tree → Reading (Option α)
  | .null _ => .ok none
  | tree => (read tree).map some

def readText : Tree → Reading String
  | .string text _ => .ofPart text
  | tree => .error (tree.mistyped "a string")

/-- The elements of an array from the given position on, each read by `read`. -/
def readElements {α : Type} (read : Tree → Reading α) (position : Nat) :
    Elements → Reading (List α)
  | .closed => .ok []
  | .broken breach => .ofFault breach.reading
  | .element _ tree _ rest => do
      let value ← (read tree).under (.index position)
      return value :: (← readElements read (position + 1) rest)

/-- An array whose elements are read by `read`, which is given the depth inside the array. -/
def readArray {α : Type} (depth : Nat) (read : Nat → Tree → Reading α) :
    Tree → Reading (List α)
  | .array start elements => do
      let inner ← descend depth start
      readElements (read inner) 0 elements
  | tree => .error (tree.mistyped "a sequence")

/-- The type name in a tree: its text, or an object with the text as its only key and null. -/
def typeNameOf? : Tree → Option TypeName
  | .string (.ok text) _ => TypeName.ofText? text
  | .object _ (.member (.ok key) _ (.null _) _ .closed) => TypeName.ofText? key
  | _ => none

def typeNamesOf? : Elements → Option (List TypeName)
  | .closed => some []
  | .element _ tree _ rest => do
      let name ← typeNameOf? tree
      return name :: (← typeNamesOf? rest)
  | .broken _ => none

/-- The keyword `type` in a tree without faults. -/
def typeKeywordOf? : Tree → Option TypeKeyword
  | .array _ elements => (typeNamesOf? elements).map .several
  | tree => (typeNameOf? tree).map .single

/-- The problem of a value that has none of the forms of a choice. -/
def noForm (choice : String) : Refusal :=
  ⟨.noForm choice, [], none⟩

def readTypeKeyword (depth : Nat) (tree : Tree) : Reading TypeKeyword := do
  let _ ← tree.toValue depth
  match typeKeywordOf? tree with
  | some keyword => return keyword
  | none => .error (noForm "TypeKeyword")

/-- The keyword `additionalProperties`, where `asNode` reads the tree as a schema. -/
def readAdditional (depth : Nat) (tree : Tree) (asNode : Unit → Reading Node) :
    Reading (Additional Node) := do
  let _ ← tree.toValue depth
  match tree with
  | .boolean value _ => return .allowed value
  | _ =>
      match asNode () with
      | .ok node => return .schema node
      | .error _ => .error (noForm "AdditionalProperties")

/-- What the value of a keyword reads as if the keyword holds schemas. -/
structure NodeReadings where
  node : Unit → Reading Node
  nodes : Unit → Reading (List Node)
  properties : Unit → Reading (List (String × Node))

/-- Reads a schema that null leaves out. -/
def optionalNode (tree : Tree) (asNode : Unit → Reading Node) : Reading (Option Node) :=
  match tree with
  | .null _ => .ok none
  | _ => (asNode ()).map some

/-- Reads the value of a keyword into a node. -/
def Node.assign (node : Node) (depth : Nat) (tree : Tree) (readings : NodeReadings) :
    Keyword → Reading Node
  | .title => do return { node with title := ← optional readText tree }
  | .description => do return { node with description := ← optional readText tree }
  | .typeKeyword => do
      return { node with typeKeyword := ← optional (readTypeKeyword depth) tree }
  | .properties => do return { node with properties := ← readings.properties () }
  | .required => do return { node with required := ← readArray depth (fun _ => readText) tree }
  | .items => do return { node with items := ← optionalNode tree readings.node }
  | .additional => do
      let additional ← optional (fun tree => readAdditional depth tree readings.node) tree
      return { node with additional }
  | .defaultKeyword => do
      return { node with defaultKeyword := some (← tree.toValue depth) }
  | .reference => do return { node with reference := ← optional readText tree }
  | .enumeration => do
      let enumeration ← optional (readArray depth fun inner tree => tree.toValue inner) tree
      return { node with enumeration }
  | .constant => do return { node with constant := ← optional (Tree.toValue depth) tree }
  | .allOf => do return { node with allOf := ← readings.nodes () }
  | .anyOf => do return { node with anyOf := ← readings.nodes () }

/-- Puts a property at the end, or in the place of an earlier one with its key. -/
def putProperty (key : String) (node : Node) : List (String × Node) → List (String × Node)
  | [] => [(key, node)]
  | (other, old) :: rest =>
      if other = key then (key, node) :: rest else (other, old) :: putProperty key node rest

/-- The fault of an array that goes on after the last position. -/
def surplusFault (fault : Fault) : Fault :=
  match fault.cause with
  | .noArrayComma | .endInValue => ⟨.trailingCharacters, fault.offset⟩
  | _ => fault

mutual

/-- The schema in a tree, read to the given depth. -/
def readNode (depth : Nat) : Tree → Reading Node
  | .object start members => do
      let inner ← descend depth start
      readMembers inner [] .empty members
  | .array start elements => do
      let inner ← descend depth start
      readPositions inner Keyword.all 0 .empty elements
  | tree => .error (tree.mistyped "struct SchemaNode")

/-- Reads members into a node, of whose keywords some have been seen. -/
def readMembers (depth : Nat) (seen : List Keyword) (node : Node) : Members → Reading Node
  | .closed => .ok node
  | .broken breach => (Reading.ofFault breach.reading).under .unknown
  | .keyAlone key keyLeave missing => do
      let name ← (Reading.ofPart key).under .unknown
      match Keyword.ofName? name with
      | some keyword =>
          if keyword ∈ seen then .error ⟨.repeatedKey name, [], some keyLeave⟩
          else .ofFault missing
      | none => .ofFault missing
  | .member key keyLeave tree leave rest => do
      let name ← (Reading.ofPart key).under .unknown
      match Keyword.ofName? name with
      | none =>
          match tree.skipFault? with
          | some fault => (Reading.ofFault fault).under (.key name)
          | none => readMembers depth seen node rest
      | some keyword =>
          if keyword ∈ seen then .error ⟨.repeatedKey name, [], some keyLeave⟩
          else
            let readings : NodeReadings :=
              ⟨fun _ => readNode depth tree, fun _ => readNodes depth tree,
                fun _ => readProperties depth tree⟩
            let assigned ←
              ((node.assign depth tree readings keyword).under (.key name)).leaving leave
            readMembers depth (keyword :: seen) assigned rest

/-- Reads elements into a node by the keywords that are left. -/
def readPositions (depth : Nat) (keywords : List Keyword) (position : Nat) (node : Node) :
    Elements → Reading Node
  | .closed => .ok node
  | .broken breach =>
      match keywords with
      | [] => .ofFault (surplusFault breach.reading)
      | _ :: _ => .ofFault breach.reading
  | .element start tree leave rest =>
      match keywords with
      | [] => .ofFault ⟨.trailingCharacters, start + 1⟩
      | keyword :: keywords => do
          let readings : NodeReadings :=
            ⟨fun _ => readNode depth tree, fun _ => readNodes depth tree,
              fun _ => readProperties depth tree⟩
          let assigned ←
            ((node.assign depth tree readings keyword).under (.index position)).leaving leave
          readPositions depth keywords (position + 1) assigned rest

/-- The schemas in an array. -/
def readNodes (depth : Nat) : Tree → Reading (List Node)
  | .array start elements => do
      let inner ← descend depth start
      readNodeElements inner 0 elements
  | tree => .error (tree.mistyped "a sequence")

def readNodeElements (depth position : Nat) : Elements → Reading (List Node)
  | .closed => .ok []
  | .broken breach => .ofFault breach.reading
  | .element _ tree _ rest => do
      let node ← (readNode depth tree).under (.index position)
      return node :: (← readNodeElements depth (position + 1) rest)

/-- The schemas in an object, with their keys in the order in which each first occurs. -/
def readProperties (depth : Nat) : Tree → Reading (List (String × Node))
  | .object start members => do
      let inner ← descend depth start
      readPropertyMembers inner [] members
  | tree => .error (tree.mistyped "a map")

def readPropertyMembers (depth : Nat) (properties : List (String × Node)) :
    Members → Reading (List (String × Node))
  | .closed => .ok properties
  | .broken breach => (Reading.ofFault breach.reading).under .unknown
  | .keyAlone key _ missing => do
      let _ ← (Reading.ofPart key).under .unknown
      .ofFault missing
  | .member key _ tree _ rest => do
      let name ← (Reading.ofPart key).under .unknown
      let node ← (readNode depth tree).under (.key name)
      readPropertyMembers depth (putProperty name node properties) rest

end

namespace Node

/-- The schema that a whole text holds. -/
def ofText (text : String) : Reading Node :=
  readWhole (readNode depthLimit) text

/-- The schema at the start of a text, whatever follows it. -/
def ofDocument (text : String) : Reading Node :=
  readNode depthLimit (lay text).1

end Node
end Schema
end SchemaClasses
