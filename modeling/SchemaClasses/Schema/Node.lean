import SchemaClasses.Json.Value
import SchemaClasses.Text.Blank

/-!
# Schema nodes

The keywords of a JSON Schema that the generated code depends on.  The properties keep the order in
which the schema declares them, since the members of a class follow it.
-/

namespace SchemaClasses
namespace Schema

/-- The names that the keyword `type` can give. -/
inductive TypeName where
  | string
  | integer
  | number
  | boolean
  | object
  | array
  | null
  deriving DecidableEq, Repr

namespace TypeName

def all : List TypeName :=
  [.string, .integer, .number, .boolean, .object, .array, .null]

def text : TypeName → String
  | .string => "string"
  | .integer => "integer"
  | .number => "number"
  | .boolean => "boolean"
  | .object => "object"
  | .array => "array"
  | .null => "null"

def ofText? (text : String) : Option TypeName :=
  all.find? fun name => name.text = text

end TypeName

/-- The keyword `type`: one name or a list of names. -/
inductive TypeKeyword where
  | single (name : TypeName)
  | several (names : List TypeName)
  deriving DecidableEq, Repr

def TypeKeyword.names : TypeKeyword → List TypeName
  | .single name => [name]
  | .several names => names

/-- The keyword `additionalProperties`: a permission, or the schema of all further values. -/
inductive Additional (α : Type) where
  | allowed (value : Bool)
  | schema (node : α)

/-- A schema.  A `default` that is null is present, while `enum` and `const` count null as
absent. -/
structure Node where
  title : Option String
  description : Option String
  typeKeyword : Option TypeKeyword
  properties : List (String × Node)
  required : List String
  items : Option Node
  additional : Option (Additional Node)
  defaultKeyword : Option Json.Value
  reference : Option String
  enumeration : Option (List Json.Value)
  constant : Option Json.Value
  allOf : List Node
  anyOf : List Node

namespace Node

/-- The schema without any keywords. -/
def empty : Node where
  title := none
  description := none
  typeKeyword := none
  properties := []
  required := []
  items := none
  additional := none
  defaultKeyword := none
  reference := none
  enumeration := none
  constant := none
  allOf := []
  anyOf := []

/-- The declared type names, of which there are none without the keyword. -/
def declaredTypes (node : Node) : List TypeName :=
  match node.typeKeyword with
  | some keyword => keyword.names
  | none => []

/-- Whether exactly one type is declared, and it is the given one. -/
def isSingleType (node : Node) (name : TypeName) : Bool :=
  node.declaredTypes = [name]

def isObjectTyped (node : Node) : Bool :=
  node.isSingleType .object

/-- The default that a member starts with; an explicit null is the same as none. -/
def initialValue? (node : Node) : Option Json.Value :=
  node.defaultKeyword.filter fun value => !value.isNull

/-- The title without surrounding blanks, unless it is blank. -/
def trimmedTitle? (node : Node) : Option String :=
  node.title.bind Text.trimmed?

end Node
end Schema
end SchemaClasses
