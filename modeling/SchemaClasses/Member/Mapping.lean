import SchemaClasses.Member.Unsupported
import SchemaClasses.Naming.Members
import SchemaClasses.Schema.Shape

/-!
# Mapping properties to members

The type, the initial value, the attributes and the predicates of the member for one property, or
what in its schema is not supported.
-/

namespace SchemaClasses
namespace Descriptor

open Schema

/-- The type of an object: the class of its title, if it has one. -/
def objectTarget (node : Node) : Target :=
  match node.trimmedTitle? with
  | some title => .object (Naming.className title)
  | none => .scalar .any

/-- The type that the declared names of a node give by themselves.  Several names, and none, leave
the value without a type. -/
def scalarTarget (node : Node) : Target :=
  match node.declaredTypes with
  | [.string] => .scalar .string
  | [.integer] => .scalar .integer
  | [.number] => .scalar .number
  | [.boolean] => .scalar .boolean
  | [.object] => objectTarget node
  | _ => .scalar .any

/-- The type of the values of a dictionary. -/
def dictionaryValueTarget (values : Node) (pointer : Pointer) : Except Unsupported Target :=
  match values.reference with
  | some target => .error ⟨pointer, .reference target⟩
  | none =>
      match values.declaredTypes with
      | [.object] => .ok (objectTarget values)
      | [.string] => .ok (.scalar .string)
      | [.integer] => .ok (.scalar .integer)
      | [other] => .error ⟨pointer.child "type", .dictionaryValueType other⟩
      | _ => .ok (.scalar .any)

/-- The descriptor of the elements of an array, from their schema.  Nothing but a type is taken from
it. -/
def ofElement (node : Node) (pointer : Pointer) : Except Unsupported Descriptor :=
  match _shapeEq : node.shape with
  | .reference target => .error ⟨pointer, .reference target⟩
  | .misplacedDictionary =>
      .error ⟨pointer.child "additionalProperties", .dictionaryOnNonObject⟩
  | .array (some items) =>
      (ofElement items (pointer.child "items")).map fun element => bare (.array element)
  | .array none => .ok (bare (.arrayOf (.scalar .any)))
  | .dictionary values =>
      (dictionaryValueTarget values (pointer.child "additionalProperties")).map fun value =>
        bare (.dictionary value)
  | .enumeration fallback => .ok (bare (scalarTarget fallback))
  | .scalar => .ok (bare (scalarTarget node))
termination_by sizeOf node
decreasing_by exact Node.sizeOf_items_lt (Node.items_of_shape_array _shapeEq)

/-- The descriptor of the elements of an array with the given items. -/
def ofItems (items : Option Node) (pointer : Pointer) : Except Unsupported Descriptor :=
  match items with
  | some items => ofElement items (pointer.child "items")
  | none => .ok (bare (.scalar .any))

/-- The default of a node as `convert` reads it, if it has one that is not null. -/
def explicitDefault {α : Type} (node : Node) (target : Target) (pointer : Pointer)
    (convert : Json.Value → Option α) : Except Unsupported (Option α) :=
  match node.initialValue? with
  | none => .ok none
  | some value =>
      match convert value with
      | some converted => .ok (some converted)
      | none => .error ⟨pointer.child "default", .defaultValue target value⟩

/-- The descriptor of a scalar or an object, whose type is read from `source`. -/
def ofScalar (node source : Node) (pointer : Pointer) : Except Unsupported Descriptor := do
  let target := scalarTarget source
  let initial ← explicitDefault node target pointer (Literal.ofValue? target)
  return {
    target
    initial
    attributes := if node.required.isEmpty then [] else [.required]
    predicates := [] }

/-- The descriptor of an array.  It starts with its default, or empty, and is written when it is not
empty and differs from that. -/
def ofArray (publicName : String) (node : Node) (items : Option Node) (pointer : Pointer) :
    Except Unsupported Descriptor := do
  let element ← ofItems items pointer
  let converted ←
    explicitDefault node (.array element) pointer (Literal.sequenceOf? element.target)
  let defaults := converted.getD []
  return {
    target := .array element
    initial := some (.sequence defaults)
    attributes := []
    predicates :=
      [⟨Naming.predicateName publicName,
        .sequenceDiffers (Naming.backingName publicName) defaults⟩] }

/-- The descriptor of a dictionary, which has no default and is written when it is not null. -/
def ofDictionary (publicName : String) (node values : Node) (pointer : Pointer) :
    Except Unsupported Descriptor := do
  if node.initialValue?.isSome then
    .error ⟨pointer.child "default", .dictionaryDefault⟩
  else
    let value ← dictionaryValueTarget values (pointer.child "additionalProperties")
    return {
      target := .dictionary value
      initial := none
      attributes := []
      predicates :=
        [⟨Naming.predicateName publicName, .notNull (Naming.backingName publicName)⟩] }

/-- The descriptor that the shape of a node gives. -/
def ofShape (publicName : String) (node : Node) (pointer : Pointer) :
    Except Unsupported Descriptor :=
  match node.shape with
  | .reference target => .error ⟨pointer, .reference target⟩
  | .misplacedDictionary =>
      .error ⟨pointer.child "additionalProperties", .dictionaryOnNonObject⟩
  | .array items => ofArray publicName node items pointer
  | .dictionary values => ofDictionary publicName node values pointer
  | .enumeration fallback => ofScalar node fallback pointer
  | .scalar => ofScalar node node pointer

/-- The descriptor with the attributes that its place in the enclosing object adds. -/
def finalize (descriptor : Descriptor) (key : String) (requiredByParent : Bool) : Descriptor :=
  let required : List Attribute :=
    if requiredByParent && !descriptor.isRequired then [.required] else []
  { descriptor with
    attributes := descriptor.attributes ++ required ++ [.wireName key] }

/-- The descriptor of the property with the given key and schema, which the enclosing object may
require. -/
def ofProperty (key : String) (node : Node) (requiredByParent : Bool) (pointer : Pointer) :
    Except Unsupported Descriptor := do
  let publicName := Naming.publicName key
  if Naming.isMemberName publicName then
    let descriptor ← ofShape publicName node pointer
    return descriptor.finalize key requiredByParent
  else
    .error ⟨pointer, .propertyName key⟩

end Descriptor
end SchemaClasses
