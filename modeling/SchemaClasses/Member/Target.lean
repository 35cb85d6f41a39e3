import SchemaClasses.Member.Descriptor

/-!
# Target types

The name of a type in messages, and the literals that a member of a type may start with.  The
elements of an array count with their type alone.
-/

namespace SchemaClasses
namespace Target

/-- A property of all types holds of a type if it holds of the types that it is made of. -/
@[induction_eliminator]
theorem induction {motive : Target → Prop} (scalar : ∀ kind, motive (.scalar kind))
    (array : ∀ element, motive element.target → motive (.array element))
    (dictionary : ∀ value, motive value → motive (.dictionary value))
    (object : ∀ className, motive (.object className)) : ∀ target, motive target
  | .scalar kind => scalar kind
  | .array ⟨target, _, _, _⟩ => array _ (induction scalar array dictionary object target)
  | .dictionary value => dictionary value (induction scalar array dictionary object value)
  | .object className => object className

/-- The type of arrays whose elements have the given type and nothing else. -/
def arrayOf (element : Target) : Target :=
  .array (.bare element)

/-- The name of a type in messages. -/
def text : Target → String
  | .scalar .string => "string"
  | .scalar .integer => "integer"
  | .scalar .number => "number"
  | .scalar .boolean => "boolean"
  | .scalar .any => "any"
  | .array { target, .. } => "array of " ++ target.text
  | .dictionary value => "dictionary of " ++ value.text
  | .object className => className

end Target

namespace Literal

/-- The literal for a value that initializes a member of the given type. -/
def ofValue? : Target → Json.Value → Option Literal
  | .scalar .string, value => value.asString?.map .string
  | .scalar .integer, value => (value.asNumber?.bind integerOf?).map .integer
  | .scalar .number, value => (value.asNumber?.bind numberOf?).map .number
  | .scalar .boolean, value => value.asBoolean?.map .boolean
  | .scalar .any, value => ofUntyped? value
  | .array { target, .. }, value =>
      (value.asArray?.bind fun elements => elements.mapM (ofValue? target)).map .sequence
  | .dictionary _, _ => none
  | .object _, _ => none

/-- The literals for the elements of an array, all of the given type. -/
def sequenceOf? (element : Target) (value : Json.Value) : Option (List Literal) :=
  value.asArray?.bind fun elements => elements.mapM (ofValue? element)

end Literal
end SchemaClasses
