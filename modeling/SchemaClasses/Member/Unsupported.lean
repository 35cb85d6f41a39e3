import SchemaClasses.Member.Target
import SchemaClasses.Pointer
import SchemaClasses.Schema.Node

/-!
# Unsupported schemas

The schemas that no member is made of, each with the pointer to the node that is to blame.
-/

namespace SchemaClasses

inductive Construct where
  /-- A property schema is a reference. -/
  | reference (target : String)
  /-- A part of `allOf` is a reference. -/
  | composedReference (target : String)
  /-- A schema for additional properties on what is not an object. -/
  | dictionaryOnNonObject
  /-- A dictionary with a default. -/
  | dictionaryDefault
  /-- A dictionary whose values have a type other than object, text or integer. -/
  | dictionaryValueType (name : Schema.TypeName)
  /-- A default that cannot initialize a member of the type. -/
  | defaultValue (expected : Target) (found : Json.Value)
  /-- A property key that gives no member name. -/
  | propertyName (key : String)

def Construct.message : Construct → String
  | .reference target => s!"dereferencing not supported (`$ref: {target}`)"
  | .composedReference target =>
      s!"composed types are not supported (`allOf` member `$ref: {target}`)"
  | .dictionaryOnNonObject => "`additionalProperties` requires `type: \"object\"`"
  | .dictionaryDefault => "defaults for dictionaries are not supported"
  | .dictionaryValueType name => s!"Dictionary<string, {name.text}> is not supported"
  | .defaultValue expected found =>
      s!"default value {found.text} is not a valid {expected.text}"
  | .propertyName key => s!"property `{key}` does not produce a valid member name"

/-- A construct with the pointer to it. -/
structure Unsupported where
  pointer : Pointer
  construct : Construct

def Unsupported.message (unsupported : Unsupported) : String :=
  s!"unsupported construct at `{unsupported.pointer.text}`: {unsupported.construct.message}"

end SchemaClasses
