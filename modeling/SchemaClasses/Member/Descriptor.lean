import SchemaClasses.Member.Literal

/-!
# Member descriptors

What a class needs to know of one member: its type, its initial value, the attributes that steer how
it is written to JSON, and the methods that tell whether it is written at all.
-/

namespace SchemaClasses

inductive ScalarKind where
  | string
  | integer
  | number
  | boolean
  /-- A value without a type of its own. -/
  | any
  deriving DecidableEq, Repr

/-- A hint for the serializer, attached to a public member. -/
inductive Attribute where
  /-- The member is present on the wire. -/
  | required
  /-- The key on the wire, as the schema spells it. -/
  | wireName (key : String)
  deriving DecidableEq, Repr

/-- When a member is written. -/
inductive Condition where
  | notNull (field : String)
  /-- The sequence in the field is not empty and differs from the default. -/
  | sequenceDiffers (field : String) (defaults : List Literal)

namespace Condition

/-- The field that a condition reads. -/
def field : Condition → String
  | .notNull field => field
  | .sequenceDiffers field _ => field

/-- Whether a condition holds of the value in the field, where null is a field that is not set. -/
def evaluate : Condition → Json.Value → Bool
  | .notNull _, value => !value.isNull
  | .sequenceDiffers _ defaults, .array values =>
      !values.isEmpty && !Literal.matchesValues defaults values
  | .sequenceDiffers _ _, _ => false

end Condition

/-- A method that tells whether a member is written. -/
structure Predicate where
  name : String
  condition : Condition

mutual

/-- The type chosen for a schema node. -/
inductive Target where
  | scalar (kind : ScalarKind)
  | array (element : Descriptor)
  /-- A dictionary with text keys. -/
  | dictionary (value : Target)
  /-- The class of another document. -/
  | object (className : String)

structure Descriptor where
  target : Target
  initial : Option Literal
  attributes : List Attribute
  predicates : List Predicate

end

namespace Descriptor

/-- The descriptor of a type alone. -/
def bare (target : Target) : Descriptor :=
  ⟨target, none, [], []⟩

def isRequired (descriptor : Descriptor) : Bool :=
  Attribute.required ∈ descriptor.attributes

/-- The key on the wire, once an attribute gives one. -/
def wireName? (descriptor : Descriptor) : Option String :=
  descriptor.attributes.findSome? fun
    | .wireName key => some key
    | .required => none

end Descriptor
end SchemaClasses
