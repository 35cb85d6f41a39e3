import Mathlib.Data.List.Forall2
import Mathlib.Data.Option.Basic
import SchemaClasses.Schema.Shape

/-!
# Spellings of a schema

A schema can be written in several ways that mean the same: one type name stands alone or in a list,
a default that is null is written or left out, and a permission for additional properties says yes,
no or nothing.  What a node declares does not depend on its spelling, and neither does its shape, up
to the spelling of the nodes in it.
-/

namespace SchemaClasses
namespace Schema

/-- One type name stands alone or in a list. -/
inductive SameTypes : Option TypeKeyword → Option TypeKeyword → Prop
  | same (keyword : Option TypeKeyword) : SameTypes keyword keyword
  | listed (name : TypeName) : SameTypes (some (.single name)) (some (.several [name]))
  | alone (name : TypeName) : SameTypes (some (.several [name])) (some (.single name))

/-- A default that is null is written or left out. -/
inductive SameDefault : Option Json.Value → Option Json.Value → Prop
  | same (keyword : Option Json.Value) : SameDefault keyword keyword
  | leftOut : SameDefault (some .null) none
  | written : SameDefault none (some .null)

/-- The keyword `additionalProperties` gives a permission, or is absent. -/
inductive IsPermission : Option (Additional Node) → Prop
  | absent : IsPermission none
  | allowed (value : Bool) : IsPermission (some (.allowed value))

/-- Permissions for additional properties are all the same, and schemas for them are related. -/
inductive SameAdditional (related : Node → Node → Prop) :
    Option (Additional Node) → Option (Additional Node) → Prop
  | permission {first second : Option (Additional Node)} (firstIs : IsPermission first)
      (secondIs : IsPermission second) : SameAdditional related first second
  | schema {first second : Node} (values : related first second) :
      SameAdditional related (some (.schema first)) (some (.schema second))

/-- Two nodes differ in the spelling of their own keywords only, whatever nodes they hold. -/
structure SameKeywords (first second : Node) : Prop where
  types : SameTypes first.typeKeyword second.typeKeyword
  defaults : SameDefault first.defaultKeyword second.defaultKeyword
  keys : first.properties.map Prod.fst = second.properties.map Prod.fst
  title : first.title = second.title
  description : first.description = second.description
  required : first.required = second.required
  reference : first.reference = second.reference
  enumeration : first.enumeration = second.enumeration
  constant : first.constant = second.constant

/-- Two nodes differ in nothing but their spelling and that of the nodes in them, at every depth. -/
inductive Respelled : Node → Node → Prop
  | intro {first second : Node} (keywords : SameKeywords first second)
      (additional : SameAdditional Respelled first.additional second.additional)
      (properties : List.Forall₂ Respelled (first.properties.map Prod.snd)
        (second.properties.map Prod.snd))
      (items : Option.Rel Respelled first.items second.items)
      (allOf : List.Forall₂ Respelled first.allOf second.allOf)
      (anyOf : List.Forall₂ Respelled first.anyOf second.anyOf) : Respelled first second

variable {node first second : Node}

theorem SameTypes.map_names {first second : Option TypeKeyword} (same : SameTypes first second) :
    first.map TypeKeyword.names = second.map TypeKeyword.names := by
  cases same <;> rfl

theorem SameTypes.isSome_eq {first second : Option TypeKeyword} (same : SameTypes first second) :
    first.isSome = second.isSome := by
  cases same <;> rfl

theorem SameDefault.filter_eq {first second : Option Json.Value}
    (same : SameDefault first second) :
    (first.filter fun value => !value.isNull) = second.filter fun value => !value.isNull := by
  cases same <;> rfl

theorem SameAdditional.refl {related : Node → Node → Prop} {additional : Option (Additional Node)}
    (self : ∀ values, additional = some (.schema values) → related values values) :
    SameAdditional related additional additional := by
  cases additional with
  | none => exact .permission .absent .absent
  | some given =>
      cases given with
      | allowed value => exact .permission (.allowed value) (.allowed value)
      | schema values => exact .schema (self values rfl)

namespace Node

theorem declaredTypes_eq_getD (node : Node) :
    node.declaredTypes = (node.typeKeyword.map TypeKeyword.names).getD [] := by
  unfold declaredTypes
  cases node.typeKeyword <;> rfl

theorem declaredTypes_eq_of_sameTypes (same : SameTypes first.typeKeyword second.typeKeyword) :
    first.declaredTypes = second.declaredTypes := by
  rw [first.declaredTypes_eq_getD, second.declaredTypes_eq_getD, same.map_names]

theorem isSingleType_eq_of_sameTypes (same : SameTypes first.typeKeyword second.typeKeyword)
    (name : TypeName) : first.isSingleType name = second.isSingleType name := by
  rw [isSingleType, isSingleType, declaredTypes_eq_of_sameTypes same]

theorem sizeOf_values_lt {values : Node} (valuesEq : node.additional = some (.schema values)) :
    sizeOf values < sizeOf node := by
  cases node
  obtain rfl := valuesEq
  simp only [mk.sizeOf_spec, Option.some.sizeOf_spec, Additional.schema.sizeOf_spec]
  omega

theorem sizeOf_property_lt {entry : String × Node} (member : entry ∈ node.properties) :
    sizeOf entry.2 < sizeOf node := by
  have entryLt := List.sizeOf_lt_of_mem member
  have entryEq : sizeOf entry = 1 + sizeOf entry.1 + sizeOf entry.2 := by
    cases entry
    rfl
  cases node
  simp only [mk.sizeOf_spec]
  simp only at entryLt
  omega

theorem sizeOf_part_lt {part : Node} (member : part ∈ node.allOf) :
    sizeOf part < sizeOf node := by
  have partLt := List.sizeOf_lt_of_mem member
  cases node
  simp only [mk.sizeOf_spec]
  simp only at partLt
  omega

theorem sizeOf_branch_lt {branch : Node} (member : branch ∈ node.anyOf) :
    sizeOf branch < sizeOf node := by
  have branchLt := List.sizeOf_lt_of_mem member
  cases node
  simp only [mk.sizeOf_spec]
  simp only at branchLt
  omega

end Node

namespace Respelled

theorem keywords (respelled : Respelled first second) : SameKeywords first second := by
  cases respelled with
  | intro keywords => exact keywords

/-- A node is spelled like itself, whatever it holds. -/
theorem refl (node : Node) : Respelled node node := by
  refine .intro ⟨.same _, .same _, rfl, rfl, rfl, rfl, rfl, rfl, rfl⟩
    (.refl fun values valuesEq => ?_) (List.forall₂_same.mpr fun property member => ?_) ?_
    (List.forall₂_same.mpr fun part member => ?_) (List.forall₂_same.mpr fun branch member => ?_)
  · exact refl values
  · obtain ⟨entry, isEntry, rfl⟩ := List.mem_map.mp member
    exact refl entry.2
  · cases itemsEq : node.items with
    | none => exact .none
    | some items => exact .some (refl items)
  · exact refl part
  · exact refl branch
termination_by sizeOf node
decreasing_by
  · exact Node.sizeOf_values_lt valuesEq
  · exact Node.sizeOf_property_lt isEntry
  · exact Node.sizeOf_items_lt itemsEq
  · exact Node.sizeOf_part_lt member
  · exact Node.sizeOf_branch_lt member

/-- One node is spelled in another way, and the nodes in it stay as they are. -/
theorem of_keywords (keywords : SameKeywords first second)
    (additional : SameAdditional Respelled first.additional second.additional)
    (properties : first.properties = second.properties) (items : first.items = second.items)
    (allOf : first.allOf = second.allOf) (anyOf : first.anyOf = second.anyOf) :
    Respelled first second := by
  obtain ⟨-, -, sameProperties, sameItems, sameParts, sameBranches⟩ := refl first
  refine .intro keywords additional ?_ ?_ ?_ ?_
  · exact properties ▸ sameProperties
  · exact items ▸ sameItems
  · exact allOf ▸ sameParts
  · exact anyOf ▸ sameBranches

theorem initialValue?_eq (respelled : Respelled first second) :
    first.initialValue? = second.initialValue? :=
  respelled.keywords.defaults.filter_eq

theorem isValueBranch_eq (respelled : Respelled first second) :
    first.isValueBranch = second.isValueBranch := by
  have absentEq : first.typeKeyword.isNone = second.typeKeyword.isNone := by
    rw [← Option.not_isSome, ← Option.not_isSome, respelled.keywords.types.isSome_eq]
  rw [Node.isValueBranch, Node.isValueBranch, absentEq, respelled.keywords.enumeration,
    respelled.keywords.constant]

end Respelled
end Schema
end SchemaClasses
