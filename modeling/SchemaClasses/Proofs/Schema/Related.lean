import Mathlib.Data.List.Forall2
import Mathlib.Data.Option.Basic
import SchemaClasses.Proofs.Json.ReadsAs
import SchemaClasses.Schema.Reading

/-!
# Related schemas

Schemas that agree in their own keywords and hold related schemas, and the readings that give them.
A keyword of two schemas is read into related schemas if the readings of its two values are related.
-/

namespace SchemaClasses
namespace Schema

open Json

/-- Permissions are the same, and schemas are related. -/
inductive Additional.Rel (related : Node → Node → Prop) : Additional Node → Additional Node → Prop
  | allowed (value : Bool) : Rel related (.allowed value) (.allowed value)
  | schema {first second : Node} (holds : related first second) :
      Rel related (.schema first) (.schema second)

/-- Properties with the same key and related schemas. -/
inductive SameKey (related : Node → Node → Prop) : String × Node → String × Node → Prop
  | intro (key : String) {first second : Node} (holds : related first second) :
      SameKey related (key, first) (key, second)

/-- Two schemas agree in their own keywords, and the schemas in them are related: the branches of
`anyOf` by `branch` and all others by `inner`. -/
inductive Node.Related (inner branch : Node → Node → Prop) : Node → Node → Prop
  | intro {title description reference : Option String} {typeKeyword : Option TypeKeyword}
      {required : List String} {defaultKeyword constant : Option Value}
      {enumeration : Option (List Value)} {properties others : List (String × Node)}
      {items otherItems : Option Node} {additional otherAdditional : Option (Additional Node)}
      {allOf otherParts anyOf otherBranches : List Node}
      (keyed : List.Forall₂ (SameKey inner) properties others)
      (elements : Option.Rel inner items otherItems)
      (further : Option.Rel (Additional.Rel inner) additional otherAdditional)
      (parts : List.Forall₂ inner allOf otherParts)
      (branches : List.Forall₂ branch anyOf otherBranches) :
      Node.Related inner branch
        ⟨title, description, typeKeyword, properties, required, items, additional, defaultKeyword,
          reference, enumeration, constant, allOf, anyOf⟩
        ⟨title, description, typeKeyword, others, required, otherItems, otherAdditional,
          defaultKeyword, reference, enumeration, constant, otherParts, otherBranches⟩

section Parts

variable {inner branch : Node → Node → Prop} {first second : Node}
  {property other : String × Node}

theorem SameKey.key_eq (same : SameKey inner property other) : property.1 = other.1 := by
  cases same
  rfl

theorem SameKey.holds (same : SameKey inner property other) : inner property.2 other.2 := by
  cases same with
  | intro key holds => exact holds

/-- Two schemas agree in the keywords that hold no schemas. -/
structure Node.SameOwn (first second : Node) : Prop where
  title : first.title = second.title
  description : first.description = second.description
  typeKeyword : first.typeKeyword = second.typeKeyword
  required : first.required = second.required
  defaultKeyword : first.defaultKeyword = second.defaultKeyword
  reference : first.reference = second.reference
  enumeration : first.enumeration = second.enumeration
  constant : first.constant = second.constant

theorem Node.Related.own (related : Node.Related inner branch first second) :
    first.SameOwn second := by
  cases related
  exact ⟨rfl, rfl, rfl, rfl, rfl, rfl, rfl, rfl⟩

/-- The schemas in two related schemas are related. -/
theorem Node.Related.nodes (related : Node.Related inner branch first second) :
    List.Forall₂ (SameKey inner) first.properties second.properties ∧
      Option.Rel inner first.items second.items ∧
      Option.Rel (Additional.Rel inner) first.additional second.additional ∧
      List.Forall₂ inner first.allOf second.allOf ∧
      List.Forall₂ branch first.anyOf second.anyOf := by
  cases related with
  | intro keyed elements further parts branches =>
      exact ⟨keyed, elements, further, parts, branches⟩

end Parts

section Reflexive

variable {inner branch : Node → Node → Prop}

theorem option_rel_refl {α : Type} {related : α → α → Prop} (self : ∀ value, related value value)
    (value : Option α) : Option.Rel related value value := by
  cases value with
  | none => exact .none
  | some value => exact .some (self value)

theorem Additional.Rel.refl (self : ∀ node, inner node node) (additional : Additional Node) :
    Additional.Rel inner additional additional := by
  cases additional with
  | allowed value => exact .allowed value
  | schema node => exact .schema (self node)

theorem SameKey.refl (self : ∀ node, inner node node) (property : String × Node) :
    SameKey inner property property :=
  .intro property.1 (self property.2)

/-- A schema is related to itself if the schemas in it are. -/
theorem Node.Related.refl_of_mem (node : Node)
    (keyed : ∀ property ∈ node.properties, inner property.2 property.2)
    (elements : ∀ items, node.items = some items → inner items items)
    (further : ∀ values, node.additional = some (.schema values) → inner values values)
    (parts : ∀ part ∈ node.allOf, inner part part)
    (branches : ∀ other ∈ node.anyOf, branch other other) :
    Node.Related inner branch node node := by
  obtain ⟨title, description, typeKeyword, properties, required, items, additional⟩ := node
  refine .intro (List.forall₂_same.mpr fun property member => .intro _ (keyed property member))
    ?_ ?_ (List.forall₂_same.mpr parts) (List.forall₂_same.mpr branches)
  · cases items with
    | none => exact .none
    | some items => exact .some (elements items rfl)
  · cases additional with
    | none => exact .none
    | some given =>
        cases given with
        | allowed value => exact .some (.allowed value)
        | schema values => exact .some (.schema (further values rfl))

theorem Node.Related.refl (inners : ∀ node, inner node node) (branches : ∀ node, branch node node)
    (node : Node) : Node.Related inner branch node node :=
  .refl_of_mem node (fun _ _ => inners _) (fun _ _ => inners _) (fun _ _ => inners _)
    (fun _ _ => inners _) fun _ _ => branches _

end Reflexive

section Equal

theorem Additional.eq_of_rel {first second : Additional Node}
    (rel : Additional.Rel Eq first second) :
    first = second := by
  cases rel with
  | allowed value => rfl
  | schema holds => exact congrArg _ holds

theorem option_eq_of_rel {α : Type} {related : α → α → Prop} {first second : Option α}
    (equal : ∀ {value other}, related value other → value = other)
    (rel : Option.Rel related first second) : first = second := by
  cases rel with
  | none => rfl
  | some holds => exact congrArg some (equal holds)

/-- Schemas that hold equal schemas are equal. -/
theorem Node.eq_of_related {first second : Node} (related : Node.Related Eq Eq first second) :
    first = second := by
  cases related with
  | intro keyed elements further parts branches =>
      have sameKeyed := keyed.imp fun _ _ same => Prod.ext same.key_eq same.holds
      rw [List.forall₂_eq_eq_eq] at sameKeyed parts branches
      rw [sameKeyed, parts, branches, option_eq_of_rel id elements,
        option_eq_of_rel Additional.eq_of_rel further]

end Equal

/-- Whether a tree is null, which stands for a keyword that is left out. -/
def isNull : Tree → Bool
  | .null _ => true
  | _ => false

/-- The permission in a tree that gives one. -/
def permission? : Tree → Option Bool
  | .boolean value _ => some value
  | _ => none

/-- What is read as a schema for additional properties, or else has none of the forms. -/
def schemaForm : Reading Node → Reading (Additional Node)
  | .ok node => .ok (.schema node)
  | .error _ => .error (noForm "AdditionalProperties")

theorem optional_eq {α : Type} (read : Tree → Reading α) (tree : Tree) :
    optional read tree = if isNull tree then .ok none else (read tree).map some := by
  cases tree <;> rfl

theorem optionalNode_eq (tree : Tree) (asNode : Unit → Reading Node) :
    optionalNode tree asNode = if isNull tree then .ok none else (asNode ()).map some := by
  cases tree <;> rfl

theorem readAdditional_eq (depth : Nat) (tree : Tree) (asNode : Unit → Reading Node) :
    readAdditional depth tree asNode = (tree.toValue depth).bind fun _ =>
      match permission? tree with
      | some value => .ok (.allowed value)
      | none => schemaForm (asNode ()) := by
  cases tree with
  | boolean value stop => rfl
  | _ =>
      refine bind_congr fun _ => ?_
      change _ = schemaForm (asNode ())
      cases asNode () <;> rfl

namespace ReadsAs

variable {α β : Type} {excused : Prop} {related : α → β → Prop} {alike : Node → Node → Prop}
  {first second : Tree}

theorem optional {read : Tree → Reading α} {other : Tree → Reading β}
    (nulls : isNull first = isNull second)
    (reads : ReadsAs excused related (read first) (other second)) :
    ReadsAs excused (Option.Rel related) (optional read first) (optional other second) := by
  rw [optional_eq, optional_eq, nulls]
  split
  · exact .ok .none
  · exact (reads.mono fun _ _ => Option.Rel.some).map

theorem optionalNode {asNode other : Unit → Reading Node} (nulls : isNull first = isNull second)
    (reads : ReadsAs excused alike (asNode ()) (other ())) :
    ReadsAs excused (Option.Rel alike) (optionalNode first asNode) (optionalNode second other) := by
  rw [optionalNode_eq, optionalNode_eq, nulls]
  split
  · exact .ok .none
  · exact (reads.mono fun _ _ => Option.Rel.some).map

theorem schemaForm {reading other : Reading Node} (reads : ReadsAs excused alike reading other) :
    ReadsAs excused (Additional.Rel alike) (schemaForm reading) (schemaForm other) := by
  cases reads with
  | ok holds => exact .ok (.schema holds)
  | refused => exact .refused rfl rfl
  | excused may => exact .excused may _ _

/-- The plain values of both trees are read first, since the keyword has several forms. -/
theorem additional {depth : Nat} {asNode other : Unit → Reading Node}
    (permissions : permission? first = permission? second)
    (plain : ReadsAs excused (fun _ _ => True) (first.toValue depth) (second.toValue depth))
    (reads : ReadsAs excused alike (asNode ()) (other ())) :
    ReadsAs excused (Additional.Rel alike) (readAdditional depth first asNode)
      (readAdditional depth second other) := by
  rw [readAdditional_eq, readAdditional_eq]
  refine plain.bind fun _ _ _ => ?_
  rw [permissions]
  cases permission? second with
  | some value => exact .ok (.allowed value)
  | none => exact schemaForm reads

end ReadsAs

section Assigning

variable {excused : Prop} {inner branch : Node → Node → Prop} {node other : Node}

theorem putProperty_related {properties others : List (String × Node)}
    (keyed : List.Forall₂ (SameKey inner) properties others) (key : String)
    (related : inner node other) :
    List.Forall₂ (SameKey inner) (putProperty key node properties)
      (putProperty key other others) := by
  induction keyed with
  | nil => exact .cons (.intro key related) .nil
  | cons same rest ih =>
      cases same with
      | intro first holds =>
          unfold putProperty
          split
          · exact .cons (.intro key related) rest
          · exact .cons (.intro first holds) ih

/-- The same value of a keyword is read into related schemas. -/
theorem Node.assign_related (inners : ∀ node, inner node node) (branches : ∀ node, branch node node)
    (related : Node.Related inner branch node other) (depth : Nat) (tree : Tree)
    (readings : NodeReadings) (keyword : Keyword) :
    ReadsAs excused (Node.Related inner branch) (node.assign depth tree readings keyword)
      (other.assign depth tree readings keyword) := by
  obtain ⟨keyed, elements, further, parts, more⟩ := related
  cases keyword with
  | properties =>
      have refl := fun properties =>
        List.forall₂_same.mpr fun property (_ : property ∈ properties) =>
          SameKey.refl inners property
      exact (ReadsAs.of_eq refl _).bind fun _ _ keyed =>
        .ok (.intro keyed elements further parts more)
  | items =>
      exact (ReadsAs.of_eq (option_rel_refl inners) _).bind fun _ _ elements =>
        .ok (.intro keyed elements further parts more)
  | additional =>
      exact (ReadsAs.of_eq (option_rel_refl (.refl inners)) _).bind fun _ _ further =>
        .ok (.intro keyed elements further parts more)
  | allOf =>
      have refl := fun nodes => List.forall₂_same.mpr fun node (_ : node ∈ nodes) => inners node
      exact (ReadsAs.of_eq refl _).bind fun _ _ parts =>
        .ok (.intro keyed elements further parts more)
  | anyOf =>
      have refl := fun nodes => List.forall₂_same.mpr fun node (_ : node ∈ nodes) => branches node
      exact (ReadsAs.of_eq refl _).bind fun _ _ more =>
        .ok (.intro keyed elements further parts more)
  | _ => exact ReadsAs.bind_self fun _ _ => .ok (.intro keyed elements further parts more)

end Assigning
end Schema
end SchemaClasses
