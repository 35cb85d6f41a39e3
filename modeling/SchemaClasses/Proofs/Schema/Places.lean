import SchemaClasses.Pointer
import SchemaClasses.Proofs.Schema.ItemsChain

/-!
# Places in a schema document

The segments of a pointer lead from the root of a document to one of its nodes, through the keywords
that hold nodes.  The last segment may also name a default or a type, which hold none.
-/

namespace SchemaClasses
namespace Schema

/-- A node together with the way to it. -/
inductive Place where
  | document (node : Node)
  | property (owner : Place) (key : String) (node : Node)
  | items (owner : Place) (node : Node)
  | additional (owner : Place) (node : Node)
  | part (owner : Place) (index : Nat) (node : Node)

/-- What a pointer leads to. -/
inductive Spot where
  | node (place : Place)
  | default (owner : Place) (value : Json.Value)
  | types (owner : Place) (keyword : TypeKeyword)

namespace Place

def node : Place → Node
  | .document node => node
  | .property _ _ node => node
  | .items _ node => node
  | .additional _ node => node
  | .part _ _ node => node

/-- The index below `count` that a segment writes. -/
def indexOf? (count : Nat) (segment : String) : Option Nat :=
  (List.range count).find? fun index => toString index = segment

/-- Where segments lead to from a place. -/
def walk? (place : Place) : List String → Option Spot
  | [] => some (.node place)
  | ["default"] => place.node.defaultKeyword.map (.default place)
  | ["type"] => place.node.typeKeyword.map (.types place)
  | "items" :: rest => place.node.items.bind fun node => (items place node).walk? rest
  | "additionalProperties" :: rest =>
      match place.node.additional with
      | some (.schema node) => (additional place node).walk? rest
      | _ => none
  | "properties" :: key :: rest =>
      (place.node.properties.lookup key).bind fun node => (property place key node).walk? rest
  | "allOf" :: segment :: rest =>
      (indexOf? place.node.allOf.length segment).bind fun index =>
        place.node.allOf[index]?.bind fun node => (part place index node).walk? rest
  | _ => none

theorem toString_injective {first second : Nat} (textEq : toString first = toString second) :
    first = second := by
  have digitsEq : Nat.toDigits 10 first = Nat.toDigits 10 second := by
    simpa [Nat.toString_eq_repr] using congrArg String.toList textEq
  calc
    first = Nat.ofDigitChars 10 (Nat.toDigits 10 first) 0 := Nat.ofDigitChars_ten_toDigits.symm
    _ = Nat.ofDigitChars 10 (Nat.toDigits 10 second) 0 := by rw [digitsEq]
    _ = second := Nat.ofDigitChars_ten_toDigits

theorem indexOf?_toString {count index : Nat} (indexLt : index < count) :
    indexOf? count (toString index) = some index := by
  rw [indexOf?, List.find?_range_eq_some]
  refine ⟨by simp, by simpa using indexLt, ?_⟩
  intro other otherLt
  have textNe : toString other ≠ toString index := by
    intro textEq
    have := toString_injective textEq
    omega
  simpa using textNe

/-- A pointer reaches a place if going on from the root behind it is going on from there. -/
def Reached (document : Node) (place : Place) (pointer : Pointer) : Prop :=
  ∀ rest, (Place.document document).walk? (pointer.segments ++ rest) = place.walk? rest

namespace Reached

variable {document node : Node} {place : Place} {pointer : Pointer} {key : String} {index : Nat}

theorem root (document : Node) : Reached document (.document document) .root :=
  fun _ => rfl

theorem walk_child (reached : Reached document place pointer) (segment : String) :
    (Place.document document).walk? (pointer.child segment).segments = place.walk? [segment] :=
  reached [segment]

theorem walk_here (reached : Reached document place pointer) :
    (Place.document document).walk? pointer.segments = some (.node place) := by
  have here := reached []
  rwa [List.append_nil] at here

theorem items (reached : Reached document place pointer) (itemsEq : place.node.items = some node) :
    Reached document (.items place node) (pointer.child "items") := by
  intro rest
  have further := reached ("items" :: rest)
  simp only [walk?, itemsEq, Option.bind_some] at further
  simpa [Pointer.child] using further

theorem additional (reached : Reached document place pointer)
    (additionalEq : place.node.additional = some (.schema node)) :
    Reached document (.additional place node) (pointer.child "additionalProperties") := by
  intro rest
  have further := reached ("additionalProperties" :: rest)
  simp only [walk?, additionalEq] at further
  simpa [Pointer.child] using further

theorem property (reached : Reached document place pointer)
    (found : place.node.properties.lookup key = some node) :
    Reached document (.property place key node) (pointer.join "properties" key) := by
  intro rest
  have further := reached ("properties" :: key :: rest)
  simp only [walk?, found, Option.bind_some] at further
  simpa [Pointer.join, Pointer.child] using further

theorem part (reached : Reached document place pointer)
    (found : place.node.allOf[index]? = some node) :
    Reached document (.part place index node) (pointer.join "allOf" (toString index)) := by
  intro rest
  have further := reached ("allOf" :: toString index :: rest)
  have indexLt : index < place.node.allOf.length := (List.getElem?_eq_some_iff.mp found).1
  simp only [walk?, indexOf?_toString indexLt, found, Option.bind_some] at further
  simpa [Pointer.join, Pointer.child] using further

end Reached

end Place
end Schema
end SchemaClasses
