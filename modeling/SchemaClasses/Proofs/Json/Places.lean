import SchemaClasses.Json.Value
import SchemaClasses.Proofs.Json.ReadsAs

/-!
# Readings and places

What a tree reads as depends on what the text holds and not on where: of two trees that differ in
their offsets only both are read, as the same, or both are refused, for the same reason at the same
path.
-/

namespace SchemaClasses
namespace Json

variable {α : Type}

def Fault.unplaced (fault : Fault) : Fault :=
  ⟨fault.cause, 0⟩

def Breach.unplaced (breach : Breach) : Breach :=
  ⟨breach.reading.unplaced, breach.skipping.unplaced⟩

/-- A part of a text that carries its fault, if it has one, without the place of it. -/
def unplacedPart (part : Except Fault α) : Except Fault α :=
  part.mapError Fault.unplaced

mutual

/-- A tree without places: what a text holds, all of it at the start. -/
def Tree.unplaced : Tree → Tree
  | .null _ => .null 0
  | .boolean value _ => .boolean value 0
  | .number value _ => .number (unplacedPart value) 0
  | .string text _ => .string (unplacedPart text) 0
  | .array _ elements => .array 0 elements.unplaced
  | .object _ members => .object 0 members.unplaced
  | .broken breach => .broken breach.unplaced

def Elements.unplaced : Elements → Elements
  | .closed => .closed
  | .broken breach => .broken breach.unplaced
  | .element _ value _ rest => .element 0 value.unplaced 0 rest.unplaced

def Members.unplaced : Members → Members
  | .closed => .closed
  | .broken breach => .broken breach.unplaced
  | .keyAlone key _ missing => .keyAlone (unplacedPart key) 0 missing.unplaced
  | .member key _ value _ rest =>
      .member (unplacedPart key) 0 value.unplaced 0 rest.unplaced

end

theorem sameReading_ofPart (part : Except Fault α) :
    SameReading (.ofPart (unplacedPart part)) (.ofPart part) := by
  cases part with
  | ok value => exact .refl _
  | error fault => exact .refused rfl rfl

theorem sameReading_mistyped (expected : String) (tree : Tree) :
    SameReading (.error (tree.unplaced.mistyped expected) : Reading α)
      (.error (tree.mistyped expected)) := by
  cases tree with
  | number value stop =>
      cases value with
      | ok written => cases written <;> exact .refused rfl rfl
      | error fault => exact .refused rfl rfl
  | string text stop => cases text <;> exact .refused rfl rfl
  | _ => exact .refused rfl rfl

mutual

theorem sameReading_toValue (depth : Nat) :
    ∀ tree : Tree, SameReading (tree.unplaced.toValue depth) (tree.toValue depth)
  | .null _ => .refl _
  | .boolean _ _ => .refl _
  | .number value _ => (sameReading_ofPart value).map _
  | .string text _ => (sameReading_ofPart text).map _
  | .array start elements =>
      .descend depth 0 start ((sameReading_toValues (depth - 1) 0 elements).bind fun _ => .refl _)
  | .object start members =>
      .descend depth 0 start ((sameReading_toEntries (depth - 1) [] members).bind fun _ => .refl _)
  | .broken _ => .ofFault rfl

theorem sameReading_toValues (depth position : Nat) :
    ∀ elements : Elements,
      SameReading (elements.unplaced.toValues depth position) (elements.toValues depth position)
  | .closed => .refl _
  | .broken _ => .ofFault rfl
  | .element _ tree _ rest => by
      rw [Elements.unplaced, Elements.toValues, Elements.toValues]
      exact SameReading.bind (ReadsAs.under (sameReading_toValue depth tree) _) fun _ =>
        (sameReading_toValues depth (position + 1) rest).bind fun _ => .refl _

theorem sameReading_toEntries (depth : Nat) (entries : List (String × Value)) :
    ∀ members : Members,
      SameReading (members.unplaced.toEntries depth entries) (members.toEntries depth entries)
  | .closed => .refl _
  | .broken _ => by
      rw [Members.unplaced, Members.toEntries, Members.toEntries]
      exact .refused rfl rfl
  | .keyAlone key _ missing => by
      rw [Members.unplaced, Members.toEntries, Members.toEntries]
      exact SameReading.bind (ReadsAs.under (sameReading_ofPart key) _) fun _ => .ofFault rfl
  | .member key _ tree _ rest => by
      rw [Members.unplaced, Members.toEntries, Members.toEntries]
      exact SameReading.bind (ReadsAs.under (sameReading_ofPart key) _) fun name =>
        SameReading.bind (ReadsAs.under (sameReading_toValue depth tree) _) fun value =>
          sameReading_toEntries depth (insertSorted name value entries) rest

end

mutual

theorem skipFault?_unplaced :
    ∀ tree : Tree, tree.unplaced.skipFault? = tree.skipFault?.map Fault.unplaced
  | .null _ | .boolean _ _ | .number _ _ | .string _ _ | .broken _ => rfl
  | .array _ elements => elements_skipFault?_unplaced elements
  | .object _ members => members_skipFault?_unplaced members

theorem elements_skipFault?_unplaced :
    ∀ elements : Elements,
      elements.unplaced.skipFault? = elements.skipFault?.map Fault.unplaced
  | .closed | .broken _ => rfl
  | .element _ value _ rest => by
      rw [Elements.unplaced, Elements.skipFault?, Elements.skipFault?, skipFault?_unplaced value,
        elements_skipFault?_unplaced rest, Option.map_or]

theorem members_skipFault?_unplaced :
    ∀ members : Members, members.unplaced.skipFault? = members.skipFault?.map Fault.unplaced
  | .closed | .broken _ | .keyAlone _ _ _ => rfl
  | .member _ _ value _ rest => by
      rw [Members.unplaced, Members.skipFault?, Members.skipFault?, skipFault?_unplaced value,
        members_skipFault?_unplaced rest, Option.map_or]

end

end Json
end SchemaClasses
