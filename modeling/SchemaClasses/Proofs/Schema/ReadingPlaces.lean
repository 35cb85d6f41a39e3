import SchemaClasses.Proofs.Json.Places
import SchemaClasses.Proofs.Schema.Related

/-!
# Schemas and places

A schema does not depend on where in the text its parts stand, and neither does what is wrong with a
text that holds none.
-/

namespace SchemaClasses
namespace Schema

open Json

variable {α : Type}

/-- A reader that takes no notice of places. -/
def IgnoresPlaces (read : Tree → Reading α) : Prop :=
  ∀ tree, SameReading (read tree.unplaced) (read tree)

theorem readText_ignoresPlaces : IgnoresPlaces readText := by
  intro tree
  cases tree with
  | string text stop => exact sameReading_ofPart text
  | _ => exact sameReading_mistyped _ _

theorem isNull_unplaced (tree : Tree) : isNull tree.unplaced = isNull tree := by
  cases tree <;> rfl

theorem permission?_unplaced (tree : Tree) : permission? tree.unplaced = permission? tree := by
  cases tree <;> rfl

theorem sameReading_optional {read other : Tree → Reading α} {tree : Tree}
    (same : SameReading (read tree.unplaced) (other tree)) :
    SameReading (optional read tree.unplaced) (optional other tree) :=
  (ReadsAs.optional (isNull_unplaced tree) same).mono fun _ _ => option_eq_of_rel id

theorem IgnoresPlaces.optional {read : Tree → Reading α} (ignores : IgnoresPlaces read) :
    IgnoresPlaces (optional read) :=
  fun tree => sameReading_optional (ignores tree)

theorem readElements_ignoresPlaces {read : Tree → Reading α} (ignores : IgnoresPlaces read) :
    ∀ (position : Nat) (elements : Elements),
      SameReading (readElements read position elements.unplaced)
        (readElements read position elements)
  | _, .closed => .refl _
  | _, .broken _ => .ofFault rfl
  | position, .element _ tree _ rest => by
      rw [Elements.unplaced, readElements, readElements]
      exact SameReading.bind (ReadsAs.under (ignores tree) _) fun _ =>
        (readElements_ignoresPlaces ignores (position + 1) rest).bind fun _ => .refl _

theorem readArray_ignoresPlaces {depth : Nat} {read : Nat → Tree → Reading α}
    (ignores : ∀ inner, IgnoresPlaces (read inner)) : IgnoresPlaces (readArray depth read) := by
  intro tree
  cases tree with
  | array start elements =>
      exact .descend depth 0 start (readElements_ignoresPlaces (ignores (depth - 1)) 0 elements)
  | _ => exact sameReading_mistyped _ _

theorem toValue_ignoresPlaces (depth : Nat) : IgnoresPlaces (Tree.toValue depth) :=
  sameReading_toValue depth

theorem typeNameOf?_unplaced (tree : Tree) : typeNameOf? tree.unplaced = typeNameOf? tree := by
  cases tree with
  | string text stop => cases text <;> rfl
  | object start members =>
      cases members with
      | member key keyLeave value leave rest =>
          cases key with
          | error fault => rfl
          | ok key =>
              cases value with
              | null stop => cases rest <;> rfl
              | _ => rfl
      | _ => rfl
  | _ => rfl

theorem typeNamesOf?_unplaced (elements : Elements) :
    typeNamesOf? elements.unplaced = typeNamesOf? elements := by
  cases elements with
  | closed => rfl
  | broken cause => rfl
  | element start tree stop rest =>
      rw [Elements.unplaced, typeNamesOf?, typeNamesOf?, typeNameOf?_unplaced tree,
        typeNamesOf?_unplaced rest]

theorem typeKeywordOf?_unplaced (tree : Tree) :
    typeKeywordOf? tree.unplaced = typeKeywordOf? tree := by
  cases tree with
  | array start elements => exact congrArg (Option.map _) (typeNamesOf?_unplaced elements)
  | string text stop => exact congrArg (Option.map _) (typeNameOf?_unplaced (.string text stop))
  | object start members =>
      exact congrArg (Option.map _) (typeNameOf?_unplaced (.object start members))
  | _ => rfl

theorem readTypeKeyword_ignoresPlaces (depth : Nat) : IgnoresPlaces (readTypeKeyword depth) := by
  intro tree
  unfold readTypeKeyword
  rw [typeKeywordOf?_unplaced]
  exact (sameReading_toValue depth tree).bind fun _ => .refl _

/-- Readings as schemas of one tree with and without places. -/
structure NodeReadings.SameReadings (readings others : NodeReadings) : Prop where
  node : SameReading (readings.node ()) (others.node ())
  nodes : SameReading (readings.nodes ()) (others.nodes ())
  properties : SameReading (readings.properties ()) (others.properties ())

theorem Node.sameReading_assign (depth : Nat) (tree : Tree) {readings others : NodeReadings}
    (same : readings.SameReadings others) (node : Node) (keyword : Keyword) :
    SameReading (node.assign depth tree.unplaced readings keyword)
      (node.assign depth tree others keyword) := by
  cases keyword with
  | title | description | reference =>
      exact (readText_ignoresPlaces.optional tree).bind fun _ => .refl _
  | typeKeyword =>
      exact ((readTypeKeyword_ignoresPlaces depth).optional tree).bind fun _ => .refl _
  | properties => exact same.properties.bind fun _ => .refl _
  | required =>
      exact (readArray_ignoresPlaces (fun _ => readText_ignoresPlaces) tree).bind fun _ => .refl _
  | items =>
      have items := ReadsAs.optionalNode (isNull_unplaced tree) same.node
      exact SameReading.bind (items.mono fun _ _ => option_eq_of_rel id) fun _ => .refl _
  | additional =>
      have plain := (sameReading_toValue depth tree).mono fun _ _ _ => trivial
      have additional := ReadsAs.additional (permission?_unplaced tree) plain same.node
      have sameAdditional := additional.mono fun _ _ => Additional.eq_of_rel
      exact (sameReading_optional sameAdditional).bind fun _ => .refl _
  | defaultKeyword => exact (sameReading_toValue depth tree).bind fun _ => .refl _
  | enumeration =>
      exact ((readArray_ignoresPlaces toValue_ignoresPlaces).optional tree).bind fun _ => .refl _
  | constant => exact ((toValue_ignoresPlaces depth).optional tree).bind fun _ => .refl _
  | allOf | anyOf => exact same.nodes.bind fun _ => .refl _

theorem surplusFault_cause {fault other : Fault} (cause : fault.cause = other.cause) :
    (surplusFault fault).cause = (surplusFault other).cause := by
  unfold surplusFault
  rw [cause]
  split <;> first | rfl | exact cause

mutual

/-- A tree reads as the same schema wherever its parts stand. -/
theorem sameReading_readNode (depth : Nat) :
    ∀ tree : Tree, SameReading (readNode depth tree.unplaced) (readNode depth tree)
  | .object start members => by
      rw [Tree.unplaced, readNode, readNode]
      exact .descend depth 0 start (sameReading_readMembers (depth - 1) [] .empty members)
  | .array start elements => by
      rw [Tree.unplaced, readNode, readNode]
      exact .descend depth 0 start
        (sameReading_readPositions (depth - 1) Keyword.all 0 .empty elements)
  | .null _ | .boolean _ _ | .number _ _ | .string _ _ | .broken _ =>
      sameReading_mistyped _ _

theorem sameReading_readMembers (depth : Nat) (seen : List Keyword) (node : Node) :
    ∀ members : Members,
      SameReading (readMembers depth seen node members.unplaced)
        (readMembers depth seen node members)
  | .closed => .refl _
  | .broken _ => .refused rfl rfl
  | .keyAlone key keyLeave missing => by
      rw [Members.unplaced, readMembers, readMembers]
      refine SameReading.bind (ReadsAs.under (sameReading_ofPart key) _) fun name => ?_
      split
      · split
        · exact .refused rfl rfl
        · exact .ofFault rfl
      · exact .ofFault rfl
  | .member key keyLeave tree leave rest => by
      rw [Members.unplaced, readMembers, readMembers]
      refine SameReading.bind (ReadsAs.under (sameReading_ofPart key) _) fun name => ?_
      split
      · rw [skipFault?_unplaced]
        cases tree.skipFault? with
        | some fault => exact .refused rfl rfl
        | none => exact sameReading_readMembers depth seen node rest
      · next keyword isKeyword =>
          split
          · exact .refused rfl rfl
          · have same : NodeReadings.SameReadings
                ⟨fun _ => readNode depth tree.unplaced, fun _ => readNodes depth tree.unplaced,
                  fun _ => readProperties depth tree.unplaced⟩
                ⟨fun _ => readNode depth tree, fun _ => readNodes depth tree,
                  fun _ => readProperties depth tree⟩ :=
              ⟨sameReading_readNode depth tree, sameReading_readNodes depth tree,
                sameReading_readProperties depth tree⟩
            have assigned := Node.sameReading_assign depth tree same node keyword
            exact SameReading.bind ((assigned.under _).leaving _ _) fun assigned =>
              sameReading_readMembers depth (keyword :: seen) assigned rest

theorem sameReading_readPositions (depth : Nat) (keywords : List Keyword) (position : Nat)
    (node : Node) :
    ∀ elements : Elements,
      SameReading (readPositions depth keywords position node elements.unplaced)
        (readPositions depth keywords position node elements)
  | .closed => .refl _
  | .broken breach => by
      cases keywords with
      | nil => exact .ofFault (surplusFault_cause rfl)
      | cons => exact .ofFault rfl
  | .element start tree leave rest => by
      cases keywords with
      | nil => exact .ofFault rfl
      | cons keyword keywords =>
          rw [Elements.unplaced, readPositions, readPositions]
          have same : NodeReadings.SameReadings
              ⟨fun _ => readNode depth tree.unplaced, fun _ => readNodes depth tree.unplaced,
                fun _ => readProperties depth tree.unplaced⟩
              ⟨fun _ => readNode depth tree, fun _ => readNodes depth tree,
                fun _ => readProperties depth tree⟩ :=
            ⟨sameReading_readNode depth tree, sameReading_readNodes depth tree,
              sameReading_readProperties depth tree⟩
          have assigned := Node.sameReading_assign depth tree same node keyword
          exact SameReading.bind ((assigned.under _).leaving _ _) fun assigned =>
            sameReading_readPositions depth keywords (position + 1) assigned rest

theorem sameReading_readNodes (depth : Nat) :
    ∀ tree : Tree, SameReading (readNodes depth tree.unplaced) (readNodes depth tree)
  | .array start elements => by
      rw [Tree.unplaced, readNodes, readNodes]
      exact .descend depth 0 start (sameReading_readNodeElements (depth - 1) 0 elements)
  | .null _ | .boolean _ _ | .number _ _ | .string _ _ | .object _ _ | .broken _ =>
      sameReading_mistyped _ _

theorem sameReading_readNodeElements (depth position : Nat) :
    ∀ elements : Elements,
      SameReading (readNodeElements depth position elements.unplaced)
        (readNodeElements depth position elements)
  | .closed => .refl _
  | .broken _ => .ofFault rfl
  | .element _ tree _ rest => by
      rw [Elements.unplaced, readNodeElements, readNodeElements]
      exact SameReading.bind (ReadsAs.under (sameReading_readNode depth tree) _) fun _ =>
        (sameReading_readNodeElements depth (position + 1) rest).bind fun _ => .refl _

theorem sameReading_readProperties (depth : Nat) :
    ∀ tree : Tree, SameReading (readProperties depth tree.unplaced) (readProperties depth tree)
  | .object start members => by
      rw [Tree.unplaced, readProperties, readProperties]
      exact .descend depth 0 start (sameReading_readPropertyMembers (depth - 1) [] members)
  | .null _ | .boolean _ _ | .number _ _ | .string _ _ | .array _ _ | .broken _ =>
      sameReading_mistyped _ _

theorem sameReading_readPropertyMembers (depth : Nat) (properties : List (String × Node)) :
    ∀ members : Members,
      SameReading (readPropertyMembers depth properties members.unplaced)
        (readPropertyMembers depth properties members)
  | .closed => .refl _
  | .broken _ => .refused rfl rfl
  | .keyAlone key _ missing => by
      rw [Members.unplaced, readPropertyMembers, readPropertyMembers]
      exact SameReading.bind (ReadsAs.under (sameReading_ofPart key) _) fun _ => .ofFault rfl
  | .member key _ tree _ rest => by
      rw [Members.unplaced, readPropertyMembers, readPropertyMembers]
      exact SameReading.bind (ReadsAs.under (sameReading_ofPart key) _) fun name =>
        SameReading.bind (ReadsAs.under (sameReading_readNode depth tree) _) fun node =>
          sameReading_readPropertyMembers depth (putProperty name node properties) rest

end

/-- The schema of a document does not depend on where in the text its parts stand. -/
theorem Node.sameReading_ofDocument (text : String) :
    SameReading (readNode depthLimit (lay text).1.unplaced) (Node.ofDocument text) :=
  sameReading_readNode depthLimit _

end Schema
end SchemaClasses
