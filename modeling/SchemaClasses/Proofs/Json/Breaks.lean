import SchemaClasses.Json.Value
import SchemaClasses.Proofs.Steps

/-!
# Breaks in trees

A text that breaks off gives a tree with a breach in it.  A skipper meets the breach, and whoever
reads a value from the whole tree meets it too.
-/

namespace SchemaClasses
namespace Json

variable {fuel : Nat} {cursor : Cursor} {breach : Breach} {tree : Tree} {elements : Elements}
  {members : Members}

/-- With the given fuel, a layout that breaks off shows it in its tree. -/
structure ShowsBreaks (fuel : Nat) : Prop where
  tree : ∀ cursor tree breach, layTree fuel cursor = (tree, .error breach) →
    tree.skipFault?.isSome = true
  firstElement : ∀ cursor elements breach, layFirstElement fuel cursor = (elements, .error breach) →
    elements.skipFault?.isSome = true
  element : ∀ cursor elements breach, layElement fuel cursor = (elements, .error breach) →
    elements.skipFault?.isSome = true
  moreElements : ∀ cursor elements breach, layMoreElements fuel cursor = (elements, .error breach) →
    elements.skipFault?.isSome = true
  firstMember : ∀ cursor members breach, layFirstMember fuel cursor = (members, .error breach) →
    members.skipFault?.isSome = true
  member : ∀ afterComma cursor members breach,
    layMember fuel afterComma cursor = (members, .error breach) → members.skipFault?.isSome = true
  moreMembers : ∀ cursor members breach, layMoreMembers fuel cursor = (members, .error breach) →
    members.skipFault?.isSome = true

namespace ShowsBreaks

theorem treeStep (shows : ShowsBreaks fuel)
    (laid : layTree (fuel + 1) cursor = (tree, .error breach)) :
    tree.skipFault?.isSome = true := by
  have ofLiteral : ∀ {letters : List Char} {literal : Nat → Tree} {after : Cursor},
      Tree.layLiteral letters literal after = (tree, .error breach) →
        tree.skipFault?.isSome = true := by
    intro letters literal after laid
    unfold Tree.layLiteral at laid
    split at laid
    · nomatch (Prod.mk.inj laid).2
    · obtain ⟨rfl, -⟩ := Prod.mk.inj laid
      rfl
  rw [layTree] at laid
  split at laid
  · obtain ⟨rfl, -⟩ := Prod.mk.inj laid
    rfl
  · exact ofLiteral laid
  · exact ofLiteral laid
  · exact ofLiteral laid
  · split at laid
    · nomatch (Prod.mk.inj laid).2
    · obtain ⟨rfl, -⟩ := Prod.mk.inj laid
      rfl
  · obtain ⟨rfl, broken⟩ := Prod.mk.inj laid
    exact shows.firstElement _ _ _ (Prod.ext rfl broken)
  · obtain ⟨rfl, broken⟩ := Prod.mk.inj laid
    exact shows.firstMember _ _ _ (Prod.ext rfl broken)
  · split at laid
    · unfold Tree.layNumber at laid
      split at laid
      · nomatch (Prod.mk.inj laid).2
      · obtain ⟨rfl, -⟩ := Prod.mk.inj laid
        rfl
    · obtain ⟨rfl, -⟩ := Prod.mk.inj laid
      rfl

theorem firstElementStep (shows : ShowsBreaks fuel)
    (laid : layFirstElement (fuel + 1) cursor = (elements, .error breach)) :
    elements.skipFault?.isSome = true := by
  rw [layFirstElement] at laid
  split at laid
  · obtain ⟨rfl, -⟩ := Prod.mk.inj laid
    rfl
  · nomatch (Prod.mk.inj laid).2
  · exact shows.element _ _ _ laid

theorem elementStep (shows : ShowsBreaks fuel)
    (laid : layElement (fuel + 1) cursor = (elements, .error breach)) :
    elements.skipFault?.isSome = true := by
  rw [layElement] at laid
  split at laid
  · obtain ⟨rfl, -⟩ := Prod.mk.inj laid
    simp [Elements.skipFault?]
  · next value afterValue valueEq =>
      obtain ⟨rfl, broken⟩ := Prod.mk.inj laid
      have inRest := shows.moreElements _ _ _ (Prod.ext rfl broken)
      simp [Elements.skipFault?, inRest]

theorem moreElementsStep (shows : ShowsBreaks fuel)
    (laid : layMoreElements (fuel + 1) cursor = (elements, .error breach)) :
    elements.skipFault?.isSome = true := by
  rw [layMoreElements] at laid
  split at laid
  · nomatch (Prod.mk.inj laid).2
  · split at laid
    · obtain ⟨rfl, -⟩ := Prod.mk.inj laid
      rfl
    · obtain ⟨rfl, -⟩ := Prod.mk.inj laid
      rfl
    · exact shows.element _ _ _ laid
  · obtain ⟨rfl, -⟩ := Prod.mk.inj laid
    rfl

theorem firstMemberStep (shows : ShowsBreaks fuel)
    (laid : layFirstMember (fuel + 1) cursor = (members, .error breach)) :
    members.skipFault?.isSome = true := by
  rw [layFirstMember] at laid
  split at laid
  · nomatch (Prod.mk.inj laid).2
  · exact shows.member _ _ _ _ laid

theorem memberStep (shows : ShowsBreaks fuel) {afterComma : Bool}
    (laid : layMember (fuel + 1) afterComma cursor = (members, .error breach)) :
    members.skipFault?.isSome = true := by
  unfold layMember at laid
  split at laid
  · split at laid
    · obtain ⟨rfl, -⟩ := Prod.mk.inj laid
      rfl
    · split at laid
      · split at laid
        · obtain ⟨rfl, -⟩ := Prod.mk.inj laid
          simp [Members.skipFault?]
        · next value afterValue valueEq =>
            obtain ⟨rfl, broken⟩ := Prod.mk.inj laid
            have inRest := shows.moreMembers _ _ _ (Prod.ext rfl broken)
            simp [Members.skipFault?, inRest]
      · obtain ⟨rfl, -⟩ := Prod.mk.inj laid
        rfl
  · obtain ⟨rfl, -⟩ := Prod.mk.inj laid
    rfl

theorem moreMembersStep (shows : ShowsBreaks fuel)
    (laid : layMoreMembers (fuel + 1) cursor = (members, .error breach)) :
    members.skipFault?.isSome = true := by
  rw [layMoreMembers] at laid
  split at laid
  · nomatch (Prod.mk.inj laid).2
  · exact shows.member _ _ _ _ laid
  · obtain ⟨rfl, -⟩ := Prod.mk.inj laid
    rfl

end ShowsBreaks

theorem showsBreaks (fuel : Nat) : ShowsBreaks fuel := by
  induction fuel with
  | zero =>
      constructor
      all_goals
        intros
        next laid =>
          obtain ⟨rfl, -⟩ := Prod.mk.inj laid
          rfl
  | succ fuel ih =>
      exact {
        tree := fun _ _ _ laid => ih.treeStep laid
        firstElement := fun _ _ _ laid => ih.firstElementStep laid
        element := fun _ _ _ laid => ih.elementStep laid
        moreElements := fun _ _ _ laid => ih.moreElementsStep laid
        firstMember := fun _ _ _ laid => ih.firstMemberStep laid
        member := fun _ _ _ _ laid => ih.memberStep laid
        moreMembers := fun _ _ _ laid => ih.moreMembersStep laid }

/-- A tree without faults for a skipper is that of a text which does not break off inside it. -/
theorem exists_next_of_lay {text : String} (unbroken : (lay text).1.skipFault? = none) :
    ∃ next, lay text = ((lay text).1, .ok next) := by
  cases laid : lay text with
  | mk tree result =>
      cases result with
      | ok next => exact ⟨next, rfl⟩
      | error breach =>
          have broken := (showsBreaks _).tree _ _ _ laid
          rw [laid] at unbroken
          rw [unbroken] at broken
          nomatch broken

mutual

/-- Who reads a value has met every fault that a skipper meets. -/
theorem Tree.skipFault?_of_toValue {depth : Nat} :
    ∀ {tree : Tree} {value : Value}, tree.toValue depth = .ok value → tree.skipFault? = none
  | .null _, _, _ => rfl
  | .boolean _ _, _, _ => rfl
  | .number _ _, _, _ => rfl
  | .string _ _, _, _ => rfl
  | .array _ elements, _, read => by
      rw [Tree.toValue] at read
      obtain ⟨inner, -, read⟩ := Steps.bind_eq_ok_iff.mp read
      obtain ⟨values, valuesEq, -⟩ := Steps.bind_eq_ok_iff.mp read
      exact Elements.skipFault?_of_toValues valuesEq
  | .object _ members, _, read => by
      rw [Tree.toValue] at read
      obtain ⟨inner, -, read⟩ := Steps.bind_eq_ok_iff.mp read
      obtain ⟨entries, entriesEq, -⟩ := Steps.bind_eq_ok_iff.mp read
      exact Members.skipFault?_of_toEntries entriesEq
  | .broken _, _, read => nomatch read

theorem Elements.skipFault?_of_toValues {depth : Nat} :
    ∀ {position : Nat} {elements : Elements} {values : List Value},
      elements.toValues depth position = .ok values → elements.skipFault? = none
  | _, .closed, _, _ => rfl
  | _, .broken _, _, read => nomatch read
  | _, .element _ tree _ rest, _, read => by
      rw [Elements.toValues] at read
      obtain ⟨value, valueEq, read⟩ := Steps.bind_eq_ok_iff.mp read
      obtain ⟨values, valuesEq, -⟩ := Steps.bind_eq_ok_iff.mp read
      rw [Elements.skipFault?, Tree.skipFault?_of_toValue (Steps.mapError_eq_ok_iff.mp valueEq),
        Option.none_or]
      exact Elements.skipFault?_of_toValues valuesEq

theorem Members.skipFault?_of_toEntries {depth : Nat} :
    ∀ {entries : List (String × Value)} {members : Members} {result : List (String × Value)},
      members.toEntries depth entries = .ok result → members.skipFault? = none
  | _, .closed, _, _ => rfl
  | _, .broken _, _, read => nomatch read
  | _, .keyAlone _ _ _, _, read => by
      rw [Members.toEntries] at read
      obtain ⟨_, -, failed⟩ := Steps.bind_eq_ok_iff.mp read
      nomatch failed
  | _, .member _ _ tree _ rest, _, read => by
      rw [Members.toEntries] at read
      obtain ⟨name, -, read⟩ := Steps.bind_eq_ok_iff.mp read
      obtain ⟨value, valueEq, read⟩ := Steps.bind_eq_ok_iff.mp read
      rw [Members.skipFault?, Tree.skipFault?_of_toValue (Steps.mapError_eq_ok_iff.mp valueEq),
        Option.none_or]
      exact Members.skipFault?_of_toEntries read

end

end Json
end SchemaClasses
