import SchemaClasses.Proofs.Json.Breaks
import SchemaClasses.Proofs.Json.Depth
import SchemaClasses.Proofs.Schema.MemberOrder
import SchemaClasses.Proofs.Schema.TypedAlike

/-!
# Branches for one value

A branch of an enumeration gives its value in a list or by itself.  Wherever a document has such a
branch, the other form takes its place without changing what the schemas around it come to, unless
the value is null: a null that stands by itself counts as absent.
-/

namespace SchemaClasses
namespace Schema

open Json

/-- The schema that lists one value. -/
def Node.listing (value : Value) : Node :=
  { Node.empty with enumeration := some [value] }

/-- The schema that gives one value by itself. -/
def Node.giving (value : Value) : Node :=
  { Node.empty with constant := some value }

/-- Two schemas are the same, but for branches that list a value in the first one and give it by
itself in the second one.  The flag says whether they are branches of `anyOf` themselves. -/
inductive Reworded : Bool → Node → Node → Prop
  | value (value : Value) : Reworded true (.listing value) (.giving value)
  | intro {isBranch : Bool} {first second : Node}
      (related : Node.Related (Reworded false) (Reworded true) first second) :
      Reworded isBranch first second

theorem SameAdditional.of_rel {related : Node → Node → Prop}
    {first second : Option (Additional Node)}
    (rel : Option.Rel (Additional.Rel related) first second) :
    SameAdditional related first second := by
  cases rel with
  | none => exact .permission .absent .absent
  | some holds =>
      cases holds with
      | allowed value => exact .permission (.allowed value) (.allowed value)
      | schema holds => exact .schema holds

namespace Reworded

variable {isBranch : Bool} {first second : Node}

theorem refl (isBranch : Bool) (node : Node) : Reworded isBranch node node := by
  refine .intro (.refl_of_mem node (fun property member => ?_) (fun items itemsEq => ?_)
    (fun values valuesEq => ?_) (fun part member => ?_) fun branch member => ?_)
  · exact refl false property.2
  · exact refl false items
  · exact refl false values
  · exact refl false part
  · exact refl true branch
termination_by sizeOf node
decreasing_by
  · exact Node.sizeOf_property_lt member
  · exact Node.sizeOf_items_lt itemsEq
  · exact Node.sizeOf_values_lt valuesEq
  · exact Node.sizeOf_part_lt member
  · exact Node.sizeOf_branch_lt member

theorem value_or_related (reworded : Reworded isBranch first second) :
    (∃ value, first = .listing value ∧ second = .giving value) ∨
      Node.Related (Reworded false) (Reworded true) first second := by
  cases reworded with
  | value value => exact .inl ⟨value, rfl, rfl⟩
  | intro related => exact .inr related

theorem isValueBranch_eq (reworded : Reworded isBranch first second) :
    first.isValueBranch = second.isValueBranch := by
  obtain ⟨value, rfl, rfl⟩ | related := reworded.value_or_related
  · rfl
  · rw [Node.isValueBranch, Node.isValueBranch, related.own.typeKeyword, related.own.enumeration,
      related.own.constant]

/-- A type does not depend on how branches give their values. -/
theorem typedAlike {isBranch : Bool} {first second : Node}
    (reworded : Reworded isBranch first second) :
    TypedAlike first second := by
  obtain ⟨value, rfl, rfl⟩ | related := reworded.value_or_related
  · exact .intro (.same _) rfl rfl (.permission .absent .absent) .none .nil rfl
  · obtain ⟨-, elements, further, -, branches⟩ := related.nodes
    have values : first.anyOf.map Node.isValueBranch = second.anyOf.map Node.isValueBranch :=
      (map_eq_map_of_related branches fun _ _ branch => branch.isValueBranch_eq.symm).symm
    refine .intro (related.own.typeKeyword ▸ .same _) related.own.title related.own.reference
      ?_ ?_ ?_ values
    · refine SameAdditional.imp_of_mem (.of_rel further) fun values other valuesEq alike => ?_
      exact typedAlike alike
    · exact rel_imp_of_mem elements fun node other itemsEq alike => typedAlike alike
    · exact forall₂_imp_of_mem branches fun branch other member alike => typedAlike alike
termination_by sizeOf first
decreasing_by
  · exact Node.sizeOf_values_lt valuesEq
  · exact Node.sizeOf_items_lt itemsEq
  · exact Node.sizeOf_branch_lt member

end Reworded

/-- The members of a branch that lists one value. -/
def listedMembers (tree : Tree) : Members :=
  .ofEntries [("enum", .array 0 (.element 0 tree 0 .closed))]

/-- The members of a branch that gives one value by itself. -/
def givenMembers (tree : Tree) : Members :=
  .ofEntries [("const", tree)]

/-- A value can be read inside a list, in an object whose members are read to the given depth. -/
def ListReadable (depth : Nat) (tree : Tree) : Prop :=
  1 < depth ∧ ∃ value, tree.toValue (depth - 1) = .ok value

/-- Two values can both be read. -/
def BothReadable (depth : Nat) (first second : Tree) : Prop :=
  (∃ value, first.toValue depth = .ok value) ∧ ∃ value, second.toValue depth = .ok value

/-- A branch that lists a value is replaced by one that gives it by itself, under a condition on the
value and on the depth to which the members of the branch are read.  Under keys that are no keywords
there may be anything. -/
def valueBranch (condition : Nat → Tree → Prop) : Replacement where
  objects isBranch depth first second := isBranch = true ∧ ∃ tree, condition depth tree ∧
    first = listedMembers tree ∧ second = givenMembers tree
  skipped := BothReadable

/-- An object that gives null by itself is replaced by one without members. -/
def nullGiven : Replacement where
  objects _ _ first second := first = givenMembers (.null 0) ∧ second = .closed
  skipped := BothReadable

theorem BothReadable.skips {excused : Prop} {depth : Nat} {first second : Tree}
    (readable : BothReadable depth first second) :
    first.skipFault? = none ∧ second.skipFault? = none ∧
      ReadsAs excused (fun _ _ => True) (first.toValue depth) (second.toValue depth) := by
  obtain ⟨⟨value, valueEq⟩, other, otherEq⟩ := readable
  refine ⟨Tree.skipFault?_of_toValue valueEq, Tree.skipFault?_of_toValue otherEq, ?_⟩
  rw [valueEq, otherEq]
  exact .ok trivial

section Readings

variable {depth : Nat} {tree : Tree} {node : Node}

theorem readMembers_single_iff {name : String} {keyword : Keyword}
    (isKeyword : Keyword.ofName? name = some keyword) :
    readMembers depth [] .empty (.ofEntries [(name, tree)]) = .ok node ↔
      Node.empty.assign depth tree (.of depth tree) keyword = .ok node := by
  rw [Members.ofEntries, readMembers, Steps.bind_eq_ok_iff]
  constructor
  · rintro ⟨_, nameEq, read⟩
    obtain rfl := Except.ok.inj nameEq
    simp only [isKeyword, List.not_mem_nil, if_false] at read
    obtain ⟨assigned, assignedEq, finished⟩ := Steps.bind_eq_ok_iff.mp read
    obtain rfl := Except.ok.inj finished
    exact Steps.mapError_eq_ok_iff.mp (Steps.mapError_eq_ok_iff.mp assignedEq)
  · intro assignedEq
    refine ⟨name, rfl, ?_⟩
    simp only [isKeyword, List.not_mem_nil, if_false]
    exact Steps.bind_eq_ok_iff.mpr
      ⟨node, Steps.mapError_eq_ok_iff.mpr (Steps.mapError_eq_ok_iff.mpr assignedEq), rfl⟩

theorem readMembers_listed_iff :
    readMembers depth [] .empty (listedMembers tree) = .ok node ↔
      1 < depth ∧ ∃ value, tree.toValue (depth - 1) = .ok value ∧ node = .listing value := by
  have isKeyword : Keyword.ofName? "enum" = some .enumeration := by decide
  rw [listedMembers, readMembers_single_iff isKeyword]
  simp only [Node.assign, optional, readArray, readElements, Steps.bind_eq_ok_iff,
    Steps.map_eq_ok_iff, Steps.pure_eq_ok_iff, descend_eq_ok_iff]
  constructor
  · rintro ⟨_, ⟨_, ⟨_, ⟨deep, rfl⟩, value, valueEq, _, restEq, rfl⟩, rfl⟩, rfl⟩
    obtain rfl := Except.ok.inj restEq
    exact ⟨deep, value, Steps.mapError_eq_ok_iff.mp valueEq, rfl⟩
  · rintro ⟨deep, value, valueEq, rfl⟩
    refine ⟨_, ⟨_, ⟨_, ⟨deep, rfl⟩, value, ?_, [], rfl, rfl⟩, rfl⟩, rfl⟩
    exact Steps.mapError_eq_ok_iff.mpr valueEq

theorem readMembers_given_iff (notNull : isNull tree = false) :
    readMembers depth [] .empty (givenMembers tree) = .ok node ↔
      ∃ value, tree.toValue depth = .ok value ∧ node = .giving value := by
  have isKeyword : Keyword.ofName? "const" = some .constant := by decide
  rw [givenMembers, readMembers_single_iff isKeyword]
  simp only [Node.assign, optional_eq, notNull, Bool.false_eq_true, if_false,
    Steps.bind_eq_ok_iff, Steps.map_eq_ok_iff, Steps.pure_eq_ok_iff]
  constructor
  · rintro ⟨_, ⟨value, valueEq, rfl⟩, rfl⟩
    exact ⟨value, valueEq, rfl⟩
  · rintro ⟨value, valueEq, rfl⟩
    exact ⟨_, ⟨value, valueEq, rfl⟩, rfl⟩

/-- A list of one value reads as a plain value if the value can be read inside it. -/
theorem exists_toEntries_listed_iff :
    (∃ entries, (listedMembers tree).toEntries depth [] = .ok entries) ↔
      ListReadable depth tree := by
  constructor
  · rintro ⟨entries, read⟩
    obtain ⟨list, listEq⟩ := toValue_of_toEntries_ofEntries read _ List.mem_cons_self
    obtain ⟨inner, innerEq, listEq⟩ := Steps.bind_eq_ok_iff.mp listEq
    obtain ⟨deep, rfl⟩ := descend_eq_ok_iff.mp innerEq
    obtain ⟨values, valuesEq, -⟩ := Steps.bind_eq_ok_iff.mp listEq
    obtain ⟨value, valueEq, -⟩ := Steps.bind_eq_ok_iff.mp valuesEq
    exact ⟨deep, value, Steps.mapError_eq_ok_iff.mp valueEq⟩
  · rintro ⟨deep, value, valueEq⟩
    refine exists_toEntries_ofEntries (fun member isMember => ?_) []
    obtain rfl := List.mem_singleton.mp isMember
    have values : (Elements.element 0 tree 0 .closed).toValues (depth - 1) 0 = .ok [value] :=
      Steps.bind_eq_ok_iff.mpr ⟨value, Steps.mapError_eq_ok_iff.mpr valueEq, rfl⟩
    exact ⟨.array [value], Steps.bind_eq_ok_iff.mpr
      ⟨depth - 1, descend_eq_ok_iff.mpr ⟨deep, rfl⟩, Steps.bind_eq_ok_iff.mpr ⟨_, values, rfl⟩⟩⟩

theorem exists_toEntries_given {value : Value} (valueEq : tree.toValue depth = .ok value) :
    ∃ entries, (givenMembers tree).toEntries depth [] = .ok entries := by
  refine exists_toEntries_ofEntries (fun member isMember => ?_) []
  obtain rfl := List.mem_singleton.mp isMember
  exact ⟨value, valueEq⟩

end Readings

/-- A branch that gives a value by itself reads like one that lists it, as a schema that differs
from the other one in nothing else.  Only the list may fail to be read, where it nests too deep. -/
theorem congruence_valueBranch {excused : Prop} {condition : Nat → Tree → Prop}
    (notNull : ∀ depth tree, condition depth tree → isNull tree = false)
    (covers : ∀ depth tree, condition depth tree → ListReadable depth tree ∨ excused) :
    (valueBranch condition).Congruence excused Reworded where
  refl := Reworded.refl
  related _ _ _ := .intro
  plain := by
    rintro _ depth _ _ ⟨-, tree, holds, rfl, rfl⟩
    obtain ⟨deep, value, valueEq⟩ | may := covers depth tree holds
    · obtain ⟨entries, entriesEq⟩ := exists_toEntries_listed_iff.mpr ⟨deep, value, valueEq⟩
      obtain ⟨others, othersEq⟩ :=
        exists_toEntries_given (toValue_of_le (Nat.sub_le depth 1) valueEq)
      rw [entriesEq, othersEq]
      exact .ok trivial
    · refine .of_ok may fun entries entriesEq => ?_
      obtain ⟨-, value, valueEq⟩ := exists_toEntries_listed_iff.mp ⟨entries, entriesEq⟩
      obtain ⟨others, othersEq⟩ :=
        exists_toEntries_given (toValue_of_le (Nat.sub_le depth 1) valueEq)
      exact ⟨others, othersEq, trivial⟩
  reads := by
    rintro _ depth _ _ ⟨rfl, tree, holds, rfl, rfl⟩
    have given {value : Value} (valueEq : tree.toValue (depth - 1) = .ok value) :
        readMembers depth [] .empty (givenMembers tree) = .ok (.giving value) :=
      (readMembers_given_iff (notNull depth tree holds)).mpr
        ⟨value, toValue_of_le (Nat.sub_le depth 1) valueEq, rfl⟩
    obtain ⟨deep, value, valueEq⟩ | may := covers depth tree holds
    · rw [readMembers_listed_iff.mpr ⟨deep, value, valueEq, rfl⟩, given valueEq]
      exact .ok (.value value)
    · refine .of_ok may fun node read => ?_
      obtain ⟨-, value, valueEq, rfl⟩ := readMembers_listed_iff.mp read
      exact ⟨.giving value, given valueEq, .value value⟩
  skips := BothReadable.skips

/-- A null that is given by itself leaves no trace. -/
theorem congruence_nullGiven : nullGiven.Congruence False (fun _ => Eq) where
  refl _ _ := rfl
  related _ _ _ := Node.eq_of_related
  plain := by
    rintro _ depth _ _ ⟨rfl, rfl⟩
    have null : (Tree.null 0).toValue depth = .ok .null := rfl
    obtain ⟨entries, entriesEq⟩ := exists_toEntries_given null
    rw [entriesEq]
    exact .ok trivial
  reads := by
    rintro _ depth _ _ ⟨rfl, rfl⟩
    have isKeyword : Keyword.ofName? "const" = some .constant := by decide
    have read : readMembers depth [] .empty (givenMembers (.null 0)) = .ok .empty :=
      (readMembers_single_iff isKeyword).mpr rfl
    rw [read]
    exact .ok rfl
  skips := BothReadable.skips

end Schema
end SchemaClasses
