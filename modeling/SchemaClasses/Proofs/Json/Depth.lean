import SchemaClasses.Json.Value
import SchemaClasses.Proofs.Steps

/-!
# Depth

A value that is read to some depth is read as the same to any greater depth.
-/

namespace SchemaClasses
namespace Json

theorem descend_eq_ok_iff {depth start inner : Nat} :
    descend depth start = .ok inner ↔ 1 < depth ∧ inner = depth - 1 := by
  unfold descend
  split
  · next shallow =>
      constructor
      · intro refused
        nomatch refused
      · rintro ⟨deep, -⟩
        omega
  · next notShallow =>
      constructor
      · intro inside
        exact ⟨by omega, (Except.ok.inj inside).symm⟩
      · rintro ⟨-, rfl⟩
        rfl

mutual

theorem toValue_of_le {depth deeper : Nat} (le : depth ≤ deeper) :
    ∀ {tree : Tree} {value : Value},
      tree.toValue depth = .ok value → tree.toValue deeper = .ok value
  | .null _, _, read | .boolean _ _, _, read | .number _ _, _, read | .string _ _, _, read => read
  | .broken _, _, read => nomatch read
  | .array _ elements, _, read => by
      rw [Tree.toValue] at read ⊢
      obtain ⟨inner, innerEq, read⟩ := Steps.bind_eq_ok_iff.mp read
      obtain ⟨deep, rfl⟩ := descend_eq_ok_iff.mp innerEq
      obtain ⟨values, valuesEq, read⟩ := Steps.bind_eq_ok_iff.mp read
      refine Steps.bind_eq_ok_iff.mpr ⟨deeper - 1, descend_eq_ok_iff.mpr ⟨by omega, rfl⟩, ?_⟩
      exact Steps.bind_eq_ok_iff.mpr ⟨values, toValues_of_le (by omega) valuesEq, read⟩
  | .object _ members, _, read => by
      rw [Tree.toValue] at read ⊢
      obtain ⟨inner, innerEq, read⟩ := Steps.bind_eq_ok_iff.mp read
      obtain ⟨deep, rfl⟩ := descend_eq_ok_iff.mp innerEq
      obtain ⟨entries, entriesEq, read⟩ := Steps.bind_eq_ok_iff.mp read
      refine Steps.bind_eq_ok_iff.mpr ⟨deeper - 1, descend_eq_ok_iff.mpr ⟨by omega, rfl⟩, ?_⟩
      exact Steps.bind_eq_ok_iff.mpr ⟨entries, toEntries_of_le (by omega) entriesEq, read⟩

theorem toValues_of_le {depth deeper : Nat} (le : depth ≤ deeper) :
    ∀ {elements : Elements} {position : Nat} {values : List Value},
      elements.toValues depth position = .ok values → elements.toValues deeper position = .ok values
  | .closed, _, _, read => read
  | .broken _, _, _, read => nomatch read
  | .element _ tree _ rest, _, _, read => by
      rw [Elements.toValues] at read ⊢
      obtain ⟨value, valueEq, read⟩ := Steps.bind_eq_ok_iff.mp read
      obtain ⟨values, valuesEq, read⟩ := Steps.bind_eq_ok_iff.mp read
      have valueDeeper := toValue_of_le le (Steps.mapError_eq_ok_iff.mp valueEq)
      refine Steps.bind_eq_ok_iff.mpr ⟨value, Steps.mapError_eq_ok_iff.mpr valueDeeper, ?_⟩
      exact Steps.bind_eq_ok_iff.mpr ⟨values, toValues_of_le le valuesEq, read⟩

theorem toEntries_of_le {depth deeper : Nat} (le : depth ≤ deeper) :
    ∀ {members : Members} {entries result : List (String × Value)},
      members.toEntries depth entries = .ok result → members.toEntries deeper entries = .ok result
  | .closed, _, _, read => read
  | .broken _, _, _, read => nomatch read
  | .keyAlone _ _ _, _, _, read => by
      rw [Members.toEntries] at read
      obtain ⟨_, -, failed⟩ := Steps.bind_eq_ok_iff.mp read
      nomatch failed
  | .member _ _ tree _ rest, _, _, read => by
      rw [Members.toEntries] at read ⊢
      obtain ⟨name, nameEq, read⟩ := Steps.bind_eq_ok_iff.mp read
      obtain ⟨value, valueEq, read⟩ := Steps.bind_eq_ok_iff.mp read
      have valueDeeper := toValue_of_le le (Steps.mapError_eq_ok_iff.mp valueEq)
      refine Steps.bind_eq_ok_iff.mpr ⟨name, nameEq, ?_⟩
      exact Steps.bind_eq_ok_iff.mpr
        ⟨value, Steps.mapError_eq_ok_iff.mpr valueDeeper, toEntries_of_le le read⟩

end

end Json
end SchemaClasses
