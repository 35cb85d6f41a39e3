import SchemaClasses.Proofs.Schema.Shapes

/-!
# Enumerations

An enumeration is spelled by branches that stand for one value each, and a single branch with a type
beside them, which admits all further values.  A node is taken for an enumeration exactly if it is
spelled like that and neither a reference nor a dictionary, and the order of its branches never
matters.  The fallback can be found by going through the branches once.
-/

namespace SchemaClasses
namespace Schema
namespace Node

variable {node branch fallback result : Node} {branches others : List Node} {values : Nat}

/-- A single listed value, or a constant. -/
def GivesOneValue (branch : Node) : Prop :=
  (∃ value, branch.enumeration = some [value]) ∨ ∃ value, branch.constant = some value

/-- Exactly one of the branches has a type, and it is the fallback.  There are others, and each of
them gives one value. -/
def IsFallbackAmong (branches : List Node) (fallback : Node) : Prop :=
  ∃ before after, branches = before ++ fallback :: after ∧ fallback.typeKeyword ≠ none ∧
    before ++ after ≠ [] ∧
      ∀ branch ∈ before ++ after, branch.typeKeyword = none ∧ branch.GivesOneValue

/-- A node that is spelled as an enumeration with the given fallback. -/
structure IsEnumeration (node fallback : Node) : Prop where
  unreferenced : node.reference = none
  noDictionary : ∀ values, node.additional ≠ some (.schema values)
  untyped : node.typeKeyword = none
  branches : IsFallbackAmong node.anyOf fallback

theorem isValueBranch_iff :
    branch.isValueBranch = true ↔ branch.typeKeyword = none ∧ branch.GivesOneValue := by
  have listed : (branch.enumeration.any fun values => values.length = 1) = true ↔
      ∃ value, branch.enumeration = some [value] := by
    cases branch.enumeration with
    | none => simp
    | some values => simp [List.length_eq_one_iff]
  rw [isValueBranch, Bool.and_eq_true, Bool.or_eq_true, Option.isNone_iff_eq_none,
    Option.isSome_iff_exists, listed, GivesOneValue]

theorem isFallbackAmong_iff :
    IsFallbackAmong branches fallback ↔ ∃ before after, branches = before ++ fallback :: after ∧
      fallback.typeKeyword ≠ none ∧ before ++ after ≠ [] ∧
        ∀ branch ∈ before ++ after, branch.isValueBranch = true := by
  simp only [IsFallbackAmong, isValueBranch_iff]

/-- The order of branches plays no part. -/
theorem IsFallbackAmong.perm (among : IsFallbackAmong branches fallback)
    (permuted : branches.Perm others) : IsFallbackAmong others fallback := by
  obtain ⟨before, after, rfl, typed, notAlone, values⟩ := among
  have member : fallback ∈ others := by
    apply permuted.mem_iff.mp
    simp
  obtain ⟨otherBefore, otherAfter, rfl⟩ := List.append_of_mem member
  -- Without the fallback, which is the same, the rest of one is a rearrangement of the other's.
  have rest : (before ++ after).Perm (otherBefore ++ otherAfter) := by
    apply List.Perm.cons_inv (a := fallback)
    exact List.perm_middle.symm.trans (permuted.trans List.perm_middle)
  refine ⟨otherBefore, otherAfter, rfl, typed, ?_, ?_⟩
  · intro alone
    rw [alone] at rest
    exact notAlone rest.eq_nil
  · intro branch inRest
    apply values
    exact rest.mem_iff.mpr inRest

theorem filter_of_untyped (untyped : ∀ branch ∈ branches, branch.typeKeyword = none) :
    branches.filter (fun branch => branch.typeKeyword.isSome) = [] ∧
      branches.filter (not ∘ fun branch => branch.typeKeyword.isSome) = branches := by
  constructor
  · apply List.filter_eq_nil_iff.mpr
    intro branch member
    simp [untyped branch member]
  · apply List.filter_eq_self.mpr
    intro branch member
    simp [untyped branch member]

/-- Setting the typed branches apart leaves one of them exactly if it stands among branches without
a type, which are then the rest. -/
theorem partition_typed_eq_iff {rest : List Node} :
    branches.partition (fun branch => branch.typeKeyword.isSome) = ([fallback], rest) ↔
      ∃ before after, branches = before ++ fallback :: after ∧ before ++ after = rest ∧
        fallback.typeKeyword ≠ none ∧ ∀ branch ∈ before ++ after, branch.typeKeyword = none := by
  rw [List.partition_eq_filter_filter, Prod.mk.injEq]
  constructor
  · rintro ⟨typedEq, restEq⟩
    obtain ⟨before, after, rfl, notBefore, typed, notAfter⟩ := List.filter_eq_cons_iff.mp typedEq
    have untyped : ∀ branch ∈ before ++ after, branch.typeKeyword = none := by
      intro branch member
      rcases List.mem_append.mp member with inBefore | inAfter
      · simpa using notBefore branch inBefore
      · simpa using List.filter_eq_nil_iff.mp notAfter branch inAfter
    have apart := (filter_of_untyped untyped).2
    refine ⟨before, after, rfl, ?_, Option.isSome_iff_ne_none.mp typed, untyped⟩
    rw [← restEq, ← apart]
    simp [typed]
  · rintro ⟨before, after, rfl, rfl, typed, untyped⟩
    obtain ⟨noneTyped, allUntyped⟩ := filter_of_untyped untyped
    rw [List.filter_append, List.append_eq_nil_iff] at noneTyped
    constructor
    · simp [noneTyped, Option.isSome_iff_ne_none.mpr typed]
    · rw [← allUntyped]
      simp [Option.isSome_iff_ne_none.mpr typed]

theorem enumerationFallback?_eq_some_iff :
    node.enumerationFallback? = some fallback ↔
      node.typeKeyword = none ∧ IsFallbackAmong node.anyOf fallback := by
  rw [isFallbackAmong_iff]
  unfold enumerationFallback?
  constructor
  · intro found
    split at found
    · nomatch found
    · next untyped =>
        split at found
        · next typed value values partEq =>
            split at found
            · next allValues =>
                obtain rfl := Option.some.inj found
                obtain ⟨before, after, branchesEq, restEq, typed, -⟩ :=
                  partition_typed_eq_iff.mp partEq
                refine ⟨by simpa using untyped, before, after, branchesEq, typed, ?_, ?_⟩
                · simp [restEq]
                · rw [restEq]
                  exact List.all_eq_true.mp allValues
            · nomatch found
        · nomatch found
  · rintro ⟨untyped, before, after, branchesEq, typed, notAlone, values⟩
    have partEq : node.anyOf.partition (fun branch => branch.typeKeyword.isSome) =
        ([fallback], before ++ after) := by
      apply partition_typed_eq_iff.mpr
      refine ⟨before, after, branchesEq, rfl, typed, ?_⟩
      intro branch member
      exact (isValueBranch_iff.mp (values branch member)).1
    obtain ⟨value, more, restEq⟩ := List.exists_cons_of_ne_nil notAlone
    rw [restEq] at partEq values
    simp only [untyped, partEq]
    rw [if_neg (by simp), if_pos (List.all_eq_true.mpr values)]

/-- The fallback that a walk through branches ends with, from the fallback found so far and the
number of values so far.  It stops at a second branch with a type and at a branch that is
neither. -/
def searchFallback (found : Option Node) (values : Nat) : List Node → Option Node
  | [] => if values = 0 then none else found
  | branch :: rest =>
      if branch.isValueBranch then searchFallback found (values + 1) rest
      else if branch.typeKeyword.isSome && found.isNone then
        searchFallback (some branch) values rest
      else none

/-- Behind the fallback only values may follow. -/
theorem searchFallback_some_eq_some_iff :
    searchFallback (some fallback) values branches = some result ↔
      fallback = result ∧ 0 < values + branches.length ∧
        ∀ branch ∈ branches, branch.isValueBranch = true := by
  induction branches generalizing values with
  | nil =>
      rw [searchFallback]
      by_cases noValues : values = 0
      · simp [noValues]
      · simp [noValues, Nat.pos_of_ne_zero noValues]
  | cons branch rest ih =>
      rw [searchFallback, List.forall_mem_cons, List.length_cons]
      by_cases isValue : branch.isValueBranch
      · have counted : values + 1 + rest.length = values + (rest.length + 1) := by omega
        rw [if_pos isValue, ih, counted]
        simp [isValue]
      · simp [isValue]

/-- A branch that gives no value is the fallback itself. -/
theorem fallback_first_of_not_value {rest before after : List Node}
    (notValue : ¬branch.isValueBranch = true)
    (splits : branch :: rest = before ++ fallback :: after)
    (allValues : ∀ other ∈ before ++ after, other.isValueBranch = true) :
    before = [] ∧ branch = fallback ∧ rest = after := by
  cases before with
  | nil =>
      obtain ⟨firstEq, restEq⟩ := List.cons.inj splits
      exact ⟨rfl, firstEq, restEq⟩
  | cons first before =>
      obtain ⟨rfl, -⟩ := List.cons.inj splits
      exact absurd (allValues branch (by simp)) notValue

/-- As long as there is no fallback, values may stand before it and behind it. -/
theorem searchFallback_none_eq_some_iff :
    searchFallback none values branches = some fallback ↔
      ∃ before after, branches = before ++ fallback :: after ∧ fallback.typeKeyword ≠ none ∧
        0 < values + (before ++ after).length ∧
          ∀ branch ∈ before ++ after, branch.isValueBranch = true := by
  induction branches generalizing values with
  | nil => simp [searchFallback]
  | cons branch rest ih =>
      rw [searchFallback]
      by_cases isValue : branch.isValueBranch
      -- A value goes in front of where the fallback splits the rest.
      · rw [if_pos isValue, ih]
        constructor
        · rintro ⟨before, after, rfl, typed, counted, allValues⟩
          refine ⟨branch :: before, after, rfl, typed, ?_, ?_⟩
          · rw [List.cons_append, List.length_cons]
            omega
          · exact List.forall_mem_cons.mpr ⟨isValue, allValues⟩
        · rintro ⟨before, after, splits, typed, counted, allValues⟩
          cases before with
          | nil =>
              obtain ⟨rfl, -⟩ := List.cons.inj splits
              exact absurd (isValueBranch_iff.mp isValue).1 typed
          | cons first before =>
              obtain ⟨rfl, rfl⟩ := List.cons.inj splits
              rw [List.cons_append, List.length_cons] at counted
              refine ⟨before, after, rfl, typed, ?_, ?_⟩
              · omega
              · exact (List.forall_mem_cons.mp allValues).2
      -- Anything else has to be the fallback, and the search goes on behind it.
      · rw [if_neg isValue]
        constructor
        · intro found
          split at found
          · next typed =>
              obtain ⟨rfl, counted, allValues⟩ := searchFallback_some_eq_some_iff.mp found
              exact ⟨[], rest, rfl, by simpa [Option.isSome_iff_ne_none] using typed, counted,
                allValues⟩
          · nomatch found
        · rintro ⟨before, after, splits, typed, counted, allValues⟩
          obtain ⟨rfl, rfl, rfl⟩ := fallback_first_of_not_value isValue splits allValues
          rw [if_pos (by simpa [Option.isSome_iff_ne_none] using typed)]
          exact searchFallback_some_eq_some_iff.mpr ⟨rfl, counted, allValues⟩

/-- The fallback is found by going through the branches once. -/
theorem enumerationFallback?_eq_search :
    node.enumerationFallback? =
      if node.typeKeyword.isSome then none else searchFallback none 0 node.anyOf := by
  -- Both sides are known by the fallbacks that they give.
  apply Option.ext
  intro fallback
  rw [enumerationFallback?_eq_some_iff, isFallbackAmong_iff]
  cases node.typeKeyword with
  | some keyword => simp
  | none =>
      simp only [Option.isSome_none, Bool.false_eq_true, if_false, true_and,
        searchFallback_none_eq_some_iff, Nat.zero_add, List.length_pos_iff]

theorem shape_eq_enumeration_iff :
    node.shape = .enumeration fallback ↔ node.IsEnumeration fallback := by
  rw [shape_eq_iff]
  constructor
  · intro hasShape
    cases hasShape with
    | enumeration unreferenced noDictionary _ found =>
        obtain ⟨untyped, among⟩ := enumerationFallback?_eq_some_iff.mp found
        exact ⟨unreferenced, noDictionary, untyped, among⟩
  · rintro ⟨unreferenced, noDictionary, untyped, among⟩
    have notArray : node.isSingleType .array = false := by
      simp [isSingleType, declaredTypes, untyped]
    apply HasShape.enumeration unreferenced noDictionary notArray
    exact enumerationFallback?_eq_some_iff.mpr ⟨untyped, among⟩

theorem mem_anyOf_of_shape_enumeration (shapeEq : node.shape = .enumeration fallback) :
    fallback ∈ node.anyOf := by
  obtain ⟨before, after, branchesEq, -⟩ := (shape_eq_enumeration_iff.mp shapeEq).branches
  simp [branchesEq]

theorem enumerationFallback?_perm (permuted : others.Perm node.anyOf) :
    { node with anyOf := others }.enumerationFallback? = node.enumerationFallback? := by
  apply Option.ext
  intro fallback
  rw [enumerationFallback?_eq_some_iff, enumerationFallback?_eq_some_iff]
  constructor
  · rintro ⟨untyped, among⟩
    exact ⟨untyped, among.perm permuted⟩
  · rintro ⟨untyped, among⟩
    exact ⟨untyped, among.perm permuted.symm⟩

/-- A node is an enumeration exactly if it is spelled as one, and the order of its branches changes
neither its shape nor the fallback. -/
theorem shape_recognizesEnumerations (node : Node) :
    (∀ fallback, node.shape = .enumeration fallback ↔ node.IsEnumeration fallback) ∧
      ∀ branches : List Node, branches.Perm node.anyOf →
        { node with anyOf := branches }.shape = node.shape := by
  constructor
  · intro fallback
    exact shape_eq_enumeration_iff
  · intro branches permuted
    unfold shape
    rw [enumerationFallback?_perm permuted]
    rfl

/-- Two media types, one listed and one a constant, and any other text. -/
def mediaType : Node :=
  { empty with
    anyOf :=
      [ { empty with enumeration := some [.string "image/jpeg"] },
        { empty with constant := some (.string "image/png") },
        { empty with typeKeyword := some (.single .string) } ] }

theorem shape_mediaType_reversed :
    mediaType.anyOf.reverse.Perm mediaType.anyOf ∧
      mediaType.IsEnumeration { empty with typeKeyword := some (.single .string) } ∧
        { mediaType with anyOf := mediaType.anyOf.reverse }.shape =
          .enumeration { empty with typeKeyword := some (.single .string) } := by
  have permuted : mediaType.anyOf.reverse.Perm mediaType.anyOf := List.reverse_perm mediaType.anyOf
  obtain ⟨recognized, unordered⟩ := shape_recognizesEnumerations mediaType
  have shapeEq :
      mediaType.shape = .enumeration { empty with typeKeyword := some (.single .string) } := rfl
  exact ⟨permuted, (recognized _).mp shapeEq, (unordered _ permuted).trans shapeEq⟩

end Node
end Schema
end SchemaClasses
