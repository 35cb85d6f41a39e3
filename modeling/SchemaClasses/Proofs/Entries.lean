import SchemaClasses.Entries

/-!
# Sorted entries

Entries that are inserted one by one are in the strict order of their keys, so that no key has two
of them.  Sorted entries are determined by what is found in them.
-/

namespace SchemaClasses

theorem lookup_cons_entry {κ α : Type} [BEq κ] [LawfulBEq κ] [DecidableEq κ] {key other : κ}
    {value : α} {rest : List (κ × α)} :
    List.lookup other ((key, value) :: rest) =
      if other = key then some value else rest.lookup other := by
  by_cases same : other = key
  · simp [same]
  · have different : (other == key) = false := by simpa using same
    simp [List.lookup_cons, same, different]

variable {α : Type} {key other : String} {value : α} {entry : String × α}
  {entries : List (String × α)}

/-- The keys of entries increase. -/
def KeysIncrease (entries : List (String × α)) : Prop :=
  (entries.map Prod.fst).Pairwise (· < ·)

theorem eq_or_mem_of_mem_insertSorted (member : entry ∈ insertSorted key value entries) :
    entry = (key, value) ∨ entry ∈ entries := by
  induction entries with
  | nil => exact Or.inl (List.mem_singleton.mp member)
  | cons first rest ih =>
      obtain ⟨firstKey, old⟩ := first
      unfold insertSorted at member
      split at member
      · exact List.mem_cons.mp member
      · split at member
        · rcases List.mem_cons.mp member with new | inRest
          · exact Or.inl new
          · exact Or.inr (List.mem_cons_of_mem _ inRest)
        · rcases List.mem_cons.mp member with isFirst | inRest
          · exact Or.inr (isFirst ▸ List.mem_cons_self)
          · rcases ih inRest with new | old
            · exact Or.inl new
            · exact Or.inr (List.mem_cons_of_mem _ old)

theorem mem_keys_insertSorted (member : other ∈ (insertSorted key value entries).map Prod.fst) :
    other = key ∨ other ∈ entries.map Prod.fst := by
  obtain ⟨entry, inserted, rfl⟩ := List.mem_map.mp member
  rcases eq_or_mem_of_mem_insertSorted inserted with rfl | old
  · exact Or.inl rfl
  · exact Or.inr (List.mem_map_of_mem old)

theorem lt_of_not_lt_of_ne (notLess : ¬key < other) (different : key ≠ other) : other < key := by
  rw [← String.not_le]
  intro keyLe
  exact different (String.le_antisymm keyLe (String.not_lt.mp notLess))

theorem keysIncrease_insertSorted (key : String) (value : α) (increase : KeysIncrease entries) :
    KeysIncrease (insertSorted key value entries) := by
  unfold KeysIncrease at increase ⊢
  induction entries with
  | nil => simp [insertSorted]
  | cons first rest ih =>
      obtain ⟨firstKey, old⟩ := first
      rw [List.map_cons, List.pairwise_cons] at increase
      obtain ⟨firstLess, restIncrease⟩ := increase
      unfold insertSorted
      by_cases less : key < firstKey
      · rw [if_pos less, List.map_cons, List.map_cons, List.pairwise_cons, List.pairwise_cons]
        refine ⟨?_, firstLess, restIncrease⟩
        intro later laterMem
        rcases List.mem_cons.mp laterMem with rfl | inRest
        · exact less
        · exact String.lt_trans less (firstLess later inRest)
      · rw [if_neg less]
        by_cases same : key = firstKey
        · subst same
          rw [if_pos rfl, List.map_cons, List.pairwise_cons]
          exact ⟨firstLess, restIncrease⟩
        · rw [if_neg same, List.map_cons, List.pairwise_cons]
          refine ⟨?_, ih restIncrease⟩
          intro later laterMem
          rcases mem_keys_insertSorted laterMem with rfl | inRest
          · exact lt_of_not_lt_of_ne less same
          · exact firstLess later inRest

theorem lookup_insertSorted (key other : String) (value : α) (entries : List (String × α)) :
    (insertSorted key value entries).lookup other =
      if other = key then some value else entries.lookup other := by
  induction entries with
  | nil => rw [insertSorted, lookup_cons_entry]
  | cons first rest ih =>
      obtain ⟨firstKey, old⟩ := first
      unfold insertSorted
      by_cases less : key < firstKey
      · rw [if_pos less, lookup_cons_entry]
      · rw [if_neg less]
        by_cases same : key = firstKey
        · subst same
          rw [if_pos rfl, lookup_cons_entry, lookup_cons_entry]
          by_cases found : other = key
          · rw [if_pos found, if_pos found]
          · rw [if_neg found, if_neg found, if_neg found]
        · rw [if_neg same, lookup_cons_entry, ih, lookup_cons_entry]
          by_cases isFirst : other = firstKey
          · have notKey : other ≠ key := fun isKey => same (isKey.symm.trans isFirst)
            rw [if_pos isFirst, if_neg notKey, if_pos isFirst]
          · rw [if_neg isFirst, if_neg isFirst]

theorem KeysIncrease.pairwise (increase : KeysIncrease entries) :
    entries.Pairwise fun first second => first.1 < second.1 :=
  List.pairwise_map.mp increase

theorem KeysIncrease.mem_iff_lookup (increase : KeysIncrease entries) :
    (key, value) ∈ entries ↔ entries.lookup key = some value := by
  induction entries with
  | nil => simp
  | cons first rest ih =>
      obtain ⟨firstKey, old⟩ := first
      obtain ⟨firstLess, restIncrease⟩ := List.pairwise_cons.mp increase
      rw [List.mem_cons, ih restIncrease, lookup_cons_entry]
      by_cases isFirst : key = firstKey
      · subst isFirst
        rw [if_pos rfl, ← ih restIncrease]
        constructor
        · rintro (isEntry | inRest)
          · rw [(Prod.mk.inj isEntry).2]
          · exact absurd (firstLess key (List.mem_map_of_mem inRest)) (String.lt_irrefl key)
        · intro valueEq
          rw [Option.some.inj valueEq]
          exact Or.inl rfl
      · rw [if_neg isFirst]
        simp [isFirst]

/-- Sorted entries are the same if they have the same members. -/
theorem KeysIncrease.eq_of_mem_iff {others : List (String × α)} (increase : KeysIncrease entries)
    (othersIncrease : KeysIncrease others) (same : ∀ entry, entry ∈ entries ↔ entry ∈ others) :
    entries = others := by
  have different : ∀ {first second : String × α}, first.1 < second.1 → first ≠ second := by
    rintro first second less rfl
    exact String.lt_irrefl _ less
  have perm : entries.Perm others :=
    (List.perm_ext_iff_of_nodup (increase.pairwise.imp different)
      (othersIncrease.pairwise.imp different)).mpr same
  refine perm.eq_of_pairwise ?_ increase.pairwise othersIncrease.pairwise
  intro first second _ _ less greater
  exact absurd (String.lt_trans less greater) (String.lt_irrefl _)

end SchemaClasses
