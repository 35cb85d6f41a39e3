import Mathlib.Data.List.Forall2

/-!
# Paired lists

Lists whose members are related one by one, and lists whose members have distinct keys.  The lemmas
concern lists alone and know nothing of schemas.
-/

namespace SchemaClasses

section Related

variable {α β γ : Type} {related : α → β → Prop} {lefts : List α} {rights : List β}

theorem exists_right_of_mem {left : α} (pairs : List.Forall₂ related lefts rights)
    (member : left ∈ lefts) : ∃ right ∈ rights, related left right := by
  induction pairs with
  | nil => nomatch member
  | cons first _ ih =>
      rcases List.mem_cons.mp member with rfl | inRest
      · exact ⟨_, List.mem_cons_self, first⟩
      · obtain ⟨right, rightMem, pair⟩ := ih inRest
        exact ⟨right, List.mem_cons_of_mem _ rightMem, pair⟩

theorem exists_left_of_mem {right : β} (pairs : List.Forall₂ related lefts rights)
    (member : right ∈ rights) : ∃ left ∈ lefts, related left right :=
  exists_right_of_mem pairs.flip member

theorem exists_related_of_forall (each : ∀ left ∈ lefts, ∃ right, related left right) :
    ∃ rights, List.Forall₂ related lefts rights := by
  induction lefts with
  | nil => exact ⟨[], List.Forall₂.nil⟩
  | cons left rest ih =>
      obtain ⟨right, pair⟩ := each left List.mem_cons_self
      obtain ⟨rights, pairs⟩ := ih fun later member => each later (List.mem_cons_of_mem _ member)
      exact ⟨right :: rights, List.Forall₂.cons pair pairs⟩

theorem forall₂_imp_of_mem {implied : α → β → Prop} (pairs : List.Forall₂ related lefts rights)
    (implies : ∀ left right, left ∈ lefts → related left right → implied left right) :
    List.Forall₂ implied lefts rights := by
  induction pairs with
  | nil => exact .nil
  | cons holds _ ih =>
      refine .cons (implies _ _ List.mem_cons_self holds) (ih fun left right member => ?_)
      exact implies left right (List.mem_cons_of_mem _ member)

/-- What related members have in common their lists have in common. -/
theorem map_eq_map_of_related {ofLeft : α → γ} {ofRight : β → γ}
    (pairs : List.Forall₂ related lefts rights)
    (agree : ∀ left right, related left right → ofRight right = ofLeft left) :
    rights.map ofRight = lefts.map ofLeft := by
  induction pairs with
  | nil => rfl
  | cons first _ ih => rw [List.map_cons, List.map_cons, ih, agree _ _ first]

/-- Where each member has only one related member, that is an image of it. -/
theorem eq_map_of_related {image : α → β}
    (single : ∀ left right other, related left right → related left other → right = other)
    (pairs : List.Forall₂ related lefts rights)
    (images : ∀ left ∈ lefts, related left (image left)) : rights = lefts.map image := by
  induction pairs with
  | nil => rfl
  | cons first _ ih =>
      have firstEq := single _ _ _ first (images _ List.mem_cons_self)
      have restEq := ih fun left member => images left (List.mem_cons_of_mem _ member)
      rw [List.map_cons, ← firstEq, ← restEq]

theorem exists_map_of_related [Nonempty β]
    (single : ∀ left right other, related left right → related left other → right = other)
    (pairs : List.Forall₂ related lefts rights) :
    ∃ image : α → β, rights = lefts.map image ∧ ∀ left ∈ lefts, related left (image left) := by
  have each : ∀ left, ∃ right, left ∈ lefts → related left right := by
    intro left
    by_cases isLeft : left ∈ lefts
    · obtain ⟨right, -, pair⟩ := exists_right_of_mem pairs isLeft
      exact ⟨right, fun _ => pair⟩
    · exact ⟨Classical.ofNonempty, fun member => absurd member isLeft⟩
  choose image images using each
  exact ⟨image, eq_map_of_related single pairs images, images⟩

end Related

/-- Among members with distinct keys the one with a key is found by it. -/
theorem find?_eq_some_iff_of_nodup {α : Type} {key : α → String} {members : List α} {member : α}
    {wanted : String} (distinct : (members.map key).Nodup) :
    members.find? (fun other => key other = wanted) = some member ↔
      member ∈ members ∧ key member = wanted := by
  induction members with
  | nil => simp
  | cons first rest ih =>
      obtain ⟨notMem, restDistinct⟩ := List.nodup_cons.mp distinct
      by_cases isWanted : key first = wanted
      · rw [List.find?_cons_of_pos (by simpa using isWanted)]
        constructor
        · intro found
          obtain rfl := Option.some.inj found
          exact ⟨List.mem_cons_self, isWanted⟩
        · rintro ⟨isMember, keyEq⟩
          rcases List.mem_cons.mp isMember with rfl | inRest
          · rfl
          · have firstKey : key first = key member := isWanted.trans keyEq.symm
            exact absurd (firstKey ▸ List.mem_map_of_mem inRest) notMem
      · rw [List.find?_cons_of_neg (by simpa using isWanted), ih restDistinct, List.mem_cons]
        constructor
        · rintro ⟨inRest, keyEq⟩
          exact ⟨Or.inr inRest, keyEq⟩
        · rintro ⟨rfl | inRest, keyEq⟩
          · exact absurd keyEq isWanted
          · exact ⟨inRest, keyEq⟩

end SchemaClasses
