import Mathlib.Logic.Relation
import SchemaClasses.Naming.Members
import SchemaClasses.Proofs.Naming.Words

/-!
# Names and the case of their texts

Names are made from texts by mappings of case, one after another, and by leaving characters out.
Every character of a name therefore is one of the text, up to its case.
-/

namespace SchemaClasses
namespace Naming

open Text

variable {c d : Char} {text image : List Char}

/-- One mapping of case gives `d` for `c`, or for a text that `c` is in. -/
inductive CaseStep (c : Char) : Char → Prop where
  | lower {d : Char} : d ∈ lowerChar c → CaseStep c d
  | upper {d : Char} : d ∈ upperChar c → CaseStep c d
  | finalSigma : c = 'Σ' → CaseStep c 'ς'

/-- Mappings of case, one after another, give `d` for `c`. -/
def CaseVariant : Char → Char → Prop :=
  Relation.ReflTransGen CaseStep

/-- Every character of `image` is one of `text` up to its case. -/
def Recases (text image : List Char) : Prop :=
  ∀ d ∈ image, ∃ c ∈ text, CaseVariant c d

theorem Recases.refl (text : List Char) : Recases text text :=
  fun d member => ⟨d, member, .refl⟩

theorem Recases.mono {larger : List Char} (recases : Recases text image)
    (subset : ∀ c ∈ text, c ∈ larger) : Recases larger image := by
  intro d member
  obtain ⟨c, inText, variant⟩ := recases d member
  exact ⟨c, subset c inText, variant⟩

theorem Recases.trans {further : List Char} (first : Recases text image)
    (second : Recases image further) : Recases text further := by
  intro d member
  obtain ⟨e, inImage, later⟩ := second d member
  obtain ⟨c, inText, earlier⟩ := first e inImage
  exact ⟨c, inText, Relation.ReflTransGen.trans earlier later⟩

theorem Recases.append {other otherImage : List Char} (first : Recases text image)
    (second : Recases other otherImage) : Recases (text ++ other) (image ++ otherImage) := by
  intro d member
  rcases List.mem_append.mp member with inFirst | inSecond
  · exact first.mono (fun c => List.mem_append_left _) d inFirst
  · exact second.mono (fun c => List.mem_append_right _) d inSecond

theorem Recases.of_steps (steps : ∀ d ∈ image, CaseStep c d) : Recases [c] image :=
  fun d member => ⟨c, List.mem_singleton_self c, .single (steps d member)⟩

theorem recases_lowerChar (c : Char) : Recases [c] (lowerChar c) :=
  .of_steps fun _ => .lower

theorem recases_upperChar (c : Char) : Recases [c] (upperChar c) :=
  .of_steps fun _ => .upper

theorem recases_lowerFirst (text : List Char) : Recases text (lowerFirst text) := by
  cases text with
  | nil => exact .refl []
  | cons c rest => exact (recases_lowerChar c).append (.refl rest)

theorem recases_upperFirst (text : List Char) : Recases text (upperFirst text) := by
  cases text with
  | nil => exact .refl []
  | cons c rest => exact (recases_upperChar c).append (.refl rest)

/-- The two small letters for a capital sigma. -/
theorem caseStep_sigma (isSigma : d = 'σ' ∨ d = 'ς') : CaseStep 'Σ' d := by
  rcases isSigma with rfl | rfl
  · exact .lower (by decide +kernel)
  · exact .finalSigma rfl

theorem recases_lowerAfter (before text : List Char) : Recases text (lowerAfter before text) := by
  induction text generalizing before with
  | nil => exact .refl []
  | cons c rest ih =>
      have ofFirst : Recases [c] (if c = 'Σ' then
          if startsCased before && !startsCased rest then ['ς'] else ['σ'] else lowerChar c) := by
        split
        · next isSigma =>
            subst isSigma
            refine .of_steps fun d member => caseStep_sigma ?_
            split at member
            · exact Or.inr (List.mem_singleton.mp member)
            · exact Or.inl (List.mem_singleton.mp member)
        · exact recases_lowerChar c
      exact ofFirst.append (ih (c :: before))

theorem recases_lowerTail (text : List Char) : Recases text (lowerTail text) := by
  fun_induction lowerTail text with
  | case1 => exact .refl []
  | case2 => exact .of_steps fun d member => caseStep_sigma (Or.inr (List.mem_singleton.mp member))
  | case3 c isOther => exact recases_lowerChar c
  | case4 c next rest ih => exact (recases_lowerChar c).append ih

theorem recases_capitalize (word : List Char) : Recases word (capitalize word) := by
  cases word with
  | nil => exact .refl []
  | cons c rest => exact (recases_upperChar c).append (recases_lowerTail rest)

/-- Words that are recased one by one are recased together. -/
theorem recases_flatMap {recase : List Char → List Char}
    (ofWord : ∀ word, Recases word (recase word)) (words : List (List Char)) :
    Recases words.flatten (words.flatMap recase) := by
  induction words with
  | nil => exact .refl []
  | cons word words ih =>
      rw [List.flatMap_cons, List.flatten_cons]
      exact (ofWord word).append ih

/-- A name that is joined from words has the word characters of its text alone. -/
theorem recases_joinCapitalized (text : List Char) :
    Recases (text.filter isWordCharacter) (joinCapitalized text) := by
  rw [← flatten_words]
  exact recases_flatMap recases_capitalize (words text)

theorem recases_className (title : String) :
    Recases (title.toList.filter fun c => !decide (c = ' ')) (className title).toList := by
  rw [← flatten_fields, className, String.toList_ofList]
  exact recases_flatMap (fun word => (recases_lowerAfter [] word).trans (recases_upperFirst _)) _

end Naming
end SchemaClasses
