import SchemaClasses.Proofs.Naming.ClassNames

/-!
# Names of backing fields

The name of a field begins with a small letter, and every other name that is derived from ASCII
texts with a capital or a digit.  The letter that a field name lowers is a capital in the public
name, so that nothing is lost with its case.
-/

namespace SchemaClasses
namespace Naming

open Text

variable {words : List (List Char)} {name title fileName key other : String}

/-- A name does not begin with a small ASCII letter. -/
def StartsRaised (name : String) : Prop :=
  ∀ c ∈ name.toList.head?, c.isLower = false

theorem not_isLower_of_head?_flatMap_capitalized :
    ∀ c ∈ (words.flatMap capitalized).head?, c.isLower = false := by
  intro c isHead
  induction words with
  | nil => nomatch isHead
  | cons word words ih =>
      cases word with
      | nil => exact ih isHead
      | cons first rest =>
          obtain rfl : first.toUpper = c := Option.some.inj isHead
          exact Char.isLower_toUpper_eq_false first

theorem startsRaised_flatMap_capitalized :
    StartsRaised (String.ofList (words.flatMap capitalized)) := by
  rw [StartsRaised, String.toList_ofList]
  exact fun c => not_isLower_of_head?_flatMap_capitalized c

theorem startsRaised_publicName (ascii : IsAscii key.toList) : StartsRaised (publicName key) := by
  rw [publicName, joinCapitalized_of_ascii ascii]
  exact startsRaised_flatMap_capitalized

theorem startsRaised_className (ascii : IsAscii title.toList) : StartsRaised (className title) := by
  rw [className_of_ascii ascii]
  exact startsRaised_flatMap_capitalized

theorem startsRaised_classNameOfFile (ascii : IsAscii fileName.toList) :
    StartsRaised (classNameOfFile fileName) := by
  have stemAscii : IsAscii (stemOf fileName) :=
    fun c member => ascii c ((stemOf_isPrefix fileName).subset member)
  rw [classNameOfFile_eq, joinCapitalized_of_ascii stemAscii]
  exact startsRaised_flatMap_capitalized

theorem startsRaised_predicateName (name : String) : StartsRaised (predicateName name) := by
  intro c isHead
  have isCapital : (predicateName name).toList.head? = some 'S' := by
    rw [predicateName, String.toList_append]
    rfl
  obtain rfl := Option.some.inj (isCapital.symm.trans isHead)
  decide

/-- The mark of a field sets its name apart from all that do not begin with a small letter. -/
theorem StartsRaised.ne_backingName (raised : StartsRaised name) (other : String) :
    name ≠ backingName other := by
  rintro rfl
  have isMark : (backingName other).toList.head? = some 'm' := by
    rw [backingName, String.toList_append]
    rfl
  exact absurd (raised 'm' isMark) (by decide)

/-- A public name and the name of its field have the same letters behind the first. -/
theorem backingName_cases (ascii : IsAscii key.toList) :
    (publicName key = "" ∧ backingName (publicName key) = "m_") ∨
      ∃ (first : Char) (rest : List Char), publicName key = String.ofList (first.toUpper :: rest) ∧
        backingName (publicName key) = "m_" ++ String.ofList (first.toLower :: rest) := by
  rcases publicName_cases ascii with ⟨-, nameEq⟩ | ⟨first, _, rest, found, nameEq, -⟩
  · exact Or.inl ⟨nameEq, by rw [nameEq]; rfl⟩
  · refine Or.inr ⟨first, rest, nameEq, ?_⟩
    have isAlphanum : first.isAlphanum = true :=
      isAlphanum_of_mem_lettersAndDigits (by rw [found]; exact List.mem_cons_self)
    have raisedAscii : first.toUpper.toNat < 128 := by
      have ofCode : ∀ code < 128, (Char.ofNat code).toUpper.toNat < 128 := by decide
      simpa using ofCode first.toNat (toNat_lt_of_isAlphanum isAlphanum)
    rw [nameEq, backingName, String.toList_ofList, lowerFirst, lowerChar, if_pos raisedAscii,
      Char.toLower_toUpper_eq_toLower, List.singleton_append]

theorem publicName_eq_of_backingName_eq (ascii : IsAscii key.toList)
    (otherAscii : IsAscii other.toList)
    (sameField : backingName (publicName key) = backingName (publicName other)) :
    publicName key = publicName other := by
  rcases backingName_cases ascii with ⟨nameEq, fieldEq⟩ | ⟨first, rest, nameEq, fieldEq⟩
  · rcases backingName_cases otherAscii with ⟨otherEq, -⟩ | ⟨otherFirst, otherRest, -, otherField⟩
    · rw [nameEq, otherEq]
    · rw [fieldEq, otherField] at sameField
      simpa using congrArg String.toList sameField
  · rcases backingName_cases otherAscii with ⟨-, otherField⟩ |
      ⟨otherFirst, otherRest, otherEq, otherField⟩
    · rw [fieldEq, otherField] at sameField
      simpa using congrArg String.toList sameField
    · rw [fieldEq, otherField, String.append_right_inj, String.ofList_inj, List.cons.injEq]
        at sameField
      obtain ⟨lowered, rfl⟩ := sameField
      have sameFirst : first.toUpper = otherFirst.toUpper := by
        rw [← Char.toUpper_toLower_eq_toUpper, lowered, Char.toUpper_toLower_eq_toUpper]
      rw [nameEq, otherEq, sameFirst]

end Naming
end SchemaClasses
