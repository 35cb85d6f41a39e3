import SchemaClasses.Proofs.Naming.CaseVariants
import SchemaClasses.Proofs.Naming.ClassNames
import SchemaClasses.Proofs.Text.CasedLetters

/-!
# Names as identifiers

Every character of a name stands in the text that the name is made from, up to its case.  A name
therefore begins with a letter where its text does, and goes on with letters, digits, underscores
and the marks of letters that have no precomposed other case.
-/

namespace SchemaClasses
namespace Naming

open Text

variable {c d : Char} {text image source : List Char} {name title key fileName : String}

/-- What stands in a name: letters, digits, underscores, and a mark where a mapping of case gives it
for a letter of the text that the name is made from. -/
def IsNamePart (source : List Char) (d : Char) : Prop :=
  isWordCharacter d = true ∨ d = '_' ∨
    d ∈ combiningMarks ∧ ∃ c ∈ source, isWordCharacter c = true ∧ CaseVariant c d

/-- A name begins with a letter or an underscore, and has nothing in it but its parts. -/
structure IsIdentifierFrom (source : List Char) (name : String) : Prop where
  start : isMemberName name = true
  parts : ∀ d ∈ name.toList, IsNamePart source d

theorem isWordCharacter_of_isAlphabetic (isLetter : isAlphabetic c = true) :
    isWordCharacter c = true := by
  rw [isWordCharacter, isLetter, Bool.true_or]

theorem mem_caseImage_cases (isImage : IsCaseImage c image) (member : d ∈ image) :
    d = c ∨ isWordCharacter d = true ∨ d ∈ combiningMarks := by
  rcases isImage with rfl | ⟨first, rest, rfl, isLetter, behind⟩
  · exact Or.inl (List.mem_singleton.mp member)
  · rcases List.mem_cons.mp member with rfl | later
    · exact Or.inr (Or.inl (isWordCharacter_of_isAlphabetic isLetter))
    · exact Or.inr ((behind d later).imp_left isWordCharacter_of_isAlphabetic)

theorem CaseStep.cases_image (step : CaseStep c d) :
    d = c ∨ isWordCharacter d = true ∨ d ∈ combiningMarks := by
  cases step with
  | lower member => exact mem_caseImage_cases (isCaseImage_lowerChar c) member
  | upper member => exact mem_caseImage_cases (isCaseImage_upperChar c) member
  | finalSigma => exact Or.inr (Or.inl (by decide +kernel))

/-- Letters, digits and marks have no other images than these. -/
theorem CaseVariant.cases_image (variant : CaseVariant c d) (isWord : isWordCharacter c = true) :
    isWordCharacter d = true ∨ d ∈ combiningMarks := by
  induction variant with
  | refl => exact Or.inl isWord
  | tail earlier step ih =>
      rcases step.cases_image with rfl | ofImage
      · exact ih
      · exact ofImage

theorem CaseVariant.eq_underscore (variant : CaseVariant '_' d) : d = '_' := by
  induction variant with
  | refl => rfl
  | tail earlier step ih =>
      subst ih
      cases step with
      | lower member => exact List.mem_singleton.mp member
      | upper member => exact List.mem_singleton.mp member
      | finalSigma isSigma => exact absurd isSigma (by decide)

theorem isNamePart_of_recases (recases : Recases text image)
    (plain : ∀ c ∈ text, c ∈ source ∧ (isWordCharacter c = true ∨ c = '_')) :
    ∀ d ∈ image, IsNamePart source d := by
  intro d member
  obtain ⟨c, inText, variant⟩ := recases d member
  obtain ⟨inSource, isWord | rfl⟩ := plain c inText
  · -- Only here a mark can come in: an underscore has no other case.
    rcases variant.cases_image isWord with laterWord | isMark
    · exact Or.inl laterWord
    · exact Or.inr (Or.inr ⟨isMark, c, inSource, isWord, variant⟩)
  · exact Or.inr (Or.inl variant.eq_underscore)

/-- A text begins with a letter or an underscore. -/
def StartsName (text : List Char) : Prop :=
  ∃ first rest, text = first :: rest ∧ (isAlphabetic first = true ∨ first = '_')

theorem isMemberName_iff : isMemberName name = true ↔ StartsName name.toList := by
  unfold isMemberName StartsName
  cases name.toList with
  | nil => simp
  | cons first rest => simp

theorem StartsName.append (starts : StartsName text) (behind : List Char) :
    StartsName (text ++ behind) := by
  obtain ⟨first, rest, rfl, isStart⟩ := starts
  exact ⟨first, rest ++ behind, rfl, isStart⟩

theorem isIdentifierFrom_append {front behind : String} (starts : isMemberName front = true)
    (plain : front.toList.all (fun c => c.isAlphanum || c = '_') = true)
    (parts : ∀ d ∈ behind.toList, IsNamePart source d) :
    IsIdentifierFrom source (front ++ behind) where
  start := by
    rw [isMemberName_iff, String.toList_append]
    exact (isMemberName_iff.mp starts).append behind.toList
  parts := by
    intro d member
    rw [String.toList_append] at member
    rcases List.mem_append.mp member with inFront | inBehind
    · have isPlain := List.all_eq_true.mp plain d inFront
      rw [Bool.or_eq_true, decide_eq_true_eq] at isPlain
      rcases isPlain with isAlphanum | isUnderscore
      · exact Or.inl <| by rwa [isWordCharacter_of_ascii (toNat_lt_of_isAlphanum isAlphanum)]
      · exact Or.inr (Or.inl isUnderscore)
    · exact parts d inBehind

theorem recases_publicName (key : String) :
    Recases (key.toList.filter isWordCharacter) (publicName key).toList := by
  rw [publicName, String.toList_ofList]
  exact recases_joinCapitalized key.toList

theorem plain_filter_isWordCharacter (text : List Char) :
    ∀ c ∈ text.filter isWordCharacter, c ∈ text ∧ (isWordCharacter c = true ∨ c = '_') := by
  intro c member
  obtain ⟨inText, isWord⟩ := List.mem_filter.mp member
  exact ⟨inText, Or.inl isWord⟩

theorem isIdentifierFrom_publicName (starts : isMemberName (publicName key) = true) :
    IsIdentifierFrom key.toList (publicName key) :=
  ⟨starts, isNamePart_of_recases (recases_publicName key) (plain_filter_isWordCharacter _)⟩

/-- The mark of a field begins its name, whatever the key is. -/
theorem isIdentifierFrom_backingName (key : String) :
    IsIdentifierFrom key.toList (backingName (publicName key)) := by
  refine isIdentifierFrom_append (by decide) (by decide) ?_
  rw [String.toList_ofList]
  exact isNamePart_of_recases ((recases_publicName key).trans (recases_lowerFirst _))
    (plain_filter_isWordCharacter _)

theorem isIdentifierFrom_predicateName (key : String) :
    IsIdentifierFrom key.toList (predicateName (publicName key)) :=
  isIdentifierFrom_append (by decide) (by decide)
    (isNamePart_of_recases (recases_publicName key) (plain_filter_isWordCharacter _))

theorem startsName_of_isCaseImage (isImage : IsCaseImage c image)
    (isStart : isAlphabetic c = true ∨ c = '_') : StartsName image := by
  rcases isImage with rfl | ⟨first, rest, rfl, isLetter, -⟩
  · exact ⟨c, [], rfl, isStart⟩
  · exact ⟨first, rest, rfl, Or.inl isLetter⟩

theorem startsName_capitalize (isStart : isAlphabetic c = true ∨ c = '_') (rest : List Char) :
    StartsName (capitalize (c :: rest)) :=
  (startsName_of_isCaseImage (isCaseImage_upperChar c) isStart).append _

theorem startsName_lower (isStart : isAlphabetic c = true ∨ c = '_') (rest : List Char) :
    StartsName (lower (c :: rest)) := by
  rw [lower, lowerAfter]
  refine StartsName.append ?_ _
  split
  · split
    · exact ⟨'ς', [], rfl, Or.inl (by decide +kernel)⟩
    · exact ⟨'σ', [], rfl, Or.inl (by decide +kernel)⟩
  · exact startsName_of_isCaseImage (isCaseImage_lowerChar c) isStart

theorem StartsName.upperFirst (starts : StartsName text) : StartsName (upperFirst text) := by
  obtain ⟨first, rest, rfl, isStart⟩ := starts
  exact (startsName_of_isCaseImage (isCaseImage_upperChar first) isStart).append _

/-- Words that are joined begin as the first of them that is not empty. -/
theorem startsName_flatMap {recase : List Char → List Char} {words : List (List Char)}
    {rest : List Char} (flattened : words.flatten = c :: rest) (ofEmpty : recase [] = [])
    (ofWord : ∀ behind, StartsName (recase (c :: behind))) : StartsName (words.flatMap recase) := by
  induction words with
  | nil => nomatch flattened
  | cons word words ih =>
      rw [List.flatMap_cons]
      cases word with
      | nil =>
          rw [ofEmpty]
          exact ih flattened
      | cons d behind =>
          obtain ⟨rfl, -⟩ := List.cons.inj flattened
          exact (ofWord behind).append _

/-- A title of words and underscores that starts as a name does. -/
structure IsPlainTitle (title : String) : Prop where
  start : isMemberName title = true
  characters : ∀ c ∈ title.toList, isWordCharacter c = true ∨ c = '_' ∨ c = ' '

theorem IsPlainTitle.isIdentifierFrom (plainTitle : IsPlainTitle title) :
    IsIdentifierFrom title.toList (className title) where
  start := by
    obtain ⟨first, rest, titleEq, isStart⟩ := isMemberName_iff.mp plainTitle.start
    have notSpace : first ≠ ' ' := by
      rintro rfl
      exact absurd isStart (by decide)
    have flattened : (titleWords title.toList).flatten =
        first :: rest.filter fun c => !decide (c = ' ') := by
      rw [titleWords, flatten_fields, titleEq, List.filter_cons_of_pos (by simpa using notSpace)]
    rw [isMemberName_iff, className, String.toList_ofList]
    exact startsName_flatMap flattened rfl fun behind =>
      (startsName_lower isStart behind).upperFirst
  parts := by
    refine isNamePart_of_recases (recases_className title) fun c member => ?_
    obtain ⟨inTitle, notSpace⟩ := List.mem_filter.mp member
    refine ⟨inTitle, ?_⟩
    rcases plainTitle.characters c inTitle with isWord | isUnderscore | isSpace
    · exact Or.inl isWord
    · exact Or.inr isUnderscore
    · simp [isSpace] at notSpace

/-- A letter comes first among the letters and digits of a text. -/
def LetterFirst (text : List Char) : Prop :=
  (text.find? isWordCharacter).any isAlphabetic = true

instance (text : List Char) : Decidable (LetterFirst text) :=
  inferInstanceAs (Decidable (_ = true))

theorem startsName_joinCapitalized (letterFirst : LetterFirst text) :
    StartsName (joinCapitalized text) := by
  unfold LetterFirst at letterFirst
  rw [← List.head?_filter, ← flatten_words] at letterFirst
  obtain ⟨first, isHead, isLetter⟩ := (Option.any_eq_true _ _).mp letterFirst
  obtain ⟨rest, flattened⟩ := List.head?_eq_some_iff.mp isHead
  exact startsName_flatMap flattened rfl (startsName_capitalize (Or.inl isLetter))

theorem isIdentifierFrom_classNameOfFile (letterFirst : LetterFirst (stemOf fileName)) :
    IsIdentifierFrom fileName.toList (classNameOfFile fileName) where
  start := by
    rw [isMemberName_iff, classNameOfFile_eq, String.toList_ofList]
    exact startsName_joinCapitalized letterFirst
  parts := by
    rw [classNameOfFile_eq, String.toList_ofList]
    refine isNamePart_of_recases (recases_joinCapitalized _) fun c member => ?_
    obtain ⟨inStem, isWord⟩ := List.mem_filter.mp member
    exact ⟨(stemOf_isPrefix fileName).subset inStem, Or.inl isWord⟩

end Naming
end SchemaClasses
