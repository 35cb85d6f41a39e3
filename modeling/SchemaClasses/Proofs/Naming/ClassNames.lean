import SchemaClasses.Proofs.Naming.KeySpellings

/-!
# Class names

The words of a title are joined without separators, each with a capital in front and small letters
behind.  Where every word begins with a letter these capitals mark the words, so that the class name
keeps them, up to their case.  Without a title the words are those of a part of the file name.
-/

namespace SchemaClasses
namespace Naming

open Text

variable {c : Char} {text run behind word other otherBehind : List Char}
  {words others : List (List Char)} {title : String}

theorem titleWords_append_space (first second : List Char) :
    titleWords (first ++ ' ' :: second) = titleWords first ++ titleWords second :=
  fields_append_separator (by decide) first second

/-- A space ends the word before it, and no word is lowered with a view to the words around it. -/
theorem className_append_space (first second : String) :
    className (first ++ " " ++ second) = className first ++ className second := by
  have joined : (first ++ " " ++ second).toList = first.toList ++ ' ' :: second.toList := by
    simp
  rw [className, joined, titleWords_append_space, List.flatMap_append, String.ofList_append,
    className, className]

theorem lowerAfter_of_ascii (ascii : IsAscii text) (before : List Char) :
    lowerAfter before text = text.map Char.toLower := by
  induction text generalizing before with
  | nil => rfl
  | cons c rest ih =>
      have small : c.toNat < 128 := ascii c List.mem_cons_self
      have notSigma : c ≠ 'Σ' := by
        rintro rfl
        exact absurd small (by decide)
      rw [lowerAfter, if_neg notSigma, lowerChar, if_pos small,
        ih fun d member => ascii d (List.mem_cons_of_mem _ member), List.map_cons,
        List.singleton_append]

theorem upperFirst_lower_of_ascii (ascii : IsAscii word) :
    upperFirst (lower word) = capitalized word := by
  rw [lower, lowerAfter_of_ascii ascii]
  cases word with
  | nil => rfl
  | cons c rest =>
      have small : c.toLower.toNat < 128 := by
        have ofCode : ∀ code < 128, (Char.ofNat code).toLower.toNat < 128 := by decide
        simpa using ofCode c.toNat (ascii c List.mem_cons_self)
      rw [List.map_cons, upperFirst, upperChar, if_pos small, capitalized, List.singleton_append,
        Char.toUpper_toLower_eq_toUpper]

theorem isAscii_of_mem_titleWords (ascii : IsAscii text) (member : word ∈ titleWords text) :
    IsAscii word := by
  intro c inWord
  have inText : c ∈ text.filter fun d => !decide (d = ' ') := by
    rw [← flatten_fields, List.mem_flatten]
    exact ⟨word, member, inWord⟩
  exact ascii c (List.mem_filter.mp inText).1

theorem className_of_ascii (ascii : IsAscii title.toList) :
    className title = String.ofList ((titleWords title.toList).flatMap capitalized) := by
  have ofWord : ∀ word ∈ titleWords title.toList, upperFirst (lower word) = capitalized word :=
    fun word member => upperFirst_lower_of_ascii (isAscii_of_mem_titleWords ascii member)
  rw [className, List.flatMap_def, List.flatMap_def, List.map_congr_left ofWord]

/-- Each word begins with an ASCII letter. -/
def Lettered (words : List (List Char)) : Prop :=
  ∀ word ∈ words, word.head?.any Char.isAlpha = true

instance (words : List (List Char)) : Decidable (Lettered words) :=
  inferInstanceAs (Decidable (∀ word ∈ words, word.head?.any Char.isAlpha = true))

theorem Lettered.exists_eq_cons (lettered : Lettered words) (member : word ∈ words) :
    ∃ first rest, word = first :: rest ∧ first.isAlpha = true := by
  have begins := lettered word member
  cases word with
  | nil => nomatch begins
  | cons first rest => exact ⟨first, rest, rfl, begins⟩

theorem Lettered.tail (lettered : Lettered (word :: words)) : Lettered words :=
  fun later member => lettered later (List.mem_cons_of_mem _ member)

/-- Small letters up to the next capital are read off a text that begins with them. -/
theorem append_inj_of_small (small : ∀ c ∈ run, c.isUpper = false)
    (otherSmall : ∀ c ∈ other, c.isUpper = false)
    (turns : ∀ c ∈ behind.head?, c.isUpper = true)
    (otherTurns : ∀ c ∈ otherBehind.head?, c.isUpper = true)
    (joined : run ++ behind = other ++ otherBehind) : run = other ∧ behind = otherBehind := by
  have runOf : ∀ {run behind : List Char}, (∀ c ∈ run, c.isUpper = false) →
      (∀ c ∈ behind.head?, c.isUpper = true) →
      (run ++ behind).takeWhile (fun c => !c.isUpper) = run := by
    intro run behind small turns
    rw [List.takeWhile_append_of_pos (by simpa using small)]
    cases behind with
    | nil => simp
    | cons c behind => simp [turns c rfl]
  have runEq : run = other := by
    rw [← runOf small turns, joined, runOf otherSmall otherTurns]
  subst runEq
  exact ⟨rfl, List.append_cancel_left joined⟩

theorem isUpper_of_head?_flatMap_capitalized (lettered : Lettered words) :
    ∀ c ∈ (words.flatMap capitalized).head?, c.isUpper = true := by
  intro c isHead
  cases words with
  | nil => nomatch isHead
  | cons word words =>
      obtain ⟨first, rest, rfl, isAlpha⟩ := lettered.exists_eq_cons List.mem_cons_self
      obtain rfl : first.toUpper = c := Option.some.inj isHead
      rwa [Char.isUpper_toUpper_eq_isAlpha]

theorem not_isUpper_of_mem_map_toLower (member : c ∈ word.map Char.toLower) :
    c.isUpper = false := by
  obtain ⟨d, -, rfl⟩ := List.mem_map.mp member
  simp

/-- Words that begin with letters are told apart by their capitals once they have been joined. -/
theorem map_toLower_eq_of_flatMap_capitalized (lettered : Lettered words)
    (otherLettered : Lettered others)
    (joined : words.flatMap capitalized = others.flatMap capitalized) :
    words.map (List.map Char.toLower) = others.map (List.map Char.toLower) := by
  induction words generalizing others with
  | nil =>
      cases others with
      | nil => rfl
      | cons other others =>
          obtain ⟨first, rest, rfl, -⟩ := otherLettered.exists_eq_cons List.mem_cons_self
          nomatch joined
  | cons word words ih =>
      obtain ⟨first, rest, rfl, -⟩ := lettered.exists_eq_cons List.mem_cons_self
      cases others with
      | nil => nomatch joined
      | cons other others =>
          obtain ⟨otherFirst, otherRest, rfl, -⟩ :=
            otherLettered.exists_eq_cons List.mem_cons_self
          obtain ⟨firstEq, restEq⟩ := List.cons.inj joined
          obtain ⟨tailEq, laterEq⟩ := append_inj_of_small
            (fun c => not_isUpper_of_mem_map_toLower) (fun c => not_isUpper_of_mem_map_toLower)
            (isUpper_of_head?_flatMap_capitalized lettered.tail)
            (isUpper_of_head?_flatMap_capitalized otherLettered.tail) restEq
          have lowered : first.toLower = otherFirst.toLower := by
            rw [← Char.toLower_toUpper_eq_toLower, firstEq, Char.toLower_toUpper_eq_toLower]
          rw [List.map_cons, List.map_cons, ih lettered.tail otherLettered.tail laterEq,
            List.map_cons, List.map_cons, lowered, tailEq]

/-- Joined words do not tell in which case they were. -/
theorem flatMap_capitalized (words : List (List Char)) :
    words.flatMap capitalized = (words.map (List.map Char.toLower)).flatMap raised := by
  rw [funext capitalized_eq_raised, List.flatMap_map]

/-- An ASCII title whose words begin with letters. -/
structure IsWorded (title : String) : Prop where
  ascii : IsAscii title.toList
  lettered : Lettered (titleWords title.toList)

instance (title : String) : Decidable (IsWorded title) :=
  decidable_of_iff (IsAscii title.toList ∧ Lettered (titleWords title.toList))
    ⟨fun ⟨ascii, lettered⟩ => ⟨ascii, lettered⟩, fun ⟨ascii, lettered⟩ => ⟨ascii, lettered⟩⟩

/-- The words of a title, without their case. -/
def smallWords (title : String) : List (List Char) :=
  (titleWords title.toList).map (List.map Char.toLower)

theorem className_eq_iff {first second : String} (firstWorded : IsWorded first)
    (secondWorded : IsWorded second) :
    className first = className second ↔ smallWords first = smallWords second := by
  rw [className_of_ascii firstWorded.ascii, className_of_ascii secondWorded.ascii,
    String.ofList_inj]
  constructor
  · exact map_toLower_eq_of_flatMap_capitalized firstWorded.lettered secondWorded.lettered
  · intro sameWords
    rw [flatMap_capitalized, flatMap_capitalized]
    exact congrArg (List.flatMap raised) sameWords

/-- The part of a file name that the class of the file is named after. -/
def stemOf (fileName : String) : List Char :=
  (dropEnding? ".schema.json".toList fileName.toList).getD <|
    (dropEnding? ".json".toList fileName.toList).getD fileName.toList

theorem classNameOfFile_eq (fileName : String) :
    classNameOfFile fileName = String.ofList (joinCapitalized (stemOf fileName)) :=
  rfl

theorem dropEnding?_isPrefix {ending kept : List Char}
    (dropped : dropEnding? ending text = some kept) :
    kept <+: text := by
  unfold dropEnding? at dropped
  split at dropped
  · exact Option.some.inj dropped ▸ List.take_prefix _ _
  · nomatch dropped

theorem stemOf_isPrefix (fileName : String) : stemOf fileName <+: fileName.toList := by
  unfold stemOf
  cases schemaEq : dropEnding? ".schema.json".toList fileName.toList with
  | some stem => exact dropEnding?_isPrefix schemaEq
  | none =>
      cases jsonEq : dropEnding? ".json".toList fileName.toList with
      | some stem => exact dropEnding?_isPrefix jsonEq
      | none => exact List.prefix_refl _

end Naming
end SchemaClasses
