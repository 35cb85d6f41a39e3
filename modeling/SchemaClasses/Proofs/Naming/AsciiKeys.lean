import Mathlib
import SchemaClasses.Proofs.Member.Blame
import SchemaClasses.Proofs.Naming.Words

/-!
# Names of ASCII keys

The public name of an ASCII key has the letters and digits of the key and differs from them in case
alone, so that the first of them decides whether there is a member of that name.

Mathlib is imported whole, since no smaller part of it brings the library's lemmas on the case of
ASCII letters.
-/

namespace SchemaClasses
namespace Text

/-- A text of ASCII characters. -/
def IsAscii (text : List Char) : Prop :=
  ∀ c ∈ text, c.toNat < 128

instance (text : List Char) : Decidable (IsAscii text) :=
  decidable_of_iff (text.all fun c => decide (c.toNat < 128)) (by simp [IsAscii])

variable {c : Char} {text : List Char}

theorem toNat_lt_of_isAlphanum (isAlphanum : c.isAlphanum = true) : c.toNat < 128 := by
  simp only [Char.isAlphanum, Char.isAlpha, Char.isUpper, Char.isLower, Char.isDigit,
    Bool.or_eq_true, Bool.and_eq_true, decide_eq_true_eq, ge_iff_le, UInt32.le_iff_toNat_le]
    at isAlphanum
  change ((65 ≤ c.toNat ∧ c.toNat ≤ 90) ∨ (97 ≤ c.toNat ∧ c.toNat ≤ 122)) ∨
    (48 ≤ c.toNat ∧ c.toNat ≤ 57) at isAlphanum
  omega

theorem isAlphanum_of_isLower (isLower : c.isLower = true) : c.isAlphanum = true := by
  rw [Char.isAlphanum, Char.isAlpha, isLower, Bool.or_true, Bool.true_or]

theorem isAlphanum_of_isUpper (isUpper : c.isUpper = true) : c.isAlphanum = true := by
  rw [Char.isAlphanum, Char.isAlpha, isUpper, Bool.true_or, Bool.true_or]

end Text

namespace Naming

open Text

variable {c : Char} {text word rest : List Char} {key : String}

theorem isWordCharacter_of_ascii (ascii : c.toNat < 128) : isWordCharacter c = c.isAlphanum := by
  rw [isWordCharacter, isAlphabetic, isNumeric, if_pos ascii, if_pos ascii, Char.isAlphanum]

theorem lowerTail_of_ascii (ascii : IsAscii text) : lowerTail text = text.map Char.toLower := by
  have notSigma : ¬ 'Σ'.toNat < 128 := by decide
  fun_induction lowerTail text with
  | case1 => rfl
  | case2 => exact absurd (ascii _ List.mem_cons_self) notSigma
  | case3 c isOther => rw [lowerChar, if_pos (ascii c List.mem_cons_self), List.map_singleton]
  | case4 c next rest ih =>
      rw [lowerChar, if_pos (ascii c List.mem_cons_self),
        ih fun d member => ascii d (List.mem_cons_of_mem _ member), List.singleton_append,
        ← List.map_cons]

/-- An ASCII word with its first letter in upper case and the others in lower case. -/
def capitalized : List Char → List Char
  | [] => []
  | c :: rest => c.toUpper :: rest.map Char.toLower

theorem capitalize_of_ascii (ascii : IsAscii word) : capitalize word = capitalized word := by
  cases word with
  | nil => rfl
  | cons c rest =>
      rw [capitalize, upperChar, if_pos (ascii c List.mem_cons_self),
        lowerTail_of_ascii fun d member => ascii d (List.mem_cons_of_mem _ member), capitalized,
        List.singleton_append]

theorem joinCapitalized_of_ascii_words (ascii : ∀ word ∈ words text, IsAscii word) :
    joinCapitalized text = (words text).flatMap capitalized := by
  have ofWord : ∀ word ∈ words text, capitalize word = capitalized word := fun word member =>
    capitalize_of_ascii (ascii word member)
  rw [joinCapitalized, List.flatMap_def, List.flatMap_def, List.map_congr_left ofWord]

theorem joinCapitalized_of_ascii (ascii : IsAscii text) :
    joinCapitalized text = (words text).flatMap capitalized := by
  refine joinCapitalized_of_ascii_words fun word member c inWord => ?_
  have inText : c ∈ text.filter isWordCharacter := by
    rw [← flatten_words, List.mem_flatten]
    exact ⟨word, member, inWord⟩
  exact ascii c (List.mem_filter.mp inText).1

theorem map_toLower_capitalized (word : List Char) :
    (capitalized word).map Char.toLower = word.map Char.toLower := by
  cases word with
  | nil => rfl
  | cons c rest => simp [capitalized]

/-- The letters and digits of a key, in their order. -/
def lettersAndDigits (key : String) : List Char :=
  key.toList.filter Char.isAlphanum

/-- A key has letters or digits, and the first of them is a letter. -/
def StartsWithLetter (key : String) : Prop :=
  ∃ first rest, lettersAndDigits key = first :: rest ∧ first.isAlpha = true

theorem flatten_words_of_ascii (ascii : IsAscii key.toList) :
    (words key.toList).flatten = lettersAndDigits key := by
  rw [flatten_words, lettersAndDigits]
  exact List.filter_congr fun c member => isWordCharacter_of_ascii (ascii c member)

theorem map_toLower_publicName (ascii : IsAscii key.toList) :
    (publicName key).toList.map Char.toLower = (lettersAndDigits key).map Char.toLower := by
  rw [publicName, String.toList_ofList, joinCapitalized_of_ascii ascii,
    ← flatten_words_of_ascii ascii, List.map_flatMap, List.map_flatten, List.flatMap_def]
  simp only [map_toLower_capitalized]

/-- The first character of words that are joined is that of the first word which has one. -/
theorem exists_flatMap_capitalized_eq_cons {words : List (List Char)}
    (flattened : words.flatten = c :: rest) :
    ∃ tail, words.flatMap capitalized = c.toUpper :: tail := by
  induction words with
  | nil => nomatch flattened
  | cons word words ih =>
      cases word with
      | nil => exact ih flattened
      | cons d word =>
          obtain ⟨rfl, -⟩ := List.cons.inj flattened
          exact ⟨_, rfl⟩

theorem isAlphanum_toLower (c : Char) : c.toLower.isAlphanum = c.isAlphanum := by
  by_cases isUpper : c.isUpper = true
  · simp [Char.isAlphanum, Char.isAlpha, isUpper]
  · rw [Char.toLower_eq_of_not_isUpper isUpper]

/-- The first letter of a public name tells what the first letter or digit of its key is. -/
theorem isMemberName_cons_toUpper {name : String} (nameEq : name.toList = c.toUpper :: rest)
    (isAlphanum : c.isAlphanum = true) : isMemberName name = c.isAlpha := by
  rw [isMemberName, nameEq]
  change (isAlphabetic c.toUpper || decide (c.toUpper = '_')) = c.isAlpha
  by_cases isAlpha : c.isAlpha = true
  · have raised : c.toUpper.isAlpha = true := by rwa [Char.isAlpha_toUpper_eq_isAlpha]
    have ascii : c.toUpper.toNat < 128 :=
      toNat_lt_of_isAlphanum (by rw [Char.isAlphanum, raised, Bool.true_or])
    rw [isAlpha, isAlphabetic, if_pos ascii, raised, Bool.true_or]
  · -- A digit has no other case.
    have notLower : ¬c.isLower = true := by
      intro isLower
      rw [Char.isAlpha, isLower, Bool.or_true] at isAlpha
      exact isAlpha rfl
    have notUnderscore : c ≠ '_' := by
      rintro rfl
      exact absurd isAlphanum (by decide)
    rw [Char.toUpper_eq_of_not_isLower notLower, isAlphabetic,
      if_pos (toNat_lt_of_isAlphanum isAlphanum), decide_eq_false notUnderscore, Bool.or_false]

theorem isAlphanum_of_mem_lettersAndDigits (member : c ∈ lettersAndDigits key) :
    c.isAlphanum = true :=
  (List.mem_filter.mp member).2

/-- A key without letters and digits has no name, and any other begins its name with the first of
them in upper case. -/
theorem publicName_cases (ascii : IsAscii key.toList) :
    (lettersAndDigits key = [] ∧ publicName key = "") ∨
      ∃ first rest tail, lettersAndDigits key = first :: rest ∧
        publicName key = String.ofList (first.toUpper :: tail) ∧
        tail.map Char.toLower = rest.map Char.toLower := by
  have lowered := map_toLower_publicName ascii
  cases found : lettersAndDigits key with
  | nil =>
      refine Or.inl ⟨rfl, ?_⟩
      rw [found, List.map_nil, List.map_eq_nil_iff] at lowered
      rw [← String.ofList_toList (s := publicName key), lowered]
  | cons first rest =>
      right
      obtain ⟨tail, joined⟩ := exists_flatMap_capitalized_eq_cons
        ((flatten_words_of_ascii ascii).trans found)
      have nameEq : publicName key = String.ofList (first.toUpper :: tail) := by
        rw [publicName, joinCapitalized_of_ascii ascii, joined]
      refine ⟨first, rest, tail, rfl, nameEq, ?_⟩
      rw [nameEq, String.toList_ofList, found, List.map_cons, List.map_cons] at lowered
      exact (List.cons.inj lowered).2

theorem isMemberName_publicName_iff (ascii : IsAscii key.toList) :
    isMemberName (publicName key) = true ↔ StartsWithLetter key := by
  rcases publicName_cases ascii with ⟨none, nameEq⟩ | ⟨first, rest, tail, found, nameEq, -⟩
  · rw [nameEq]
    refine iff_of_false (by decide) ?_
    rintro ⟨first, rest, found, -⟩
    rw [none] at found
    nomatch found
  · have isAlphanum : first.isAlphanum = true :=
      isAlphanum_of_mem_lettersAndDigits (by rw [found]; exact List.mem_cons_self)
    rw [isMemberName_cons_toUpper (by rw [nameEq, String.toList_ofList]) isAlphanum]
    constructor
    · exact fun isAlpha => ⟨first, rest, found, isAlpha⟩
    · rintro ⟨other, others, foundOther, isAlpha⟩
      rw [found] at foundOther
      obtain ⟨rfl, -⟩ := List.cons.inj foundOther
      exact isAlpha

/-- The public name of a key and the name of the field behind it, which differ in the case of their
first letter and in what the field is marked with. -/
structure PascalNames (key : String) (first : Char) (rest : List Char) : Prop where
  publicName_eq : publicName key = String.ofList (first :: rest)
  backingName_eq : backingName (publicName key) = "m_" ++ String.ofList (first.toLower :: rest)
  upper : first.isUpper = true
  lower : first.toLower.isLower = true
  alphanumeric : ∀ c ∈ rest, c.isAlphanum = true

/-- What the letters and digits of a key decide. -/
structure NamedByLetters (key : String) : Prop where
  /-- The public name has all of them, in their order, and nothing else. -/
  letters : (publicName key).toList.map Char.toLower = (lettersAndDigits key).map Char.toLower
  isMemberName : isMemberName (publicName key) = true ↔ StartsWithLetter key
  refused : ∀ (node : Schema.Node) (requiredByParent : Bool) (pointer place : Pointer)
    (other : String),
    Descriptor.ofProperty key node requiredByParent pointer = .error ⟨place, .propertyName other⟩ ↔
      ¬StartsWithLetter key ∧ place = pointer ∧ other = key
  names : StartsWithLetter key → ∃ first rest, PascalNames key first rest

theorem exists_pascalNames (ascii : IsAscii key.toList) (starts : StartsWithLetter key) :
    ∃ first rest, PascalNames key first rest := by
  obtain ⟨first, rest, found, isAlpha⟩ := starts
  rcases publicName_cases ascii with ⟨none, -⟩ | ⟨_, _, tail, foundAgain, nameEq, lowered⟩
  · rw [none] at found
    nomatch found
  · rw [found] at foundAgain
    obtain ⟨rfl, rfl⟩ := List.cons.inj foundAgain
    have isUpper : first.toUpper.isUpper = true := by rwa [Char.isUpper_toUpper_eq_isAlpha]
    have firstAscii : first.toUpper.toNat < 128 :=
      toNat_lt_of_isAlphanum (isAlphanum_of_isUpper isUpper)
    refine ⟨first.toUpper, tail, nameEq, ?_, isUpper, ?_, ?_⟩
    · rw [nameEq, backingName, String.toList_ofList, lowerFirst, lowerChar, if_pos firstAscii,
        List.singleton_append]
    · rwa [Char.isLower_toLower_eq_isAlpha, Char.isAlpha_toUpper_eq_isAlpha]
    · intro c member
      have inLowered : c.toLower ∈ rest.map Char.toLower := by
        rw [← lowered]
        exact List.mem_map_of_mem member
      obtain ⟨d, inRest, lowerEq⟩ := List.mem_map.mp inLowered
      rw [← isAlphanum_toLower, ← lowerEq, isAlphanum_toLower]
      have inKey : d ∈ lettersAndDigits key := by
        rw [found]
        exact List.mem_cons_of_mem _ inRest
      exact isAlphanum_of_mem_lettersAndDigits inKey

/-- The words of an ASCII key are joined to its letters and digits with nothing lost, repeated or
out of place, and the key has a member, with a name in the expected form, exactly if a letter comes
first among them. -/
theorem namedByLetters_of_isAscii (ascii : IsAscii key.toList) : NamedByLetters key where
  letters := map_toLower_publicName ascii
  isMemberName := isMemberName_publicName_iff ascii
  refused := fun node requiredByParent pointer place other => by
    rw [Descriptor.ofProperty_eq_propertyName_iff, isMemberName_publicName_iff ascii]
  names := exists_pascalNames ascii

/-- A key with an acronym, with digits, and with separators at its ends and next to each other. -/
theorem namedByLetters_acronym :
    IsAscii "__HTTPServer--v2Beta-".toList ∧
      publicName "__HTTPServer--v2Beta-" = "HttpServerV2Beta" ∧
      NamedByLetters "__HTTPServer--v2Beta-" := by
  have ascii : IsAscii "__HTTPServer--v2Beta-".toList := by decide
  exact ⟨ascii, by decide, namedByLetters_of_isAscii ascii⟩

end Naming
end SchemaClasses
