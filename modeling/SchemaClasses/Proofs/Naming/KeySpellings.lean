import SchemaClasses.Proofs.Classes.MemberNames
import SchemaClasses.Proofs.Naming.AsciiKeys

/-!
# Spellings of the same words

Whether the words of a key are set apart by separators or by the case of their letters, the same
words give the same public name.  A document can therefore have one spelling of them among its keys
only.
-/

namespace SchemaClasses
namespace Naming

open Text

/-- Words of small ASCII letters, each of at least two.  (Single letters that follow each other
would be read as an acronym, were they raised.) -/
def IsPhrase (phrase : List (List Char)) : Prop :=
  ∀ word ∈ phrase, 2 ≤ word.length ∧ ∀ c ∈ word, c.isLower = true

/-- A run of ASCII characters that are neither letters nor digits. -/
def IsGap (run : List Char) : Prop :=
  ∀ c ∈ run, c.toNat < 128 ∧ c.isAlphanum = false

/-- A word with its first letter in upper case. -/
def raised : List Char → List Char
  | [] => []
  | c :: rest => c.toUpper :: rest

/-- A text has the given words with gaps between them, and perhaps one behind the last. -/
inductive Separated : List (List Char) → List Char → Prop
  | last {word gap : List Char} (isGap : IsGap gap) : Separated [word] (word ++ gap)
  | cons {word gap text : List Char} {phrase : List (List Char)} (isGap : IsGap gap)
      (notEmpty : gap ≠ []) (separated : Separated phrase text) :
      Separated (word :: phrase) (word ++ gap ++ text)

/-- A text spells the words of a phrase in one of the usual ways. -/
inductive Spells : List (List Char) → List Char → Prop
  /-- As in `byte_offset`, `byte-offset` and `$.byte offset:`. -/
  | small {phrase : List (List Char)} {front text : List Char} (isGap : IsGap front)
      (separated : Separated phrase text) : Spells phrase (front ++ text)
  /-- As in `BYTE_OFFSET`. -/
  | capitals {phrase : List (List Char)} {front text : List Char} (isGap : IsGap front)
      (separated : Separated (phrase.map (List.map Char.toUpper)) text) :
      Spells phrase (front ++ text)
  /-- As in `byteOffset`. -/
  | camelCase (word : List Char) (phrase : List (List Char)) :
      Spells (word :: phrase) (word ++ phrase.flatMap raised)
  /-- As in `ByteOffset`. -/
  | pascalCase (phrase : List (List Char)) : Spells phrase (phrase.flatMap raised)

variable {c first : Char} {mode : CaseMode} {started run behind gap text word other : List Char}
  {phrase : List (List Char)} {key : String}

theorem isLowercase_of_isLower (isLower : c.isLower = true) : isLowercase c = true := by
  rwa [isLowercase, if_pos (toNat_lt_of_isAlphanum (isAlphanum_of_isLower isLower))]

theorem isUppercase_of_isUpper (isUpper : c.isUpper = true) : isUppercase c = true := by
  rwa [isUppercase, if_pos (toNat_lt_of_isAlphanum (isAlphanum_of_isUpper isUpper))]

theorem not_isUppercase_of_isLower (isLower : c.isLower = true) : ¬isUppercase c = true := by
  rw [isUppercase, if_pos (toNat_lt_of_isAlphanum (isAlphanum_of_isLower isLower))]
  exact Char.not_isUpper_of_isLower isLower

theorem not_isLowercase_of_isUpper (isUpper : c.isUpper = true) : ¬isLowercase c = true := by
  rw [isLowercase, if_pos (toNat_lt_of_isAlphanum (isAlphanum_of_isUpper isUpper))]
  exact Char.not_isLower_of_isUpper isUpper

theorem after_of_isUpper (mode : CaseMode) (isUpper : c.isUpper = true) :
    mode.after c = .capital := by
  rw [CaseMode.after, if_neg (not_isLowercase_of_isUpper isUpper),
    if_pos (isUppercase_of_isUpper isUpper)]

/-- Small letters belong to the word that has been started, which ends with the last of them. -/
theorem humpsAfter_small_append (notEmpty : run ≠ []) (small : ∀ c ∈ run, c.isLower = true)
    (turns : ∀ c ∈ behind.head?, c.isUpper = true) :
    humpsAfter mode started (run ++ behind) = (started.reverse ++ run) :: humps behind := by
  induction run generalizing mode started with
  | nil => exact absurd rfl notEmpty
  | cons c run ih =>
      have isLower : c.isLower = true := small c List.mem_cons_self
      cases run with
      | cons d run =>
          have nextSmall : ∀ e ∈ d :: run, e.isLower = true := fun e member =>
            small e (List.mem_cons_of_mem _ member)
          have stays : ¬isUppercase d = true :=
            not_isUppercase_of_isLower (nextSmall d List.mem_cons_self)
          have noCapital : ¬isUppercase c = true := not_isUppercase_of_isLower isLower
          rw [List.cons_append, List.cons_append, humpsAfter, if_neg fun turned => stays turned.2,
            if_neg fun turned => noCapital turned.2.1, ← List.cons_append,
            ih (List.cons_ne_nil _ _) nextSmall]
          simp
      | nil =>
          cases behind with
          | nil => simp [humpsAfter, humps]
          | cons next behind =>
              have isCapital : isUppercase next = true := isUppercase_of_isUpper (turns next rfl)
              have afterSmall : mode.after c = .small := by
                rw [CaseMode.after, if_pos (isLowercase_of_isLower isLower)]
              rw [List.singleton_append, humpsAfter, if_pos ⟨afterSmall, isCapital⟩, humps,
                List.reverse_cons]

/-- A run of capitals is one word. -/
theorem humpsAfter_capitals (notEmpty : run ≠ []) (capitals : ∀ c ∈ run, c.isUpper = true) :
    humpsAfter mode started run = [started.reverse ++ run] := by
  induction run generalizing mode started with
  | nil => exact absurd rfl notEmpty
  | cons c run ih =>
      cases run with
      | nil => simp [humpsAfter]
      | cons d run =>
          have nextCapitals : ∀ e ∈ d :: run, e.isUpper = true := fun e member =>
            capitals e (List.mem_cons_of_mem _ member)
          have notSmall : mode.after c ≠ .small := by
            rw [after_of_isUpper mode (capitals c List.mem_cons_self)]
            decide
          have noSmall : ¬isLowercase d = true :=
            not_isLowercase_of_isUpper (nextCapitals d List.mem_cons_self)
          rw [humpsAfter, if_neg fun turned => notSmall turned.1,
            if_neg fun turned => noSmall turned.2.2, ih (List.cons_ne_nil _ _) nextCapitals]
          simp

/-- A capital and the small letters after it are a word. -/
theorem humps_capital_append (isUpper : first.isUpper = true) (notEmpty : run ≠ [])
    (small : ∀ c ∈ run, c.isLower = true) (turns : ∀ c ∈ behind.head?, c.isUpper = true) :
    humps (first :: run ++ behind) = (first :: run) :: humps behind := by
  cases run with
  | nil => exact absurd rfl notEmpty
  | cons c run =>
      have notSmall : CaseMode.fresh.after first ≠ .small := by
        rw [after_of_isUpper _ isUpper]
        decide
      have stays : ¬(CaseMode.fresh = .capital ∧ isUppercase first ∧ isLowercase c) := by simp
      rw [humps, List.cons_append, List.cons_append, humpsAfter,
        if_neg fun turned => notSmall turned.1, if_neg stays]
      exact humpsAfter_small_append notEmpty small turns

/-- Letters without a separator between them are read by their case alone. -/
theorem words_eq_humps (alphanumeric : ∀ c ∈ text, c.isAlphanum = true) :
    words text = humps text := by
  cases text with
  | nil => rfl
  | cons c text =>
      have unseparated : ∀ d ∈ c :: text, (!isWordCharacter d) = false := by
        intro d member
        have isAlphanum := alphanumeric d member
        rw [isWordCharacter_of_ascii (toNat_lt_of_isAlphanum isAlphanum), isAlphanum, Bool.not_true]
      rw [words, pieces, fields_of_unseparated (List.cons_ne_nil _ _) unseparated,
        List.flatMap_singleton]

theorem words_small (notEmpty : word ≠ []) (small : ∀ c ∈ word, c.isLower = true) :
    words word = [word] := by
  have nothingBehind : ∀ c ∈ ([] : List Char).head?, c.isUpper = true := by simp
  rw [words_eq_humps fun c member => isAlphanum_of_isLower (small c member), humps,
    ← List.append_nil word, humpsAfter_small_append notEmpty small nothingBehind, List.append_nil]
  rfl

theorem words_capitals (notEmpty : word ≠ []) (capitals : ∀ c ∈ word, c.isUpper = true) :
    words word = [word] := by
  rw [words_eq_humps fun c member => isAlphanum_of_isUpper (capitals c member), humps,
    humpsAfter_capitals notEmpty capitals, List.reverse_nil, List.nil_append]

theorem words_append_separator (separates : isWordCharacter c = false) (text behind : List Char) :
    words (text ++ c :: behind) = words text ++ words behind := by
  have isSeparator : (!isWordCharacter c) = true := by rw [separates, Bool.not_false]
  rw [words, pieces, fields_append_separator isSeparator text behind, List.flatMap_append]
  rfl

theorem IsGap.separates (isGap : IsGap gap) (member : c ∈ gap) : isWordCharacter c = false := by
  obtain ⟨ascii, notAlphanum⟩ := isGap c member
  rw [isWordCharacter_of_ascii ascii, notAlphanum]

theorem IsGap.tail (isGap : IsGap (c :: gap)) : IsGap gap :=
  fun d member => isGap d (List.mem_cons_of_mem _ member)

theorem words_gap_append (isGap : IsGap gap) (text : List Char) :
    words (gap ++ text) = words text := by
  induction gap with
  | nil => rfl
  | cons c gap ih =>
      have split := words_append_separator (isGap.separates List.mem_cons_self) [] (gap ++ text)
      rwa [List.nil_append, ih isGap.tail] at split

/-- A gap ends the words before it, and those after it start anew. -/
theorem words_append_gap_append (isGap : IsGap gap) (notEmpty : gap ≠ [])
    (text behind : List Char) :
    words (text ++ gap ++ behind) = words text ++ words behind := by
  cases gap with
  | nil => exact absurd rfl notEmpty
  | cons c gap =>
      have separates := isGap.separates List.mem_cons_self
      rw [List.append_assoc, List.cons_append, words_append_separator separates,
        words_gap_append isGap.tail]

/-- Gaps tell words apart that are not told apart any further. -/
theorem words_of_separated (separated : Separated phrase text)
    (each : ∀ word ∈ phrase, words word = [word]) : words text = phrase := by
  induction separated with
  | @last word gap isGap =>
      have alone := each word (List.mem_singleton_self word)
      cases gap with
      | nil => rwa [List.append_nil]
      | cons c gap =>
          rw [← List.append_nil (c :: gap), ← List.append_assoc,
            words_append_gap_append isGap (List.cons_ne_nil _ _), alone]
          rfl
  | @cons word gap text phrase isGap notEmpty _ ih =>
      rw [words_append_gap_append isGap notEmpty, each word List.mem_cons_self,
        ih fun other member => each other (List.mem_cons_of_mem _ member), List.singleton_append]

section Phrases

theorem IsPhrase.tail (isPhrase : IsPhrase (word :: phrase)) : IsPhrase phrase :=
  fun other member => isPhrase other (List.mem_cons_of_mem _ member)

theorem IsPhrase.ne_nil (isPhrase : IsPhrase phrase) (member : word ∈ phrase) : word ≠ [] := by
  rintro rfl
  exact absurd (isPhrase [] member).1 (by decide)

/-- The first word of a phrase with its first letter and the others. -/
theorem IsPhrase.exists_head_eq_cons (isPhrase : IsPhrase (word :: phrase)) :
    ∃ first rest, word = first :: rest ∧ rest ≠ [] ∧ first.isLower = true ∧
      ∀ c ∈ rest, c.isLower = true := by
  obtain ⟨long, small⟩ := isPhrase word List.mem_cons_self
  match word with
  | [] | [_] => simp at long
  | first :: second :: rest =>
      exact ⟨first, second :: rest, rfl, List.cons_ne_nil _ _, small first List.mem_cons_self,
        fun c member => small c (List.mem_cons_of_mem _ member)⟩

theorem isUpper_toUpper_of_isLower (isLower : c.isLower = true) : c.toUpper.isUpper = true := by
  rw [Char.isUpper_toUpper_eq_isAlpha, Char.isAlpha, isLower, Bool.or_true]

theorem isUpper_of_head?_flatMap_raised (isPhrase : IsPhrase phrase) :
    ∀ c ∈ (phrase.flatMap raised).head?, c.isUpper = true := by
  intro c isHead
  cases phrase with
  | nil => nomatch isHead
  | cons word phrase =>
      obtain ⟨first, rest, rfl, -, isLower, -⟩ := isPhrase.exists_head_eq_cons
      obtain rfl : first.toUpper = c := Option.some.inj isHead
      exact isUpper_toUpper_of_isLower isLower

/-- The capitals of raised words tell them apart. -/
theorem humps_flatMap_raised (isPhrase : IsPhrase phrase) :
    humps (phrase.flatMap raised) = phrase.map raised := by
  induction phrase with
  | nil => rfl
  | cons word phrase ih =>
      have turns := isUpper_of_head?_flatMap_raised isPhrase.tail
      obtain ⟨first, rest, rfl, notEmpty, isLower, small⟩ := isPhrase.exists_head_eq_cons
      rw [List.flatMap_cons, raised,
        humps_capital_append (isUpper_toUpper_of_isLower isLower) notEmpty small turns,
        ih isPhrase.tail, List.map_cons, raised]

theorem isAlphanum_of_mem_flatMap_raised (isPhrase : IsPhrase phrase)
    (member : c ∈ phrase.flatMap raised) : c.isAlphanum = true := by
  obtain ⟨word, inPhrase, inRaised⟩ := List.mem_flatMap.mp member
  have small := (isPhrase word inPhrase).2
  cases word with
  | nil => nomatch inRaised
  | cons first rest =>
      rcases List.mem_cons.mp inRaised with rfl | inRest
      · exact isAlphanum_of_isUpper (isUpper_toUpper_of_isLower (small first List.mem_cons_self))
      · exact isAlphanum_of_isLower (small c (List.mem_cons_of_mem _ inRest))

theorem words_camelCase (isPhrase : IsPhrase (word :: phrase)) :
    words (word ++ phrase.flatMap raised) = word :: phrase.map raised := by
  have small := (isPhrase word List.mem_cons_self).2
  have alphanumeric : ∀ c ∈ word ++ phrase.flatMap raised, c.isAlphanum = true := by
    intro c member
    rcases List.mem_append.mp member with inWord | later
    · exact isAlphanum_of_isLower (small c inWord)
    · exact isAlphanum_of_mem_flatMap_raised isPhrase.tail later
  rw [words_eq_humps alphanumeric, humps,
    humpsAfter_small_append (isPhrase.ne_nil List.mem_cons_self) small
      (isUpper_of_head?_flatMap_raised isPhrase.tail),
    humps_flatMap_raised isPhrase.tail, List.reverse_nil, List.nil_append]

theorem words_pascalCase (isPhrase : IsPhrase phrase) :
    words (phrase.flatMap raised) = phrase.map raised := by
  rw [words_eq_humps fun c => isAlphanum_of_mem_flatMap_raised isPhrase,
    humps_flatMap_raised isPhrase]

theorem map_toLower_raised (word : List Char) :
    (raised word).map Char.toLower = word.map Char.toLower := by
  cases word with
  | nil => rfl
  | cons first rest => simp [raised]

theorem map_toLower_map_toUpper (word : List Char) :
    (word.map Char.toUpper).map Char.toLower = word.map Char.toLower := by
  simp

/-- Words in another case are those of the phrase again, once they have been lowered. -/
theorem IsPhrase.map_toLower_map (isPhrase : IsPhrase phrase) (recase : List Char → List Char)
    (sameLetters : ∀ word, (recase word).map Char.toLower = word.map Char.toLower) :
    (phrase.map recase).map (List.map Char.toLower) = phrase := by
  have lowered : ∀ word ∈ phrase, (recase word).map Char.toLower = word := by
    intro word member
    have kept : ∀ c ∈ word, c.toLower = c := fun c inWord =>
      Char.toLower_eq_of_not_isUpper
        (Char.not_isUpper_of_isLower ((isPhrase word member).2 c inWord))
    rw [sameLetters, List.map_congr_left kept, List.map_id']
  rw [List.map_map]
  exact (List.map_congr_left lowered).trans (List.map_id' phrase)

theorem IsPhrase.map_toLower (isPhrase : IsPhrase phrase) :
    phrase.map (List.map Char.toLower) = phrase := by
  have unchanged := isPhrase.map_toLower_map id fun _ => rfl
  rwa [List.map_id] at unchanged

/-- The words of every spelling are those of the phrase, in whatever case. -/
theorem map_toLower_words_of_spells (isPhrase : IsPhrase phrase) (spells : Spells phrase text) :
    (words text).map (List.map Char.toLower) = phrase := by
  cases spells with
  | @small _ front text isGap separated =>
      have each : ∀ word ∈ phrase, words word = [word] := fun word member =>
        words_small (isPhrase.ne_nil member) (isPhrase word member).2
      rw [words_gap_append isGap, words_of_separated separated each, isPhrase.map_toLower]
  | @capitals _ front text isGap separated =>
      have each : ∀ word ∈ phrase.map (List.map Char.toUpper), words word = [word] := by
        intro capitals member
        obtain ⟨word, inPhrase, rfl⟩ := List.mem_map.mp member
        refine words_capitals (by simpa using isPhrase.ne_nil inPhrase) fun c inWord => ?_
        obtain ⟨d, inSmall, rfl⟩ := List.mem_map.mp inWord
        exact isUpper_toUpper_of_isLower ((isPhrase word inPhrase).2 d inSmall)
      rw [words_gap_append isGap, words_of_separated separated each]
      exact isPhrase.map_toLower_map _ map_toLower_map_toUpper
  | camelCase word rest =>
      have firstWord : word.map Char.toLower = word := (List.cons.inj isPhrase.map_toLower).1
      rw [words_camelCase isPhrase, List.map_cons, firstWord,
        isPhrase.tail.map_toLower_map raised map_toLower_raised]
  | pascalCase =>
      rw [words_pascalCase isPhrase, isPhrase.map_toLower_map raised map_toLower_raised]

/-- The case of a word is lost when it is capitalized. -/
theorem capitalized_eq_raised (word : List Char) :
    capitalized word = raised (word.map Char.toLower) := by
  cases word with
  | nil => rfl
  | cons first rest => simp [capitalized, raised]

theorem publicName_of_spells (isPhrase : IsPhrase phrase) (spells : Spells phrase key.toList) :
    publicName key = String.ofList (phrase.flatMap raised) := by
  have lowered := map_toLower_words_of_spells isPhrase spells
  have ascii : ∀ word ∈ words key.toList, IsAscii word := by
    intro word member c inWord
    have inPhrase : word.map Char.toLower ∈ phrase := by
      rw [← lowered]
      exact List.mem_map_of_mem member
    have isLower := (isPhrase _ inPhrase).2 c.toLower (List.mem_map_of_mem inWord)
    have isAlphanum : c.isAlphanum = true := by
      rw [← isAlphanum_toLower]
      exact isAlphanum_of_isLower isLower
    exact toNat_lt_of_isAlphanum isAlphanum
  rw [publicName, joinCapitalized_of_ascii_words ascii, funext capitalized_eq_raised, ← lowered,
    List.flatMap_map]

end Phrases

/-- What the spellings of a phrase have in common. -/
structure SharesName (phrase : List (List Char)) : Prop where
  publicName_eq : ∀ key : String, Spells phrase key.toList →
    publicName key = String.ofList (phrase.flatMap raised)
  refused : ∀ (namespaceName fileName : String) (document : Schema.Node)
    (first second : String × Schema.Node),
    first ∈ document.properties → second ∈ document.properties → first.1 ≠ second.1 →
    Spells phrase first.1.toList → Spells phrase second.1.toList →
      ∃ failure, ClassDef.ofDocument namespaceName fileName document = .error failure

/-- All spellings of a phrase give one public name, its words with their first letters raised, so
that no class is made of a document with two of them among its keys. -/
theorem sharesName_of_isPhrase (isPhrase : IsPhrase phrase) : SharesName phrase where
  publicName_eq := fun _ spells => publicName_of_spells isPhrase spells
  refused := by
    intro namespaceName fileName document first second firstMem secondMem differ spellsFirst
      spellsSecond
    cases made : ClassDef.ofDocument namespaceName fileName document with
    | error failure => exact ⟨failure, rfl⟩
    | ok classDef =>
        have sameName : publicName first.1 = publicName second.1 := by
          rw [publicName_of_spells isPhrase spellsFirst, publicName_of_spells isPhrase spellsSecond]
        have same := List.inj_on_of_nodup_map (ClassDef.nodup_publicNames made) firstMem secondMem
          sameName
        exact absurd (congrArg Prod.fst same) differ

/-- A document with two spellings of the same words among its keys. -/
def respelledDocument : Schema.Node :=
  { Schema.Node.empty with
    properties := [
      ("byteOffset", { Schema.Node.empty with typeKeyword := some (.single .integer) }),
      ("name", { Schema.Node.empty with typeKeyword := some (.single .string) }),
      ("$.BYTE_OFFSET", { Schema.Node.empty with typeKeyword := some (.single .string) })] }

theorem sharesName_byteOffset :
    IsPhrase ["byte".toList, "offset".toList] ∧
      Spells ["byte".toList, "offset".toList] "byteOffset".toList ∧
      Spells ["byte".toList, "offset".toList] "$.BYTE_OFFSET".toList ∧
      publicName "byteOffset" = "ByteOffset" ∧ publicName "$.BYTE_OFFSET" = "ByteOffset" ∧
      ∃ failure,
        ClassDef.ofDocument defaultNamespace "buffer.schema.json" respelledDocument =
          .error failure := by
  have isPhrase : IsPhrase ["byte".toList, "offset".toList] := by
    simp [IsPhrase]
  have camelCase : Spells ["byte".toList, "offset".toList] "byteOffset".toList :=
    .camelCase "byte".toList ["offset".toList]
  have capitals : Spells ["byte".toList, "offset".toList] "$.BYTE_OFFSET".toList := by
    have front : IsGap "$.".toList := by simp [IsGap]
    have between : IsGap ['_'] := by simp [IsGap]
    have behind : IsGap [] := by simp [IsGap]
    exact .capitals front (.cons between (by decide) (.last behind))
  have shares := sharesName_of_isPhrase isPhrase
  refine ⟨isPhrase, camelCase, capitals, shares.publicName_eq _ camelCase,
    shares.publicName_eq _ capitals, ?_⟩
  exact shares.refused _ _ respelledDocument
    ("byteOffset", { Schema.Node.empty with typeKeyword := some (.single .integer) })
    ("$.BYTE_OFFSET", { Schema.Node.empty with typeKeyword := some (.single .string) })
    (by simp [respelledDocument]) (by simp [respelledDocument]) (by decide) camelCase capitals

end Naming
end SchemaClasses
