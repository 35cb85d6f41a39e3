import SchemaClasses.Classes.Basic
import SchemaClasses.Proofs.Naming.CaseVariants
import SchemaClasses.Proofs.Text.CasedLetters
import SchemaClasses.Proofs.Text.Lines

/-!
# Marks in names

A slash and the terminators of lines have no case and belong to no word.  No mapping of case gives
one of them for another character, so that a class name has those of the title it is made from, and
names that are joined from words have none.
-/

namespace SchemaClasses
namespace Text

/-- The slash, and the characters that end a line. -/
def marks : List Char :=
  '/' :: terminators

variable {mark c : Char} {text : List Char}

theorem eq_toNat_of_ofNat {code : Nat} (isMark : mark ∈ marks) (markEq : mark = Char.ofNat code) :
    code = mark.toNat := by
  by_cases valid : code.isValidChar
  · rw [markEq, Char.ofNat, dif_pos valid]
    rfl
  · -- Numbers beyond the code points stand for the character zero.
    rw [Char.ofNat, dif_neg valid] at markEq
    have notZero : ∀ mark ∈ marks, mark.toNat ≠ 0 := by decide
    exact absurd (congrArg Char.toNat markEq) (notZero mark isMark)

/-- A mapping of case gives every mark for itself and for no other character. -/
structure KeepsMarks (ascii : Char → Char) (expansions : List (Nat × List Nat))
    (runs : List CaseRun) : Prop where
  kept : ∀ mark ∈ marks,
    (if mark.toNat < 128 then [ascii mark] else caseImage expansions runs mark) = [mark]
  ascii : ∀ mark ∈ marks, ∀ code < 128, mark = ascii (Char.ofNat code) → mark = Char.ofNat code
  expansions : ∀ mark ∈ marks, ∀ entry ∈ expansions, mark.toNat ∉ entry.2
  runs : ∀ mark ∈ marks, ∀ run ∈ runs,
    mark.toNat < run.image ∨ run.image + (run.last - run.first) < mark.toNat

section Mapping

variable {ascii : Char → Char} {expansions : List (Nat × List Nat)} {runs : List CaseRun}

theorem KeepsMarks.eq_of_mem_caseImage (keeps : KeepsMarks ascii expansions runs)
    (isMark : mark ∈ marks) (member : mark ∈ caseImage expansions runs c) : mark = c := by
  unfold caseImage at member
  split at member
  · next codes found =>
      obtain ⟨code, codeMem, codeEq⟩ := List.mem_map.mp member
      obtain rfl := eq_toNat_of_ofNat isMark codeEq.symm
      obtain ⟨before, after, expansionsEq, -⟩ := List.lookup_eq_some_iff.mp found
      have entryMem : (c.toNat, codes) ∈ expansions := by simp [expansionsEq]
      exact absurd codeMem (keeps.expansions mark isMark _ entryMem)
  · split at member
    · next image imageEq =>
        obtain rfl := eq_toNat_of_ofNat isMark (List.mem_singleton.mp member)
        obtain ⟨run, runMem, isImage⟩ := CaseRun.exists_mem_images imageEq
        obtain ⟨least, most⟩ := CaseRun.bounds_of_mem_images isImage
        rcases keeps.runs mark isMark run runMem with below | above
        · omega
        · omega
    · exact List.mem_singleton.mp member

theorem KeepsMarks.mem_iff (keeps : KeepsMarks ascii expansions runs) (isMark : mark ∈ marks) :
    mark ∈ (if c.toNat < 128 then [ascii c] else caseImage expansions runs c) ↔ mark = c := by
  constructor
  · intro member
    split at member
    · next small =>
        have ofAscii := keeps.ascii mark isMark c.toNat small
        rw [Char.ofNat_toNat] at ofAscii
        exact ofAscii (List.mem_singleton.mp member)
    · exact keeps.eq_of_mem_caseImage isMark member
  · rintro rfl
    rw [keeps.kept mark isMark]
    exact List.mem_singleton_self mark

end Mapping

theorem mem_lowerChar_iff (isMark : mark ∈ marks) : mark ∈ lowerChar c ↔ mark = c := by
  have keeps : KeepsMarks Char.toLower lowerExpansions lowerRuns :=
    ⟨by decide +kernel, by decide +kernel, by decide +kernel, by decide +kernel⟩
  exact keeps.mem_iff isMark

theorem mem_upperChar_iff (isMark : mark ∈ marks) : mark ∈ upperChar c ↔ mark = c := by
  have keeps : KeepsMarks Char.toUpper upperExpansions upperRuns :=
    ⟨by decide +kernel, by decide +kernel, by decide +kernel, by decide +kernel⟩
  exact keeps.mem_iff isMark

theorem mem_lowerAfter_iff (isMark : mark ∈ marks) {before : List Char} :
    mark ∈ lowerAfter before text ↔ mark ∈ text := by
  induction text generalizing before with
  | nil => rfl
  | cons c rest ih =>
      rw [lowerAfter, List.mem_append, ih, List.mem_cons]
      refine or_congr_left ?_
      have noSigma : ∀ mark ∈ marks, mark ≠ 'Σ' ∧ mark ∉ ['ς'] ∧ mark ∉ ['σ'] := by decide
      obtain ⟨notCapital, notFinal, notSmall⟩ := noSigma mark isMark
      split
      · next isSigma =>
          have notSame : mark ≠ c := isSigma ▸ notCapital
          split
          · exact iff_of_false notFinal notSame
          · exact iff_of_false notSmall notSame
      · exact mem_lowerChar_iff isMark

end Text

namespace Naming

open Text

variable {mark c d : Char} {text image word : List Char} {title key : String}

theorem mem_upperFirst_iff (isMark : mark ∈ marks) : mark ∈ upperFirst word ↔ mark ∈ word := by
  cases word with
  | nil => rfl
  | cons c rest => rw [upperFirst, List.mem_append, List.mem_cons, mem_upperChar_iff isMark]

/-- A class name has the marks of its title. -/
theorem mem_className_iff (isMark : mark ∈ marks) :
    mark ∈ (className title).toList ↔ mark ∈ title.toList := by
  have notSpace : ∀ mark ∈ marks, (!decide (mark = ' ')) = true := by decide
  have inWords : mark ∈ (titleWords title.toList).flatten ↔ mark ∈ title.toList := by
    rw [titleWords, flatten_fields, List.mem_filter]
    exact and_iff_left (notSpace mark isMark)
  rw [← inWords, className, String.toList_ofList, List.mem_flatMap, List.mem_flatten]
  simp only [mem_upperFirst_iff isMark, lower, mem_lowerAfter_iff isMark]

theorem not_isWordCharacter_of_mem_marks (isMark : mark ∈ marks) :
    isWordCharacter mark = false := by
  have noWord : ∀ mark ∈ marks, isWordCharacter mark = false := by decide +kernel
  exact noWord mark isMark

/-- No mapping of case gives a mark for another character. -/
theorem eq_of_caseVariant (variant : CaseVariant c d) (isMark : d ∈ marks) : d = c := by
  induction variant with
  | refl => rfl
  | tail earlier step ih =>
      cases step with
      | lower member =>
          obtain rfl := (mem_lowerChar_iff isMark).mp member
          exact ih isMark
      | upper member =>
          obtain rfl := (mem_upperChar_iff isMark).mp member
          exact ih isMark
      | finalSigma => exact absurd isMark (by decide)

theorem mem_of_recases (isMark : mark ∈ marks) (recases : Recases text image)
    (member : mark ∈ image) : mark ∈ text := by
  obtain ⟨c, inText, variant⟩ := recases mark member
  rwa [eq_of_caseVariant variant isMark]

/-- Words that are joined have no marks. -/
theorem not_mem_joinCapitalized (isMark : mark ∈ marks) : mark ∉ joinCapitalized text := by
  intro member
  have inText := mem_of_recases isMark (recases_joinCapitalized text) member
  have isWord := (List.mem_filter.mp inText).2
  rw [not_isWordCharacter_of_mem_marks isMark] at isWord
  nomatch isWord

theorem not_mem_publicName (isMark : mark ∈ marks) : mark ∉ (publicName key).toList := by
  rw [publicName, String.toList_ofList]
  exact not_mem_joinCapitalized isMark

end Naming

namespace ClassDef

open Text

variable {mark : Char} {fileName : String} {document : Schema.Node}

/-- The marks of a class name come from the title of the document. -/
theorem mem_nameOf_iff (isMark : mark ∈ marks) :
    mark ∈ (nameOf fileName document).toList ↔
      ∃ title, document.trimmedTitle? = some title ∧ mark ∈ title.toList := by
  have notOfFile : mark ∉ (Naming.classNameOfFile fileName).toList := by
    rw [Naming.classNameOfFile, String.toList_ofList]
    exact Naming.not_mem_joinCapitalized isMark
  unfold nameOf
  cases titleEq : document.trimmedTitle? with
  | none => simpa using notOfFile
  | some title =>
      simp only [Option.map_some, Option.some.injEq, exists_eq_left']
      split
      · next isEmpty =>
          have noTitle : mark ∉ title.toList := by
            rw [← Naming.mem_className_iff isMark, String.isEmpty_iff.mp isEmpty]
            exact List.not_mem_nil
          exact iff_of_false notOfFile noTitle
      · exact Naming.mem_className_iff isMark

/-- A class name has a slash if the title of its document has one. -/
theorem slash_mem_nameOf_iff :
    '/' ∈ (nameOf fileName document).toList ↔
      ∃ title, document.title = some title ∧ '/' ∈ title.toList := by
  rw [mem_nameOf_iff (by decide), Schema.Node.trimmedTitle?]
  cases document.title with
  | none => simp
  | some title => simpa using exists_mem_trimmed?_iff (by decide)

end ClassDef
end SchemaClasses
