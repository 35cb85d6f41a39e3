import SchemaClasses.CSharp.Source
import SchemaClasses.Proofs.Binary64.PlainCharacters
import SchemaClasses.Proofs.Naming.Marks

/-!
# Texts on one line

Names and numbers of C# have no line terminators in them unless a title has one.  String literals
escape two of the terminators and keep the other ones.
-/

namespace SchemaClasses

/-- A text without terminators stays on one line. -/
def Unbroken (text : String) : Prop :=
  ∀ c ∈ text.toList, c ∉ Text.terminators

instance (text : String) : Decidable (Unbroken text) :=
  inferInstanceAs (Decidable (∀ c ∈ text.toList, c ∉ Text.terminators))

section Names

variable {first second name separator : String} {texts : List String}

@[simp]
theorem unbroken_append : Unbroken (first ++ second) ↔ Unbroken first ∧ Unbroken second := by
  simp only [Unbroken, String.toList_append, List.forall_mem_append]

-- The characters are explicit, since every text in quotes is one that is made of a list.
theorem unbroken_ofList (chars : List Char) :
    Unbroken (String.ofList chars) ↔ ∀ c ∈ chars, c ∉ Text.terminators := by
  rw [Unbroken, String.toList_ofList]

/-- A text between others in a template stands for itself. -/
theorem toString_text (text : String) : toString text = text :=
  rfl

theorem unbroken_intercalate (separated : Unbroken separator) :
    Unbroken (separator.intercalate texts) ↔ ∀ text ∈ texts, Unbroken text := by
  induction texts with
  | nil => simp [Unbroken]
  | cons text rest ih =>
      cases rest with
      | nil => simp
      | cons next rest =>
          rw [String.intercalate_cons_cons, unbroken_append, unbroken_append, ih,
            List.forall_mem_cons]
          simp [separated]

theorem unbroken_publicName (key : String) : Unbroken (Naming.publicName key) :=
  fun _ member isTerminator =>
    Naming.not_mem_publicName (List.mem_cons_of_mem _ isTerminator) member

theorem unbroken_backingName (named : Unbroken name) : Unbroken (Naming.backingName name) := by
  rw [Naming.backingName, unbroken_append, unbroken_ofList (Naming.lowerFirst _)]
  refine ⟨by decide, fun c member isTerminator => ?_⟩
  have inName := Naming.mem_of_recases (List.mem_cons_of_mem _ isTerminator)
    (Naming.recases_lowerFirst _) member
  exact named c inName isTerminator

theorem unbroken_predicateName (named : Unbroken name) : Unbroken (Naming.predicateName name) :=
  unbroken_append.mpr ⟨by decide, named⟩

theorem unbroken_className {title : String} (titled : Unbroken title) :
    Unbroken (Naming.className title) := by
  intro c member isTerminator
  have inTitle := (Naming.mem_className_iff (List.mem_cons_of_mem _ isTerminator)).mp member
  exact titled c inTitle isTerminator

end Names

namespace CSharp

variable {text : String}

/-- The terminators that a string literal has no escape for. -/
def unescapedTerminators : List Char :=
  ['\u0085', '\u2028', '\u2029']

/-- A text whose characters are replaced has terminators if it has characters that are replaced by
some. -/
theorem forall_mem_flatMap_iff {image : Char → List Char} {replaced : List Char}
    (images : ∀ c, (∃ d ∈ image c, d ∈ Text.terminators) ↔ c ∈ replaced) {chars : List Char} :
    (∀ d ∈ chars.flatMap image, d ∉ Text.terminators) ↔ ∀ c ∈ chars, c ∉ replaced := by
  simp only [← images, List.mem_flatMap, not_exists, not_and, forall_exists_index, and_imp]
  constructor
  · exact fun outside c inText d inImage => outside d c inText inImage
  · exact fun outside d c inText inImage => outside c inText d inImage

theorem exists_mem_escapeCharacter_iff (c : Char) :
    (∃ d ∈ escapeCharacter c, d ∈ Text.terminators) ↔ c ∈ unescapedTerminators := by
  unfold escapeCharacter
  split
  case h_6 notBackslash notQuote notFeed notReturn notTab =>
    have split_iff : c ∈ Text.terminators ↔ c = '\n' ∨ c = '\r' ∨ c ∈ unescapedTerminators := by
      simp [Text.terminators, unescapedTerminators]
    simp only [List.mem_singleton, exists_eq_left, split_iff]
    exact (or_iff_right notFeed).trans (or_iff_right notReturn)
  all_goals decide

theorem exists_mem_entityCharacter_iff (c : Char) :
    (∃ d ∈ entityCharacter c, d ∈ Text.terminators) ↔ c ∈ Text.terminators := by
  unfold entityCharacter
  split
  case h_4 => simp only [List.mem_singleton, exists_eq_left]
  all_goals decide

theorem unbroken_stringLiteral :
    Unbroken (stringLiteral text) ↔ ∀ c ∈ text.toList, c ∉ unescapedTerminators := by
  have quote : ∀ c ∈ ['"'], c ∉ Text.terminators := by decide
  rw [stringLiteral, unbroken_ofList, List.forall_mem_append, and_iff_left quote,
    List.forall_mem_cons, and_iff_right (by decide), escape,
    forall_mem_flatMap_iff exists_mem_escapeCharacter_iff]

theorem unbroken_entities (chars : List Char) :
    Unbroken (String.ofList (entities chars)) ↔ ∀ c ∈ chars, c ∉ Text.terminators := by
  rw [unbroken_ofList, entities, forall_mem_flatMap_iff exists_mem_entityCharacter_iff]

theorem unbroken_stringLiteral_of_unbroken (unbroken : Unbroken text) :
    Unbroken (stringLiteral text) := by
  have escaped : ∀ c ∈ unescapedTerminators, c ∈ Text.terminators := by decide
  exact unbroken_stringLiteral.mpr fun c member isUnescaped =>
    unbroken c member (escaped c isUnescaped)

theorem not_mem_terminators_of_isDigit {c : Char} (isDigit : c.isDigit = true) :
    c ∉ Text.terminators := by
  have noDigit : ∀ c ∈ Text.terminators, c.isDigit = false := by decide
  intro isTerminator
  rw [noDigit c isTerminator] at isDigit
  nomatch isDigit

theorem unbroken_toDigits (n : Nat) : ∀ c ∈ Nat.toDigits 10 n, c ∉ Text.terminators :=
  fun c member => not_mem_terminators_of_isDigit (Binary64.forall_isDigit_toDigits n c member)

theorem unbroken_integerText (n : Int) : Unbroken (toString n) := by
  have digits : ∀ n : Nat, Unbroken n.repr := fun n =>
    (unbroken_ofList _).mpr (unbroken_toDigits n)
  rw [Int.toString_eq_repr, Int.repr_eq_if]
  split
  · exact digits _
  · exact unbroken_append.mpr ⟨by decide, digits _⟩

theorem unbroken_numberText (value : Binary64) : Unbroken (Binary64.plainLayout.text value) := by
  cases value with
  | finite value =>
      rw [Binary64.Layout.text, unbroken_ofList]
      intro c member
      rcases Binary64.mem_finiteText_plainLayout member with isDigit | rfl | rfl
      · exact not_mem_terminators_of_isDigit isDigit
      · decide
      · decide
  | infinite negative => cases negative <;> decide
  | nan => decide

end CSharp
end SchemaClasses
