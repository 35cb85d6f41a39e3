import SchemaClasses.Proofs.CSharp.ArrayLiterals

/-!
# Types told apart by their spelling

The brackets of an array stand behind its elements, and those of a dictionary around its values, so
the last character of a spelling says which of them comes apart first.  What has no brackets is a
keyword, which starts with a small letter, or the name of a class.  As long as class names start
with a capital, no two types have the same spelling.
-/

namespace SchemaClasses
namespace Target

/-- The bracket at the end of a type with parts. -/
def closingBracket? : Target → Option Char
  | .scalar _ => none
  | .array _ => some ']'
  | .dictionary _ => some '>'
  | .object _ => none

/-- The elements of arrays in a type have a type and nothing else, at every depth. -/
inductive OfBareElements : Target → Prop
  | scalar (kind : ScalarKind) : OfBareElements (.scalar kind)
  | array {element : Target} (bare : OfBareElements element) : OfBareElements (.arrayOf element)
  | dictionary {value : Target} (bare : OfBareElements value) : OfBareElements (.dictionary value)
  | object (className : String) : OfBareElements (.object className)

end Target

namespace CSharp

variable {first second target : Target} {name : String}

/-- An identifier of ASCII characters that starts with a capital letter. -/
structure IsCapitalIdentifier (name : String) : Prop where
  capital : name.toList.head?.any Char.isUpper = true
  ascii : ∀ c ∈ name.toList, c.isAlphanum = true ∨ c = '_'

/-- The class in a type, if there is one, has a capital identifier as its name. -/
def NamesCapital (target : Target) : Prop :=
  ∀ name, target.className? = some name → IsCapitalIdentifier name

/-- The brackets that can stand at the end of a type. -/
def isClosing (c : Char) : Bool :=
  c = ']' || c = '>'

theorem IsCapitalIdentifier.not_isClosing (capital : IsCapitalIdentifier name) {c : Char}
    (member : c ∈ name.toList) : isClosing c = false := by
  rw [isClosing, Bool.or_eq_false_iff, decide_eq_false_iff_not, decide_eq_false_iff_not]
  rcases capital.ascii c member with alphanumeric | rfl
  · constructor
    · rintro rfl
      exact absurd alphanumeric (by decide)
    · rintro rfl
      exact absurd alphanumeric (by decide)
  · decide

theorem IsCapitalIdentifier.ne_scalarKeyword (capital : IsCapitalIdentifier name)
    (kind : ScalarKind) : scalarKeyword kind ≠ name := by
  rintro rfl
  have raised := capital.capital
  cases kind <;> exact absurd raised (by decide)

theorem scalarKeyword_injective : Function.Injective scalarKeyword := by
  intro first second sameKeyword
  cases first <;> cases second <;> first | rfl | exact absurd sameKeyword (by decide)

/-- The end of a spelling shows the outermost part of the type. -/
theorem filter_getLast?_typeText (named : NamesCapital target) :
    (typeText target).toList.getLast?.filter isClosing = target.closingBracket? := by
  cases target with
  | scalar kind => cases kind <;> decide
  | array element =>
      rw [typeText_array, String.toList_append, List.getLast?_append]
      rfl
  | dictionary value =>
      rw [typeText_dictionary, String.toList_append, List.getLast?_append]
      rfl
  | object className =>
      have capital := named className rfl
      apply Option.filter_eq_none_iff.mpr
      intro c isLast
      rw [capital.not_isClosing (List.mem_of_getLast? isLast)]
      decide

theorem closingBracket?_eq_of_typeText_eq (firstNamed : NamesCapital first)
    (secondNamed : NamesCapital second) (sameText : typeText first = typeText second) :
    first.closingBracket? = second.closingBracket? := by
  rw [← filter_getLast?_typeText firstNamed, ← filter_getLast?_typeText secondNamed, sameText]

theorem typeText_arrayOf_inj :
    typeText (.arrayOf first) = typeText (.arrayOf second) ↔ typeText first = typeText second := by
  rw [typeText_arrayOf, typeText_arrayOf, String.append_left_inj]

theorem typeText_dictionary_inj :
    typeText (.dictionary first) = typeText (.dictionary second) ↔
      typeText first = typeText second := by
  rw [typeText_dictionary, typeText_dictionary, String.append_left_inj, String.append_right_inj]

/-- Types have the same spelling only if they are the same, at every depth, as long as elements are
bare and the classes are named by capital identifiers. -/
theorem typeText_eq_iff (firstBare : first.OfBareElements) (secondBare : second.OfBareElements)
    (firstNamed : NamesCapital first) (secondNamed : NamesCapital second) :
    typeText first = typeText second ↔ first = second := by
  constructor
  · intro sameText
    induction firstBare generalizing second with
    | scalar kind =>
        have sameBracket := closingBracket?_eq_of_typeText_eq firstNamed secondNamed sameText
        cases secondBare with
        | scalar other => rw [scalarKeyword_injective sameText]
        | object name => exact absurd sameText ((secondNamed name rfl).ne_scalarKeyword kind)
        | array | dictionary => cases sameBracket
    | object name =>
        have sameBracket := closingBracket?_eq_of_typeText_eq firstNamed secondNamed sameText
        cases secondBare with
        | scalar kind => exact absurd sameText.symm ((firstNamed name rfl).ne_scalarKeyword kind)
        | object other => exact congrArg Target.object sameText
        | array | dictionary => cases sameBracket
    | @array element _ ih =>
        have sameBracket := closingBracket?_eq_of_typeText_eq firstNamed secondNamed sameText
        cases secondBare with
        | @array other otherBare =>
            have elementNamed : NamesCapital element := firstNamed
            have otherNamed : NamesCapital other := secondNamed
            rw [ih otherBare elementNamed otherNamed (typeText_arrayOf_inj.mp sameText)]
        | scalar | dictionary | object => cases sameBracket
    | @dictionary value _ ih =>
        have sameBracket := closingBracket?_eq_of_typeText_eq firstNamed secondNamed sameText
        cases secondBare with
        | @dictionary other otherBare =>
            have valueNamed : NamesCapital value := firstNamed
            have otherNamed : NamesCapital other := secondNamed
            rw [ih otherBare valueNamed otherNamed (typeText_dictionary_inj.mp sameText)]
        | scalar | array | object => cases sameBracket
  · intro sameType
    rw [sameType]

/-- Arrays of dictionaries of nodes. -/
def nodeTables : Target :=
  .arrayOf (.dictionary (.object "Node2D"))

/-- Dictionaries of arrays of nodes. -/
def nodeLists : Target :=
  .dictionary (.arrayOf (.object "Node2D"))

/-- Both are spelled with the same parts in a different order. -/
theorem typeText_nodeTables_ne :
    nodeTables.OfBareElements ∧ nodeLists.OfBareElements ∧ NamesCapital nodeTables ∧
      NamesCapital nodeLists ∧ typeText nodeTables ≠ typeText nodeLists := by
  have tablesBare : nodeTables.OfBareElements := .array (.dictionary (.object "Node2D"))
  have listsBare : nodeLists.OfBareElements := .dictionary (.array (.object "Node2D"))
  have capital : IsCapitalIdentifier "Node2D" := ⟨by decide, by decide⟩
  have tablesNamed : NamesCapital nodeTables := by
    rintro name named
    exact Option.some.inj named ▸ capital
  have listsNamed : NamesCapital nodeLists := by
    rintro name named
    exact Option.some.inj named ▸ capital
  refine ⟨tablesBare, listsBare, tablesNamed, listsNamed, ?_⟩
  rw [ne_eq, typeText_eq_iff tablesBare listsBare tablesNamed listsNamed]
  intro sameType
  nomatch sameType

-- Without a capital the name of a class can be a keyword.
example : typeText (.object "int") = typeText (.scalar .integer) := rfl

end CSharp
end SchemaClasses
