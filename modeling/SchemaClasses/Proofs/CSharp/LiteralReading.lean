import SchemaClasses.Proofs.Binary64.PlainText
import SchemaClasses.Proofs.CSharp.Literals
import SchemaClasses.Proofs.CSharp.StringLiterals
import SchemaClasses.Proofs.Member.Initialization

/-!
# Reading scalar literals

A scalar literal shows what it is by its first character, and where it ends: a string at the quote
that is not escaped, a number before the first character that no number has.  A reader of the text
needs no type to get the literal back.
-/

namespace SchemaClasses
namespace CSharp

open Binary64

/-- What stands behind a literal: nothing, the comma of the next element, or the space before the
brace. -/
def Delimited (behind : List Char) : Prop :=
  ∀ c ∈ behind.head?, c = ',' ∨ c = ' '

theorem delimited_nil : Delimited [] :=
  fun _ isHead => nomatch isHead

/-- The characters of numbers, apart from the letter that marks single precision. -/
def isNumeral (c : Char) : Bool :=
  c.isDigit || c == '.' || c == '-'

/-- The integer with the sign and the digits of a text. -/
def readInteger (text : List Char) : Int :=
  let magnitude : Int := Nat.ofDigitChars 10 (readSign text).2 0
  if (readSign text).1 then -magnitude else magnitude

/-- A number whose characters are given, and what stands behind it. -/
def readNumeral? (numeral : List Char) : List Char → Option (Literal × List Char)
  | 'F' :: behind => (readFinite? numeral).map fun value => (.number (.finite value), behind)
  | behind => some (.integer (readInteger numeral), behind)

/-- A string or a truth value at the start of a text, and what stands behind it. -/
def readWord? : List Char → Option (Literal × List Char)
  | '"' :: rest =>
      (readCharacters? rest).map fun (text, behind) => (.string (String.ofList text), behind)
  | 't' :: 'r' :: 'u' :: 'e' :: behind => some (.boolean true, behind)
  | 'f' :: 'a' :: 'l' :: 's' :: 'e' :: behind => some (.boolean false, behind)
  | _ => none

/-- The scalar literal at the start of a text, and what stands behind it. -/
def readScalar? (text : List Char) : Option (Literal × List Char) :=
  let numeral := text.takeWhile isNumeral
  if numeral = [] then readWord? text
  else readNumeral? numeral (text.dropWhile isNumeral)

section Scalars

variable {numeral behind : List Char} {literal : Literal} {kind : ScalarKind} {value : Json.Value}

theorem readScalar?_numeral (notEmpty : numeral ≠ [])
    (numerals : ∀ c ∈ numeral, isNumeral c = true)
    (stops : ∀ c ∈ behind.head?, isNumeral c = false) :
    readScalar? (numeral ++ behind) = readNumeral? numeral behind := by
  have takenEq : (numeral ++ behind).takeWhile isNumeral = numeral := by
    rw [List.takeWhile_append_of_pos numerals]
    cases behind with
    | nil => simp
    | cons c rest => simp [stops c rfl]
  have droppedEq : (numeral ++ behind).dropWhile isNumeral = behind := by
    rw [List.dropWhile_append_of_pos numerals]
    cases behind with
    | nil => rfl
    | cons c rest => simp [stops c rfl]
  rw [readScalar?, takenEq, droppedEq, if_neg notEmpty]

theorem toList_integerText (value : Int) :
    (toString value).toList =
      if 0 ≤ value then Nat.toDigits 10 value.natAbs else '-' :: Nat.toDigits 10 value.natAbs := by
  rw [Int.toString_eq_repr, Int.repr_eq_if]
  split
  case isTrue notNegative =>
    have natEq : value.toNat = value.natAbs := by omega
    rw [Nat.toList_repr, natEq]
  case isFalse isNegative =>
    have natEq : (-value).toNat = value.natAbs := by omega
    rw [String.toList_append, Nat.toList_repr, natEq]
    rfl

theorem minus_not_mem_toDigits (n : Nat) : '-' ∉ Nat.toDigits 10 n :=
  fun member => nomatch forall_isDigit_toDigits n '-' member

theorem readInteger_toString (value : Int) : readInteger (toString value).toList = value := by
  rw [toList_integerText]
  split
  case isTrue notNegative =>
    simp only [readInteger, readSign_of_not_mem (minus_not_mem_toDigits _),
      Nat.ofDigitChars_ten_toDigits, Bool.false_eq_true, if_false]
    omega
  case isFalse isNegative =>
    simp only [readInteger, readSign, Nat.ofDigitChars_ten_toDigits, if_true]
    omega

theorem integerText_ne_nil (value : Int) : (toString value).toList ≠ [] := by
  rw [toList_integerText]
  split
  · exact Nat.toDigits_ne_nil
  · exact List.cons_ne_nil _ _

theorem isNumeral_of_isDigit {c : Char} (isDigit : c.isDigit = true) : isNumeral c = true := by
  rw [isNumeral, isDigit, Bool.true_or, Bool.true_or]

theorem isNumeral_integerText (value : Int) :
    ∀ c ∈ (toString value).toList, isNumeral c = true := by
  have digits : ∀ c ∈ Nat.toDigits 10 value.natAbs, isNumeral c = true := fun c member =>
    isNumeral_of_isDigit (forall_isDigit_toDigits _ c member)
  rw [toList_integerText]
  split
  · exact digits
  · exact List.forall_mem_cons.mpr ⟨by decide, digits⟩

theorem isNumeral_finiteText (value : Finite) :
    ∀ c ∈ plainLayout.finiteText value, isNumeral c = true := by
  intro c member
  rcases mem_finiteText_plainLayout member with isDigit | rfl | rfl
  · exact isNumeral_of_isDigit isDigit
  · decide
  · decide

/-- The literals of scalars.  Their doubles are finite. -/
inductive IsScalar : Literal → Prop
  | string (text : String) : IsScalar (.string text)
  | integer (value : Int) : IsScalar (.integer value)
  | number (value : Finite) : IsScalar (.number (.finite value))
  | boolean (value : Bool) : IsScalar (.boolean value)

theorem isScalar_of_hasKind (hasKind : Literal.HasKind kind value literal) : IsScalar literal := by
  induction hasKind with
  | string text | anyString text => exact .string text
  | boolean flag | anyBoolean flag => exact .boolean flag
  | integer | anyInteger => exact .integer _
  | number => exact .number _
  | anyNumber _ _ ih => exact ih

theorem readNumeral?_of_delimited (delimited : Delimited behind) :
    readNumeral? numeral behind = some (.integer (readInteger numeral), behind) := by
  unfold readNumeral?
  split
  case h_1 => exact absurd (delimited 'F' rfl) (by decide)
  case h_2 => rfl

/-- A scalar literal is read back, with what stands behind it left over. -/
theorem readScalar?_literalText (target : Target) (isScalar : IsScalar literal)
    (delimited : Delimited behind) :
    readScalar? ((literalText target literal).toList ++ behind) = some (literal, behind) := by
  cases isScalar with
  | string text =>
      have noNumeral : ('"' :: (escape text.toList ++ '"' :: behind)).takeWhile isNumeral = [] :=
        rfl
      rw [literalText, toList_stringLiteral_append, readScalar?, noNumeral, if_pos rfl, readWord?,
        readCharacters?_escape]
      simp only [Option.map_some, String.ofList_toList]
  | boolean flag =>
      rw [literalText]
      cases flag <;> rfl
  | integer whole =>
      have stops : ∀ c ∈ behind.head?, isNumeral c = false := by
        intro c isHead
        rcases delimited c isHead with rfl | rfl <;> decide
      rw [literalText, readScalar?_numeral (integerText_ne_nil whole)
        (isNumeral_integerText whole) stops, readNumeral?_of_delimited delimited,
        readInteger_toString]
  | number double =>
      have textEq : (literalText target (.number (.finite double))).toList ++ behind =
          plainLayout.finiteText double ++ 'F' :: behind := by
        rw [literalText, Layout.text, String.toList_append, String.toList_ofList, List.append_assoc]
        rfl
      have stops : ∀ c ∈ ('F' :: behind).head?, isNumeral c = false := by
        rintro c ⟨⟩
        rfl
      rw [textEq, readScalar?_numeral (finiteText_plainLayout_ne_nil double)
        (isNumeral_finiteText double) stops, readNumeral?, readFinite?_finiteText, Option.map_some]

end Scalars

end CSharp
end SchemaClasses
