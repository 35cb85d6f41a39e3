import SchemaClasses.Proofs.CSharp.LiteralReading

/-!
# Texts of default literals

A literal is told from whatever stands behind it.  Arrays without elements have one text, which no
array with elements has, and the elements of an array are told from what stands behind each of them,
so that two literals of one type have the same text only if they are the same.
-/

namespace SchemaClasses
namespace CSharp

variable {element target : Target} {first second : Literal} {behind after : List Char}

section Arrays

/-- The elements of an array after the first one, and the end of the array. -/
def laterElements : List String → List Char
  | [] => " \x7d".toList
  | text :: rest => ", ".toList ++ (text.toList ++ laterElements rest)

theorem toList_elements (text : String) (rest : List String) :
    (", ".intercalate (text :: rest)).toList ++ " \x7d".toList =
      text.toList ++ laterElements rest := by
  induction rest generalizing text with
  | nil => simp [laterElements]
  | cons next rest ih =>
      rw [String.intercalate_cons_cons, String.toList_append, String.toList_append,
        List.append_assoc, List.append_assoc, ih, laterElements]

theorem delimited_laterElements (texts : List String) (behind : List Char) :
    Delimited (laterElements texts ++ behind) := by
  cases texts with
  | nil =>
      rintro c ⟨⟩
      exact Or.inr rfl
  | cons text rest =>
      rintro c ⟨⟩
      exact Or.inl rfl

/-- The start of an array with elements. -/
def arrayStart (element : Target) : List Char :=
  "new ".toList ++ ((typeText element).toList ++ "[] \x7b ".toList)

theorem arrayText_nil (element : Target) : arrayText element [] = emptyArray element :=
  rfl

theorem toList_arrayText_cons (element : Target) (text : String) (rest : List String) :
    (arrayText element (text :: rest)).toList =
      arrayStart element ++ (text.toList ++ laterElements rest) := by
  rw [← toList_elements]
  simp [arrayText, arrayStart, String.toList_append]

/-- An array without elements and one with elements differ right behind the name of their type: the
first one has a zero there. -/
theorem emptyArray_append_ne (element : Target) (behind after : List Char) :
    (emptyArray element).toList ++ behind ≠ arrayStart element ++ after := by
  intro same
  have splitEq : (typeText element).toList.takeWhile (· != '[') ++
      (typeText element).toList.dropWhile (· != '[') = (typeText element).toList :=
    List.takeWhile_append_dropWhile
  unfold emptyArray arrayStart at same
  simp only [String.toList_append, String.toList_ofList, List.append_assoc] at same
  generalize (typeText element).toList.takeWhile (· != '[') = base at splitEq same
  generalize (typeText element).toList.dropWhile (· != '[') = ranks at splitEq same
  rw [← splitEq, List.append_cancel_left_eq, List.append_assoc, List.append_cancel_left_eq] at same
  have startEq : ("[0]".toList ++ ranks) ++ behind =
      (ranks ++ "[] ".toList) ++ ("\x7b ".toList ++ after) := by
    rw [List.append_assoc, same, List.append_assoc]
    rfl
  have lengthEq : ("[0]".toList ++ ranks).length = (ranks ++ "[] ".toList).length := by
    rw [List.length_append, List.length_append, Nat.add_comm]
    rfl
  have countEq := congrArg (List.count '0') (List.append_inj startEq lengthEq).1
  have inSize : List.count '0' "[0]".toList = 1 := by decide
  have inRank : List.count '0' "[] ".toList = 0 := by decide
  rw [List.count_append, List.count_append, inSize, inRank] at countEq
  omega

end Arrays

/-- A type of which each literal is told from what stands behind it. -/
def ToldApart (target : Target) : Prop :=
  ∀ {value other : Json.Value} {first second : Literal} {behind after : List Char},
    Literal.ofValue? target value = some first → Literal.ofValue? target other = some second →
      Delimited behind → Delimited after →
        (literalText target first).toList ++ behind =
            (literalText target second).toList ++ after →
          first = second ∧ behind = after

theorem toldApart_scalar (kind : ScalarKind) : ToldApart (.scalar kind) := by
  intro value other first second behind after made otherMade delimited otherDelimited same
  have firstRead := readScalar?_literalText (.scalar kind)
    (isScalar_of_hasKind (Literal.ofValue?_scalar_eq_some_iff.mp made)) delimited
  have secondRead := readScalar?_literalText (.scalar kind)
    (isScalar_of_hasKind (Literal.ofValue?_scalar_eq_some_iff.mp otherMade)) otherDelimited
  rw [same, secondRead, Option.some.injEq, Prod.mk.injEq] at firstRead
  exact ⟨firstRead.1.symm, firstRead.2.symm⟩

/-- If each element is told from what stands behind it, so are all of them. -/
theorem laterElements_inj (apart : ToldApart element) {values others : List Json.Value}
    {firsts seconds : List Literal}
    (made : List.Forall₂ (fun value literal => Literal.ofValue? element value = some literal)
      values firsts)
    (otherMade : List.Forall₂ (fun value literal => Literal.ofValue? element value = some literal)
      others seconds)
    (same : laterElements (literalTexts element firsts) ++ behind =
      laterElements (literalTexts element seconds) ++ after) :
    firsts = seconds ∧ behind = after := by
  induction made generalizing others seconds with
  | nil =>
      cases otherMade with
      | nil => exact ⟨rfl, List.append_cancel_left same⟩
      | cons => nomatch same
  | cons firstMade _ ih =>
      cases otherMade with
      | nil => nomatch same
      | cons secondMade secondsMade =>
          simp only [literalTexts, laterElements, List.append_assoc, List.append_cancel_left_eq]
            at same
          obtain ⟨rfl, restEq⟩ := apart firstMade secondMade (delimited_laterElements _ _)
            (delimited_laterElements _ _) same
          obtain ⟨rfl, behindEq⟩ := ih secondsMade restEq
          exact ⟨rfl, behindEq⟩

theorem ToldApart.array {element : Descriptor} (apart : ToldApart element.target) :
    ToldApart (.array element) := by
  intro value other first second behind after made otherMade delimited otherDelimited same
  obtain ⟨values, firsts, rfl, rfl, related⟩ := Literal.ofValue?_array_eq_some_iff.mp made
  obtain ⟨others, seconds, rfl, rfl, otherRelated⟩ :=
    Literal.ofValue?_array_eq_some_iff.mp otherMade
  rw [literalText, literalText, elementOf] at same
  cases related with
  | nil =>
      cases otherRelated with
      | nil => exact ⟨rfl, List.append_cancel_left same⟩
      | cons secondMade secondsMade =>
          rw [literalTexts, literalTexts, arrayText_nil, toList_arrayText_cons,
            List.append_assoc] at same
          exact absurd same (emptyArray_append_ne element.target behind _)
  | cons firstMade firstsMade =>
      cases otherRelated with
      | nil =>
          rw [literalTexts, literalTexts, arrayText_nil, toList_arrayText_cons,
            List.append_assoc] at same
          exact absurd same.symm (emptyArray_append_ne element.target after _)
      | cons secondMade secondsMade =>
          simp only [literalTexts, toList_arrayText_cons, List.append_assoc,
            List.append_cancel_left_eq] at same
          obtain ⟨rfl, restEq⟩ := apart firstMade secondMade (delimited_laterElements _ _)
            (delimited_laterElements _ _) same
          obtain ⟨rfl, behindEq⟩ := laterElements_inj apart firstsMade secondsMade restEq
          exact ⟨rfl, behindEq⟩

theorem toldApart (target : Target) : ToldApart target := by
  induction target with
  | scalar kind => exact toldApart_scalar kind
  | array element ih => exact ih.array
  | dictionary | object =>
      intro value other first second behind after made
      nomatch made

/-- Default literals of one type have the same text exactly if they are the same, whatever texts,
numbers and arrays there are in them. -/
theorem literalText_eq_iff {value other : Json.Value}
    (made : Literal.ofValue? target value = some first)
    (otherMade : Literal.ofValue? target other = some second) :
    literalText target first = literalText target second ↔ first = second := by
  constructor
  · intro same
    have charactersEq : (literalText target first).toList ++ [] =
        (literalText target second).toList ++ [] := by rw [same]
    exact (toldApart target made otherMade delimited_nil delimited_nil charactersEq).1
  · rintro rfl
    rfl

/-- One text with the separator of elements in it, and two texts. -/
theorem literalText_separator_ne :
    literalText (.arrayOf (.scalar .any)) (.sequence [.string "a\", \"b"]) ≠
      literalText (.arrayOf (.scalar .any)) (.sequence [.string "a", .string "b"]) := by
  have made : Literal.ofValue? (.arrayOf (.scalar .any)) (.array [.string "a\", \"b"]) =
      some (.sequence [.string "a\", \"b"]) := rfl
  have otherMade :
      Literal.ofValue? (.arrayOf (.scalar .any)) (.array [.string "a", .string "b"]) =
        some (.sequence [.string "a", .string "b"]) := rfl
  intro same
  have sequenceEq := (literalText_eq_iff made otherMade).mp same
  simp at sequenceEq

end CSharp
end SchemaClasses
