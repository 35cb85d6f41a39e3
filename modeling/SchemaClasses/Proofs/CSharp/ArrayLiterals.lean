import SchemaClasses.Proofs.CSharp.Literals

/-!
# Spelling of arrays

The type of an array property is a base type with a pair of brackets for every rank.  An array
without elements is spelled by putting its size before the first bracket of its element type, which
is right because no bracket is inside a base type: a dictionary never holds arrays.
-/

namespace SchemaClasses
namespace Target

/-- Whether a type is an array. -/
def isArray : Target → Bool
  | .array _ => true
  | _ => false

/-- The class that a type names, be it for the elements of an array or the values of a
dictionary. -/
def className? : Target → Option String
  | .scalar _ => none
  | .array { target, .. } => target.className?
  | .dictionary value => value.className?
  | .object className => some className

/-- The types without parts. -/
inductive IsPlain : Target → Prop
  | scalar (kind : ScalarKind) : IsPlain (.scalar kind)
  | object (className : String) : IsPlain (.object className)

/-- The types which arrays are made of in the end.  No dictionary holds arrays. -/
inductive IsBase : Target → Prop
  | plain {base : Target} (plain : IsPlain base) : IsBase base
  | dictionary {value : Target} (plain : IsPlain value) : IsBase (.dictionary value)

variable {base : Target}

theorem IsBase.isArray_eq (isBase : IsBase base) : base.isArray = false := by
  cases isBase with
  | plain plain => cases plain <;> rfl
  | dictionary => rfl

theorem className?_array (element : Descriptor) :
    (array element).className? = element.target.className? := by
  cases element
  rfl

theorem className?_iterate_array (ranks : Nat) (base : Target) :
    (Target.arrayOf^[ranks] base).className? = base.className? := by
  induction ranks with
  | zero => rfl
  | succ ranks ih =>
      rw [Function.iterate_succ_apply', arrayOf, className?_array, Descriptor.bare, ih]

end Target

namespace Descriptor

open Schema

theorem isPlain_scalarTarget (node : Node) : (scalarTarget node).IsPlain := by
  rcases scalarTarget_eq node with ⟨kind, targetEq⟩ | ⟨className, targetEq⟩
  · rw [targetEq]
    exact .scalar kind
  · rw [targetEq]
    exact .object className

theorem isPlain_valueType (values : Node) : (valueType values).IsPlain := by
  unfold valueType
  split
  · split
    · exact .object _
    · exact .scalar _
  all_goals exact .scalar _

theorem isBase_baseTarget (last : Node) : (baseTarget last).IsBase := by
  unfold baseTarget
  split
  case h_1 => exact .plain (.scalar .any)
  case h_2 values shapeEq => exact .dictionary (isPlain_valueType values)
  case h_3 fallback shapeEq => exact .plain (isPlain_scalarTarget fallback)
  case h_4 => exact .plain (isPlain_scalarTarget last)

end Descriptor

namespace CSharp

open Target

variable {base element : Target} {literals : List Literal} {texts : List String}
  {value : Json.Value}

/-- The brackets of as many ranks. -/
def ranksText (ranks : Nat) : String :=
  String.join (List.replicate ranks "[]")

theorem ranksText_succ (ranks : Nat) : ranksText (ranks + 1) = ranksText ranks ++ "[]" := by
  rw [ranksText, List.replicate_succ', String.join_append, ← ranksText, String.join_cons,
    String.join_nil, String.append_empty]

theorem toList_ranksText_succ (ranks : Nat) :
    (ranksText (ranks + 1)).toList = '[' :: ']' :: (ranksText ranks).toList := by
  rw [ranksText, List.replicate_succ, String.join_cons, String.toList_append, ← ranksText]
  rfl

/-- Every array around a type adds a pair of brackets at the end of its name. -/
theorem typeText_iterate_array (ranks : Nat) (base : Target) :
    typeText (Target.arrayOf^[ranks] base) = typeText base ++ ranksText ranks := by
  induction ranks with
  | zero => exact (String.append_empty).symm
  | succ ranks ih =>
      rw [Function.iterate_succ_apply', typeText_arrayOf, ih, ranksText_succ, String.append_assoc]

theorem bracket_not_mem_of_isPlain (plain : base.IsPlain)
    (named : ∀ name, base.className? = some name → '[' ∉ name.toList) :
    '[' ∉ (typeText base).toList := by
  cases plain with
  | scalar kind => cases kind <;> decide
  | object className => exact named className rfl

/-- The name of a base type has no bracket in it, unless the name of a class has one. -/
theorem bracket_not_mem_of_isBase (isBase : base.IsBase)
    (named : ∀ name, base.className? = some name → '[' ∉ name.toList) :
    '[' ∉ (typeText base).toList := by
  cases isBase with
  | plain plain => exact bracket_not_mem_of_isPlain plain named
  | @dictionary value plain =>
      have inValue : '[' ∉ (typeText value).toList := bracket_not_mem_of_isPlain plain named
      have opening : '[' ∉ "System.Collections.Generic.Dictionary<string, ".toList := by decide
      have closing : '[' ∉ ">".toList := by decide
      simp only [typeText_dictionary, String.toList_append, List.mem_append, not_or]
      exact ⟨⟨opening, inValue⟩, closing⟩

/-- The size of an array without elements stands right behind the name of its base type. -/
theorem emptyArray_iterate_array (noBracket : '[' ∉ (typeText base).toList) (ranks : Nat) :
    emptyArray (Target.arrayOf^[ranks] base) =
      "new " ++ typeText base ++ "[0]" ++ ranksText ranks := by
  have inBase : ∀ c ∈ (typeText base).toList, (c != '[') = true := by
    intro c member
    rw [bne_iff_ne]
    rintro rfl
    exact noBracket member
  have spelledEq : (typeText (Target.arrayOf^[ranks] base)).toList =
      (typeText base).toList ++ (ranksText ranks).toList := by
    rw [typeText_iterate_array, String.toList_append]
  have taken : (ranksText ranks).toList.takeWhile (· != '[') = [] := by
    cases ranks with
    | zero => rfl
    | succ ranks => rw [toList_ranksText_succ]; rfl
  have dropped : (ranksText ranks).toList.dropWhile (· != '[') = (ranksText ranks).toList := by
    cases ranks with
    | zero => rfl
    | succ ranks => rw [toList_ranksText_succ]; rfl
  simp only [emptyArray, spelledEq, List.takeWhile_append_of_pos inBase,
    List.dropWhile_append_of_pos inBase, taken, dropped, List.append_nil, String.ofList_toList]

theorem arrayText_of_ne_nil (element : Target) (notEmpty : texts ≠ []) :
    arrayText element texts =
      "new " ++ typeText (.arrayOf element) ++ " \x7b " ++ ", ".intercalate texts ++ " \x7d" := by
  have brackets : "[] \x7b " = "[]" ++ " \x7b " := rfl
  rw [arrayText, if_neg (by simpa using notEmpty), brackets, typeText_arrayOf]
  simp only [String.append_assoc]

/-- How a sequence is spelled whose elements have `inner` ranks around a base type.  Without
elements, the outermost rank is the size zero.  Otherwise the elements stand in braces behind the
type, and those that are sequences are spelled in the same way with one rank less. -/
inductive SpelledArray (base : Target) : Nat → List Literal → String → Prop
  | empty (inner : Nat) :
      SpelledArray base inner [] ("new " ++ typeText base ++ "[0]" ++ ranksText inner)
  | scalars {elements : List Literal} (notEmpty : elements ≠ [])
      (noSequence : ∀ rows, Literal.sequence rows ∉ elements) :
      SpelledArray base 0 elements
        ("new " ++ (typeText base ++ ranksText 1) ++ " \x7b " ++
          ", ".intercalate (elements.map (literalText base)) ++ " \x7d")
  | sequences {inner : Nat} {rows : List (List Literal)} (textOf : List Literal → String)
      (notEmpty : rows ≠ []) (spelled : ∀ row ∈ rows, SpelledArray base inner row (textOf row)) :
      SpelledArray base (inner + 1) (rows.map .sequence)
        ("new " ++ (typeText base ++ ranksText (inner + 2)) ++ " \x7b " ++
          ", ".intercalate (rows.map textOf) ++ " \x7d")

theorem literalText_arrayOf (element : Target) (literals : List Literal) :
    literalText (.arrayOf element) (.sequence literals) =
      arrayText element (literals.map (literalText element)) := by
  rw [literalText, literalTexts_eq_map]
  rfl

theorem ne_sequence_of_isBase {literal : Literal} (isBase : base.IsBase)
    (made : Literal.ofValue? base value = some literal) (row : List Literal) :
    literal ≠ .sequence row := by
  rintro rfl
  cases isBase with
  | plain plain =>
      cases plain with
      | scalar kind => exact Literal.ofValue?_scalar_ne_sequence made
      | object => nomatch made
  | dictionary => nomatch made

theorem literalText_array_of_ne_nil (ranks : Nat) (base : Target) (notEmpty : literals ≠ []) :
    literalText (Target.arrayOf^[ranks + 1] base) (.sequence literals) =
      "new " ++ (typeText base ++ ranksText (ranks + 1)) ++ " \x7b " ++
        ", ".intercalate (literals.map (literalText (Target.arrayOf^[ranks] base))) ++ " \x7d" := by
  have textsNotEmpty : literals.map (literalText (Target.arrayOf^[ranks] base)) ≠ [] := by
    simpa using notEmpty
  rw [← typeText_iterate_array, Function.iterate_succ_apply', literalText_arrayOf,
    arrayText_of_ne_nil _ textsNotEmpty]

theorem literalText_array_nil (noBracket : '[' ∉ (typeText base).toList) (ranks : Nat) :
    literalText (Target.arrayOf^[ranks + 1] base) (.sequence []) =
      "new " ++ typeText base ++ "[0]" ++ ranksText ranks := by
  rw [Function.iterate_succ_apply', literalText_arrayOf, List.map_nil,
    ← emptyArray_iterate_array noBracket]
  rfl

theorem exists_rows_of_made {values : List Json.Value}
    (made : List.Forall₂
      (fun value literal => Literal.ofValue? (.arrayOf element) value = some literal)
      values literals) :
    ∃ rows : List (List Literal), literals = rows.map .sequence ∧ ∀ row ∈ rows, ∃ origins,
      List.Forall₂ (fun value literal => Literal.ofValue? element value = some literal)
        origins row := by
  induction made with
  | nil => exact ⟨[], rfl, fun _ inNone => nomatch inNone⟩
  | cons firstMade _ ih =>
      obtain ⟨rows, rfl, rowsMade⟩ := ih
      obtain ⟨origins, row, -, rfl, rowMade⟩ := Literal.ofValue?_array_eq_some_iff.mp firstMade
      exact ⟨row :: rows, rfl, List.forall_mem_cons.mpr ⟨⟨origins, rowMade⟩, rowsMade⟩⟩

/-- The literal of a sequence follows the law at every rank. -/
theorem spelledArray_literalText (isBase : base.IsBase) (noBracket : '[' ∉ (typeText base).toList)
    (inner : Nat) {values : List Json.Value} {literals : List Literal}
    (made : List.Forall₂
      (fun value literal => Literal.ofValue? (Target.arrayOf^[inner] base) value = some literal)
      values literals) :
    SpelledArray base inner literals
      (literalText (Target.arrayOf^[inner + 1] base) (.sequence literals)) := by
  induction inner generalizing values literals with
  | zero =>
      by_cases isEmpty : literals = []
      · rw [isEmpty, literalText_array_nil noBracket]
        exact .empty 0
      · rw [literalText_array_of_ne_nil 0 base isEmpty]
        refine .scalars isEmpty fun row member => ?_
        obtain ⟨value, -, madeElement⟩ := exists_left_of_mem made member
        exact ne_sequence_of_isBase isBase madeElement row rfl
  | succ inner ih =>
      by_cases isEmpty : literals = []
      · rw [isEmpty, literalText_array_nil noBracket]
        exact .empty (inner + 1)
      · rw [Function.iterate_succ_apply'] at made
        obtain ⟨rows, rfl, rowsMade⟩ := exists_rows_of_made made
        rw [literalText_array_of_ne_nil _ _ isEmpty, List.map_map]
        refine .sequences _ (by simpa using isEmpty) fun row member => ?_
        obtain ⟨origins, rowMade⟩ := rowsMade row member
        exact ih rowMade

end CSharp

namespace Descriptor

open CSharp Schema

theorem exists_arrayRank_eq_succ {node : Node} {items : Option Node}
    (isArray : node.shape = .array items) : ∃ inner, node.arrayRank = inner + 1 := by
  cases items with
  | none =>
      refine ⟨0, ?_⟩
      rw [Node.arrayRank_of_end (by simp [isArray]), isArray]
      rfl
  | some items => exact ⟨_, Node.arrayRank_of_array isArray⟩

/-- The type of an array property has a base type with no array in it and adds one rank for each
array around it.  The literal that the property starts with is spelled for that type at every
rank. -/
theorem ofProperty_array_spelled {key : String} {node : Node} {requiredByParent : Bool}
    {pointer : Pointer} {items : Option Node} {descriptor : Descriptor}
    (isArray : node.shape = .array items)
    (mapped : ofProperty key node requiredByParent pointer = .ok descriptor)
    (unbracketed : ∀ name, descriptor.target.className? = some name → '[' ∉ name.toList) :
    ∃ inner base literals,
      base.isArray = false ∧ descriptor.target = Target.arrayOf^[inner + 1] base ∧
        typeText descriptor.target = typeText base ++ ranksText (inner + 1) ∧
        descriptor.initial = some (.sequence literals) ∧
        SpelledArray base inner literals (literalText descriptor.target (.sequence literals)) := by
  obtain ⟨inner, rankEq⟩ := exists_arrayRank_eq_succ isArray
  obtain ⟨-, shaped, shapedEq, rfl⟩ := ofProperty_eq_ok_iff.mp mapped
  obtain ⟨-, -, targetEq⟩ := ofShape_hasTarget_iff.mp ⟨shaped, shapedEq, rfl⟩
  rw [mappedTarget, rankEq] at targetEq
  have isBase := isBase_baseTarget node.chainEnd
  have noBracket : '[' ∉ (typeText (baseTarget node.chainEnd)).toList := by
    have classEq : shaped.target.className? = (baseTarget node.chainEnd).className? := by
      rw [targetEq, Target.className?_iterate_array]
    exact bracket_not_mem_of_isBase isBase fun name isName =>
      unbracketed name (classEq.trans isName)
  simp only [ofShape, isArray] at shapedEq
  obtain ⟨element, -, fits, rfl⟩ := ofArray_eq_ok_iff.mp shapedEq
  have elementEq : element = bare (Target.arrayOf^[inner] (baseTarget node.chainEnd)) := by
    rw [Function.iterate_succ_apply'] at targetEq
    exact Target.array.inj targetEq
  obtain ⟨origins, made⟩ := startingLiterals_made fits
  rw [elementEq] at made
  refine ⟨inner, baseTarget node.chainEnd, _, isBase.isArray_eq, targetEq, ?_, rfl, ?_⟩
  · exact (congrArg typeText targetEq).trans (typeText_iterate_array _ _)
  · have spelled := spelledArray_literalText isBase noBracket inner made
    rw [← elementEq] at spelled
    rwa [← targetEq] at spelled

/-- Tables of texts, of which the first has a text with brackets in it and the second is empty. -/
def tablesOfTexts : Node :=
  { Node.empty with
    typeKeyword := some (.single .array)
    items := some { Node.empty with
      typeKeyword := some (.single .array)
      items := some { Node.empty with
        typeKeyword := some (.single .array)
        items := some { Node.empty with typeKeyword := some (.single .string) } } }
    defaultKeyword := some (.array [.array [.array [.string "a[0]", .string "b"]], .array []]) }

/-- The expression for the default of the tables. -/
def tablesText : String :=
  "new string[][][] \x7b new string[][] \x7b new string[] \x7b \"a[0]\", \"b\" \x7d \x7d, " ++
    "new string[0][] \x7d"

theorem ofProperty_tablesOfTexts_spelled :
    ∃ items descriptor,
      tablesOfTexts.shape = .array items ∧
        ofProperty "tables" tablesOfTexts false Pointer.root = .ok descriptor ∧
        (∀ name, descriptor.target.className? = some name → '[' ∉ name.toList) ∧
        ∃ inner base literals,
          base.isArray = false ∧ descriptor.target = Target.arrayOf^[inner + 1] base ∧
            SpelledArray base inner literals tablesText := by
  have viewEq :
      (ofProperty "tables" tablesOfTexts false Pointer.root).toOption.map
          (fun descriptor => (descriptor.target.className?,
            descriptor.initial.map (literalText descriptor.target))) =
        some (none, some tablesText) := by
    decide +kernel
  obtain ⟨descriptor, mapped, seen⟩ := Steps.toOption_map_eq_some_iff.mp viewEq
  obtain ⟨noClass, textEq⟩ := Prod.mk.inj seen
  have isArray : tablesOfTexts.shape = .array tablesOfTexts.items := rfl
  have unbracketed : ∀ name, descriptor.target.className? = some name → '[' ∉ name.toList := by
    intro name named
    rw [noClass] at named
    nomatch named
  obtain ⟨inner, base, literals, notArray, iterateEq, -, initialEq, spelled⟩ :=
    ofProperty_array_spelled isArray mapped unbracketed
  rw [initialEq, Option.map_some, Option.some.injEq] at textEq
  rw [textEq] at spelled
  exact ⟨_, descriptor, isArray, mapped, unbracketed, inner, base, literals, notArray, iterateEq,
    spelled⟩

end Descriptor
end SchemaClasses
