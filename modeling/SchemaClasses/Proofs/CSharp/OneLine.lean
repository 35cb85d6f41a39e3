import SchemaClasses.Proofs.Classes.MemberNames
import SchemaClasses.Proofs.CSharp.Literals
import SchemaClasses.Proofs.Text.Lines

/-!
# Source lines

Every line that the source of a class is made of stays one line for a reader of C#, unless a
description has a line terminator inside a line of its own, or a default has one that string
literals do not escape.
-/

namespace SchemaClasses
namespace CSharp

variable {margin text : String} {property : Property} {predicate : Predicate}
  {classDef : ClassDef}

theorem unbroken_summaryLines_iff (indented : Unbroken margin) :
    (∀ line ∈ summaryLines margin text, Unbroken line) ↔ ¬Text.BreaksLine text.toList := by
  have opening : Unbroken (margin ++ "/// <summary>") := unbroken_append.mpr ⟨indented, by decide⟩
  have closing : ∀ line ∈ [margin ++ "/// </summary>"], Unbroken line := by
    intro line member
    obtain rfl := List.mem_singleton.mp member
    exact unbroken_append.mpr ⟨indented, by decide⟩
  have prefixed : Unbroken (margin ++ "/// ") := unbroken_append.mpr ⟨indented, by decide⟩
  have textLine : ∀ line,
      Unbroken (margin ++ "/// " ++ String.ofList (entities (Text.trimEnd line))) ↔
        ∀ c ∈ Text.trimEnd line, c ∉ Text.terminators := fun line => by
    rw [unbroken_append, and_iff_right prefixed, unbroken_entities]
  rw [summaryLines, List.forall_mem_append, and_iff_left closing, List.forall_mem_cons,
    and_iff_right opening, List.forall_mem_map, ← Text.exists_terminator_lines_iff]
  simp only [textLine, not_exists, not_and]

theorem not_breaksLine_of_unbroken (unbroken : Unbroken text) : ¬Text.BreaksLine text.toList := by
  rw [Text.breaksLine_iff]
  rintro ⟨before, c, after, textEq, isTerminator, -⟩
  exact unbroken c (by simp [textEq]) isTerminator

/-- The comment for a description is on lines of its own if the description breaks none. -/
theorem unbroken_optionalSummary_iff (indented : Unbroken margin) (description : Option String) :
    (∀ line ∈ optionalSummary margin (description.bind Text.trimmed?), Unbroken line) ↔
      ∀ text, description = some text → ¬Text.BreaksInside text.toList := by
  cases description with
  | none =>
      exact iff_of_true (fun line noLine => nomatch noLine) (fun text noText => nomatch noText)
  | some given =>
      simp only [Option.bind_some, Option.some.injEq, forall_eq', ← Text.breaksLine_trim]
      cases trimmed : Text.trimmed? given with
      | none =>
          have isBlank : Text.trim given.toList = [] := by
            unfold Text.trimmed? at trimmed
            split at trimmed
            · assumption
            · nomatch trimmed
          rw [isBlank]
          exact iff_of_true (fun line noLine => nomatch noLine) (fun never => never)
      | some kept =>
          rw [← (Text.trimmed?_eq_some_iff.mp trimmed).1]
          exact unbroken_summaryLines_iff indented

theorem unbroken_fieldLine_iff (backing : Unbroken property.backingName)
    (typed : Unbroken (typeText property.descriptor.target)) :
    Unbroken (fieldLine property) ↔ ∀ literal, property.descriptor.initial = some literal →
      Unbroken (literalText property.descriptor.target literal) := by
  have declared : Unbroken (s!"{memberIndent}private {typeText property.descriptor.target} " ++
      property.backingName) := by
    simp only [toString_text, unbroken_append]
    exact ⟨⟨⟨⟨by decide, by decide⟩, typed⟩, by decide⟩, backing⟩
  unfold fieldLine
  cases initialEq : property.descriptor.initial with
  | none =>
      refine iff_of_true ?_ (fun literal absent => by cases absent)
      exact unbroken_append.mpr ⟨declared, by decide⟩
  | some literal =>
      simp only [Option.some.injEq, forall_eq']
      rw [unbroken_append, unbroken_append, unbroken_append, and_assoc, and_assoc,
        and_iff_right declared, and_iff_right (by decide)]
      exact and_iff_left (by decide)

theorem unbroken_predicateLines (named : Unbroken predicate.name) {target : Target}
    (condition : Unbroken (conditionText target predicate.condition)) :
    ∀ line ∈ predicateLines target predicate, Unbroken line := by
  simp +decide only [predicateLines, List.forall_mem_cons, toString_text, unbroken_append, named,
    condition, and_self]

theorem unbroken_conditionText {target : Target} {field : String} {defaults : List Literal}
    (backing : Unbroken field) (starting : Unbroken (literalText target (.sequence defaults))) :
    Unbroken (conditionText target (.sequenceDiffers field defaults)) := by
  rw [literalText_sequence] at starting
  simp +decide only [conditionText, toString_text, unbroken_append, backing, starting, and_self]

/-- The predicates of a member are on lines of their own if the literal it starts with is on one. -/
theorem unbroken_predicates (named : Unbroken property.name)
    (backing : Unbroken property.backingName)
    (fits : property.descriptor.FitsTarget property.name property.backingName)
    (starting : ∀ literal, property.descriptor.initial = some literal →
      Unbroken (literalText property.descriptor.target literal)) :
    ∀ predicate ∈ property.descriptor.predicates,
      ∀ line ∈ predicateLines property.descriptor.target predicate, Unbroken line := by
  intro predicate member
  have predicateNamed : Unbroken predicate.name := by
    rw [fits.name_of_mem_predicates member]
    exact unbroken_predicateName named
  refine unbroken_predicateLines predicateNamed ?_
  unfold Descriptor.FitsTarget at fits
  split at fits
  · obtain ⟨defaults, initialEq, predicatesEq⟩ := fits
    rw [predicatesEq] at member
    obtain rfl := List.mem_singleton.mp member
    exact unbroken_conditionText backing (starting _ initialEq)
  · rw [fits.2] at member
    obtain rfl := List.mem_singleton.mp member
    simp +decide only [conditionText, toString_text, unbroken_append, backing, and_self]
  · rw [fits.1] at member
    cases member
  · rw [fits.1] at member
    cases member

theorem unbroken_attributeText_wireName {key : String} (keyed : Unbroken key) :
    Unbroken (attributeText (.wireName key)) := by
  have opening : Unbroken "[Newtonsoft.Json.JsonPropertyAttribute(" := by decide
  have closing : Unbroken ")]" := by decide
  exact unbroken_append.mpr
    ⟨unbroken_append.mpr ⟨opening, unbroken_stringLiteral_of_unbroken keyed⟩, closing⟩

theorem unbroken_attributes {key : String} {node : Schema.Node} {requiredByParent : Bool}
    {pointer : Pointer} {descriptor : Descriptor} (keyed : Unbroken key)
    (mapped : Descriptor.ofProperty key node requiredByParent pointer = .ok descriptor) :
    ∀ hint ∈ descriptor.attributes, Unbroken (attributeText hint) := by
  intro hint member
  rcases Descriptor.eq_or_eq_of_mem_attributes mapped member with rfl | rfl
  · decide
  · exact unbroken_attributeText_wireName keyed

theorem unbroken_propertyLines_iff (named : Unbroken property.name)
    (backing : Unbroken property.backingName)
    (typed : Unbroken (typeText property.descriptor.target))
    (hints : ∀ hint ∈ property.descriptor.attributes, Unbroken (attributeText hint))
    (fits : property.descriptor.FitsTarget property.name property.backingName) :
    (∀ line ∈ propertyLines property, Unbroken line) ↔
      (∀ line ∈ optionalSummary memberIndent property.doc, Unbroken line) ∧
        ∀ literal, property.descriptor.initial = some literal →
          Unbroken (literalText property.descriptor.target literal) := by
  rw [← unbroken_fieldLine_iff backing typed]
  simp only [propertyLines, List.forall_mem_append, List.forall_mem_map]
  constructor
  · rintro ⟨⟨⟨⟨⟨-, field⟩, doc⟩, -⟩, -⟩, -⟩
    exact ⟨doc, field _ List.mem_cons_self⟩
  · rintro ⟨doc, field⟩
    refine ⟨⟨⟨⟨⟨⟨by decide, ?_⟩, ?_⟩, doc⟩, ?_⟩, ?_⟩, ?_⟩
    · refine (unbroken_summaryLines_iff (by decide)).mpr (not_breaksLine_of_unbroken ?_)
      simp +decide only [toString_text, unbroken_append, named, and_self]
    · exact List.forall_mem_cons.mpr ⟨field, by decide⟩
    · exact fun hint member => unbroken_append.mpr ⟨by decide, hints hint member⟩
    · simp +decide only [List.forall_mem_cons, toString_text, unbroken_append, named, backing,
        typed, and_self]
    · rw [List.forall_mem_flatMap]
      exact unbroken_predicates named backing fits ((unbroken_fieldLine_iff backing typed).mp field)

theorem unbroken_classLines_iff (named : Unbroken classDef.name)
    (spaced : Unbroken classDef.namespaceName) (sourced : Unbroken classDef.sourceFile) :
    (∀ line ∈ classLines classDef, Unbroken line) ↔
      (∀ line ∈ optionalSummary indent classDef.description, Unbroken line) ∧
        ∀ property ∈ classDef.properties, ∀ line ∈ propertyLines property, Unbroken line := by
  simp only [classLines, List.forall_mem_append, List.forall_mem_flatMap]
  constructor
  · rintro ⟨⟨⟨⟨-, description⟩, -⟩, properties⟩, -⟩
    exact ⟨description, properties⟩
  · rintro ⟨description, properties⟩
    refine ⟨⟨⟨⟨?_, description⟩, ?_⟩, properties⟩, by decide⟩
    · simp +decide only [List.forall_mem_cons, toString_text, unbroken_append, spaced, sourced,
        and_self]
    · simp +decide only [List.forall_mem_cons, toString_text, unbroken_append, named, and_self]

end CSharp
end SchemaClasses
