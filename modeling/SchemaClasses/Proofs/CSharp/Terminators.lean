import SchemaClasses.Proofs.CSharp.OneLine

/-!
# Line terminators of the output

If the names in a schema are on one line each, then the line terminators in the source of its class
are the line feeds that end its lines, and there are others exactly if a description or a default
has them.
-/

namespace SchemaClasses

namespace CSharp

theorem filter_eq_nil_iff_unbroken {line : String} :
    line.toList.filter (· ∈ Text.terminators) = [] ↔ Unbroken line := by
  simp [Unbroken, List.filter_eq_nil_iff]

theorem filter_join_cons (line : String) (lines : List String) :
    (String.join ((line :: lines).map (· ++ "\n"))).toList.filter (· ∈ Text.terminators) =
      line.toList.filter (· ∈ Text.terminators) ++
        '\n' :: (String.join (lines.map (· ++ "\n"))).toList.filter (· ∈ Text.terminators) := by
  have feed : "\n".toList.filter (· ∈ Text.terminators) = ['\n'] := by decide
  rw [List.map_cons, String.join_cons, String.toList_append, String.toList_append,
    List.filter_append, List.filter_append, feed, List.append_assoc, List.singleton_append]

theorem length_le_filter_join (lines : List String) :
    lines.length ≤
      ((String.join (lines.map (· ++ "\n"))).toList.filter (· ∈ Text.terminators)).length := by
  induction lines with
  | nil => exact Nat.zero_le _
  | cons line rest ih =>
      rw [filter_join_cons, List.length_append, List.length_cons, List.length_cons]
      omega

/-- The terminators of joined lines are the line feeds between them if no line has one of its
own. -/
theorem filter_join_iff {lines : List String} :
    (String.join (lines.map (· ++ "\n"))).toList.filter (· ∈ Text.terminators) =
        List.replicate lines.length '\n' ↔
      ∀ line ∈ lines, Unbroken line := by
  induction lines with
  | nil => simp
  | cons line rest ih =>
      rw [filter_join_cons, List.forall_mem_cons, ← ih, ← filter_eq_nil_iff_unbroken,
        List.length_cons, List.replicate_succ]
      constructor
      · intro filterEq
        have lengthEq := congrArg List.length filterEq
        have atLeast := length_le_filter_join rest
        rw [List.length_append, List.length_cons, List.length_cons, List.length_replicate]
          at lengthEq
        have noneOwn : line.toList.filter (· ∈ Text.terminators) = [] :=
          List.length_eq_zero_iff.mp (by omega)
        rw [noneOwn, List.nil_append] at filterEq
        exact ⟨noneOwn, List.tail_eq_of_cons_eq filterEq⟩
      · rintro ⟨noneOwn, restEq⟩
        rw [noneOwn, restEq, List.nil_append]

theorem mem_source_of_mem_line {classDef : ClassDef} {line : String} {c : Char}
    (member : line ∈ classLines classDef) (inLine : c ∈ line.toList) :
    c ∈ (source classDef).toList := by
  rw [source, pieces, String.toList_join, List.flatMap_map, List.mem_flatMap]
  refine ⟨line, member, ?_⟩
  rw [String.toList_append]
  exact List.mem_append_left _ inLine

end CSharp

open Schema

/-- The texts of a document from which names are made are on one line each. -/
structure ClassDef.OneLineNames (namespaceName fileName : String) (document : Node) : Prop where
  namespaceName : Unbroken namespaceName
  fileName : Unbroken fileName
  keys : ∀ entry ∈ document.properties, Unbroken entry.1
  titles : document.TitlesUnbroken

/-- The other texts of a document bring no line terminators into its class. -/
structure Schema.Node.OneLineTexts (document : Node) : Prop where
  description : ∀ text, document.description = some text → ¬Text.BreaksInside text.toList
  descriptions : ∀ entry ∈ document.properties, ∀ text, entry.2.description = some text →
    ¬Text.BreaksInside text.toList
  defaults : ∀ entry ∈ document.properties, ∀ value, entry.2.initialValue? = some value →
    ∀ text, value.HasText text → ∀ c ∈ text.toList, c ∉ CSharp.unescapedTerminators

namespace ClassDef

variable {namespaceName fileName : String} {document : Node} {classDef : ClassDef}

theorem unbroken_nameOf (titles : document.TitlesUnbroken) :
    Unbroken (nameOf fileName document) := by
  intro c member isTerminator
  obtain ⟨title, titleEq, inTitle⟩ :=
    (mem_nameOf_iff (List.mem_cons_of_mem _ isTerminator)).mp member
  exact titles.unbroken_trimmedTitle titleEq c inTitle isTerminator

/-- The lines of a property are one line each if its description and its default let them. -/
theorem Declares.unbroken_iff {required : List String} {entry : String × Node} {property : Property}
    (declared : Declares fileName required entry property) (keyed : Unbroken entry.1)
    (titles : entry.2.TitlesUnbroken) :
    (∀ line ∈ CSharp.propertyLines property, Unbroken line) ↔
      (∀ text, entry.2.description = some text → ¬Text.BreaksInside text.toList) ∧
        ∀ value, entry.2.initialValue? = some value →
          ∀ text, value.HasText text → ∀ c ∈ text.toList, c ∉ CSharp.unescapedTerminators := by
  obtain ⟨descriptor, mapped, propertyEq⟩ := propertyOf_eq_ok_iff.mp declared
  obtain ⟨-, shaped, shapedEq, descriptorEq⟩ := Descriptor.ofProperty_eq_ok_iff.mp mapped
  have shapedTyped := titles.unbroken_ofShape shapedEq
  have named : Unbroken property.name := by
    rw [propertyEq]
    exact unbroken_publicName entry.1
  have backing : Unbroken property.backingName := by
    rw [propertyEq]
    exact unbroken_backingName (unbroken_publicName entry.1)
  have targetEq : property.descriptor.target = shaped.target := by
    rw [propertyEq, descriptorEq]
    rfl
  have initialEq : property.descriptor.initial = shaped.initial := by
    rw [propertyEq, descriptorEq]
    rfl
  have typed : Unbroken (CSharp.typeText property.descriptor.target) := by
    rw [targetEq]
    exact shapedTyped
  have docEq : property.doc = entry.2.description.bind Text.trimmed? := by
    rw [propertyEq]
  have fits : property.descriptor.FitsTarget property.name property.backingName := by
    rw [propertyEq]
    exact (Descriptor.fitsTarget_of_ofProperty mapped).1
  have hints : ∀ hint ∈ property.descriptor.attributes, Unbroken (CSharp.attributeText hint) := by
    rw [propertyEq]
    exact CSharp.unbroken_attributes keyed mapped
  rw [CSharp.unbroken_propertyLines_iff named backing typed hints fits, docEq,
    CSharp.unbroken_optionalSummary_iff (by decide), initialEq, targetEq,
    CSharp.unbroken_initial_iff shapedEq shapedTyped]
  simp only [CSharp.unbroken_stringLiteral]

/-- Every line terminator in the source of a class is the end of one of its lines exactly if none is
inside a line of a description and no default has one that string literals do not escape. -/
theorem ofDocument_terminators_iff
    (made : ofDocument namespaceName fileName document = .ok classDef)
    (names : OneLineNames namespaceName fileName document) :
    (CSharp.source classDef).toList.filter (· ∈ Text.terminators) =
        List.replicate (CSharp.classLines classDef).length '\n' ↔
      document.OneLineTexts := by
  obtain ⟨-, declared, -, classEq⟩ := ofDocument_eq_ok_iff.mp made
  have named : Unbroken classDef.name := by
    rw [classEq]
    exact unbroken_nameOf names.titles
  have spaced : Unbroken classDef.namespaceName := by
    rw [classEq]
    exact names.namespaceName
  have sourced : Unbroken classDef.sourceFile := by
    rw [classEq]
    exact names.fileName
  have descriptionEq : classDef.description = document.description.bind Text.trimmed? :=
    congrArg description classEq
  have entryTitles : ∀ entry ∈ document.properties, entry.2.TitlesUnbroken :=
    fun entry member inner within => names.titles inner (.property member within)
  rw [CSharp.source, CSharp.pieces, CSharp.filter_join_iff,
    CSharp.unbroken_classLines_iff named spaced sourced, descriptionEq,
    CSharp.unbroken_optionalSummary_iff (by decide)]
  constructor
  · rintro ⟨description, properties⟩
    have ofEntry : ∀ entry ∈ document.properties, ∃ property ∈ classDef.properties,
        Declares fileName document.required entry property :=
      fun entry member => exists_right_of_mem declared member
    refine ⟨description, fun entry member => ?_, fun entry member => ?_⟩
    · obtain ⟨property, propertyMem, entryDeclared⟩ := ofEntry entry member
      exact ((entryDeclared.unbroken_iff (names.keys entry member) (entryTitles entry member)).mp
        (properties property propertyMem)).1
    · obtain ⟨property, propertyMem, entryDeclared⟩ := ofEntry entry member
      exact ((entryDeclared.unbroken_iff (names.keys entry member) (entryTitles entry member)).mp
        (properties property propertyMem)).2
  · intro texts
    refine ⟨texts.description, fun property propertyMem => ?_⟩
    obtain ⟨entry, member, entryDeclared⟩ := exists_left_of_mem declared propertyMem
    exact (entryDeclared.unbroken_iff (names.keys entry member) (entryTitles entry member)).mpr
      ⟨texts.descriptions entry member, texts.defaults entry member⟩

/-- A document with a description, and with one property that has a default. -/
def noteDocument (description default : String) : Node :=
  { Node.empty with
    title := some "Note"
    description := some description
    typeKeyword := some (.single .object)
    properties := [("text", { Node.empty with
      typeKeyword := some (.single .string)
      defaultKeyword := some (.string default) })] }

theorem oneLineNames_noteDocument (description default : String) :
    OneLineNames defaultNamespace "note.schema.json" (noteDocument description default) where
  namespaceName := by decide
  fileName := by decide
  keys entry member := by
    have keyed : Unbroken "text" := by decide
    obtain rfl := List.mem_singleton.mp member
    exact keyed
  titles inner within title titleEq := by
    cases within with
    | self =>
        have titled : Unbroken "Note" := by decide
        obtain rfl := Option.some.inj titleEq
        exact titled
    | property member within =>
        obtain rfl := List.mem_singleton.mp member
        cases within with
        | self => nomatch titleEq
        | property member => nomatch member
        | items itemsEq => nomatch itemsEq
        | additional additionalEq => nomatch additionalEq
        | part member => nomatch member
        | branch member => nomatch member
    | items itemsEq => nomatch itemsEq
    | additional additionalEq => nomatch additionalEq
    | part member => nomatch member
    | branch member => nomatch member

theorem terminators_noteDocument :
    ∃ classDef,
      ofDocument defaultNamespace "note.schema.json" (noteDocument "One\r\ntwo\r" "a\rb\n") =
          .ok classDef ∧
        (CSharp.source classDef).toList.filter (· ∈ Text.terminators) =
          List.replicate (CSharp.classLines classDef).length '\n' := by
  have named :
      (ofDocument defaultNamespace "note.schema.json"
        (noteDocument "One\r\ntwo\r" "a\rb\n")).toOption.map ClassDef.name = some "Note" := by
    decide +kernel
  have texts : (noteDocument "One\r\ntwo\r" "a\rb\n").OneLineTexts := by
    constructor
    · intro text textEq
      obtain rfl := Option.some.inj textEq
      decide
    · intro entry member text textEq
      obtain rfl := List.mem_singleton.mp member
      nomatch textEq
    · intro entry member value valueEq text has
      obtain rfl := List.mem_singleton.mp member
      obtain rfl : Json.Value.string "a\rb\n" = value := Option.some.inj valueEq
      obtain rfl := CSharp.hasText_string_iff.mp has
      decide
  obtain ⟨classDef, made, -⟩ := Steps.toOption_map_eq_some_iff.mp named
  exact ⟨classDef, made,
    (ofDocument_terminators_iff made (oneLineNames_noteDocument _ _)).mpr texts⟩

/-- A carriage return in a description and a line separator in a default stand in the source as they
are, although they end lines there. -/
theorem noteDocument_breaks_lines :
    OneLineNames defaultNamespace "note.schema.json" (noteDocument "One\rtwo" "a\u2028b") ∧
      ∃ classDef,
        ofDocument defaultNamespace "note.schema.json" (noteDocument "One\rtwo" "a\u2028b") =
            .ok classDef ∧
          '\r' ∈ (CSharp.source classDef).toList ∧ '\u2028' ∈ (CSharp.source classDef).toList := by
  refine ⟨oneLineNames_noteDocument _ _, ?_⟩
  have stands :
      (ofDocument defaultNamespace "note.schema.json"
        (noteDocument "One\rtwo" "a\u2028b")).toOption.map
          (fun classDef => ['\r', '\u2028'].all fun c =>
            (CSharp.classLines classDef).any fun line => line.toList.contains c) =
        some true := by
    decide +kernel
  obtain ⟨classDef, made, each⟩ := Steps.toOption_map_eq_some_iff.mp stands
  have inSource : ∀ c ∈ ['\r', '\u2028'], c ∈ (CSharp.source classDef).toList := by
    intro c member
    obtain ⟨line, lineMem, inLine⟩ := List.any_eq_true.mp (List.all_eq_true.mp each c member)
    exact CSharp.mem_source_of_mem_line lineMem (List.contains_iff_mem.mp inLine)
  exact ⟨classDef, made, inSource '\r' (by decide), inSource '\u2028' (by decide)⟩

end ClassDef
end SchemaClasses
