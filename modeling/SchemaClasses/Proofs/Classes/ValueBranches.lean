import SchemaClasses.Proofs.Classes.AlikeDocuments
import SchemaClasses.Proofs.Run.SingleDocument
import SchemaClasses.Proofs.Schema.ValueBranches

/-!
# Classes and branches for one value

The branches of an enumeration may list their values or give them by themselves: the generated class
is the same.  Only a null makes a difference, since a branch that gives it by itself counts as
empty.
-/

namespace SchemaClasses

open Schema Json

namespace Schema.Reworded

variable {isBranch : Bool} {first second : Node}

theorem memberAlike (reworded : Reworded isBranch first second) : MemberAlike first second := by
  have typed := reworded.typedAlike
  obtain ⟨value, rfl, rfl⟩ | related := reworded.value_or_related
  · exact ⟨typed, rfl, rfl, rfl⟩
  · have own := related.own
    refine ⟨typed, ?_, own.required, own.description⟩
    rw [Node.initialValue?, Node.initialValue?, own.defaultKeyword]

/-- A class does not depend on how branches give their values. -/
theorem documentAlike (reworded : Reworded isBranch first second) : DocumentAlike first second := by
  obtain ⟨value, rfl, rfl⟩ | related := reworded.value_or_related
  · exact ⟨.same _, rfl, rfl, rfl, rfl, .nil, rfl⟩
  · have own := related.own
    obtain ⟨properties, -, -, parts, -⟩ := related.nodes
    have keys : first.properties.map Prod.fst = second.properties.map Prod.fst :=
      (map_eq_map_of_related properties fun _ _ same => same.key_eq.symm).symm
    have members : List.Forall₂ MemberAlike (first.properties.map Prod.snd)
        (second.properties.map Prod.snd) :=
      List.forall₂_map_left_iff.mpr (List.forall₂_map_right_iff.mpr
        (properties.imp fun _ _ same => same.holds.memberAlike))
    have references : first.allOf.map Node.reference = second.allOf.map Node.reference :=
      (map_eq_map_of_related parts fun _ _ part => part.typedAlike.reference.symm).symm
    exact ⟨own.typeKeyword ▸ .same _, own.title, own.description, own.required, keys, members,
      references⟩

end Schema.Reworded

/-- The documents of two texts are the same, wherever their parts stand, up to replaced objects. -/
def Schema.SameUpTo (replaced : Replacement) (first second : String) : Prop :=
  replaced.InSchema false depthLimit (lay first).1.unplaced (lay second).1.unplaced

/-- What becomes of a text when branches that list one value are replaced by branches that give the
value by itself. -/
structure BranchesExchanged (first second : String) : Prop where
  /-- If the text with the lists is read, the other text gives the same output. -/
  loaded : SameUpTo (valueBranch fun _ tree => isNull tree = false) first second →
    ∀ node, Node.ofDocument first = .ok node → ∀ namespaceName fileName sink,
      generateTo namespaceName fileName first sink = generateTo namespaceName fileName second sink
  /-- If the values can be read inside their lists, each text comes to what the other one comes
  to. -/
  readable :
    SameUpTo (valueBranch fun depth tree => isNull tree = false ∧ ListReadable depth tree)
        first second →
      ∀ namespaceName fileName sink, SameOutcome fileName first second
        (generateTo namespaceName fileName first sink)
        (generateTo namespaceName fileName second sink)
  /-- A null that is given by itself can as well be left out. -/
  null : SameUpTo nullGiven first second → ∀ namespaceName fileName sink,
    SameOutcome fileName first second (generateTo namespaceName fileName first sink)
      (generateTo namespaceName fileName second sink)

/-- A branch that lists one value and a branch that gives the value by itself stand for each other
everywhere in a document, unless the value is null. -/
theorem branchesExchanged (first second : String) : BranchesExchanged first second where
  loaded := by
    intro sameUpTo node read namespaceName fileName sink
    have congruence :
        (valueBranch fun _ tree => isNull tree = false).Congruence True Reworded :=
      congruence_valueBranch (fun _ _ notNull => notNull) fun _ _ _ => .inr trivial
    have reads := congruence.ofDocument_inSchema sameUpTo
    rw [read] at reads
    obtain ⟨other, otherEq, reworded⟩ := reads.exists_of_ok
    exact generateTo_eq_of_alike read otherEq reworded.documentAlike namespaceName fileName sink
  readable := by
    intro sameUpTo
    have congruence : (valueBranch fun depth tree =>
        isNull tree = false ∧ ListReadable depth tree).Congruence False Reworded :=
      congruence_valueBranch (fun _ _ holds => holds.1) fun _ _ holds => .inl holds.2
    have reads := congruence.ofDocument_inSchema sameUpTo
    exact sameOutcome_of_readsAs (reads.mono fun _ _ => Reworded.documentAlike)
  null := by
    intro sameUpTo
    have reads := congruence_nullGiven.ofDocument_inSchema sameUpTo
    exact sameOutcome_of_readsAs (reads.mono fun document _ same => same ▸ .refl document)

/-- The tree of a document with one property, whose values are that of a branch and all integers. -/
def enumerationTree (branch : Members) : Tree :=
  .object 0 (.ofEntries [("type", .string (.ok "object") 0),
    ("properties", .object 0 (.ofEntries [("m", .object 0 (.ofEntries [("anyOf",
      .array 0 (.element 0 (.object 0 branch) 0 (.element 0
        (.object 0 (.ofEntries [("type", .string (.ok "integer") 0)])) 0 .closed)))]))]))])

/-- The text of such a document. -/
def enumerationText (branch : String) : String :=
  "\x7b\"type\":\"object\",\"properties\":\x7b\"m\":\x7b\"anyOf\":[" ++ branch ++
    ",\x7b\"type\":\"integer\"\x7d]\x7d\x7d\x7d"

/-- Such a document with a branch that lists a text. -/
def listedTextSchema : String := enumerationText "\x7b\"enum\":[\"a\"]\x7d"

/-- Such a document with a branch that gives a text by itself. -/
def givenTextSchema : String := enumerationText "\x7b\"const\":\"a\"\x7d"

/-- Such a document with a branch that lists null. -/
def listedNullSchema : String := enumerationText "\x7b\"enum\":[null]\x7d"

/-- Such a document with a branch that gives null by itself. -/
def givenNullSchema : String := enumerationText "\x7b\"const\":null\x7d"

theorem sameUpTo_of_enumerationTree {replaced : Replacement} {firstText secondText : String}
    {first second : Members} (firstEq : (lay firstText).1.unplaced = enumerationTree first)
    (secondEq : (lay secondText).1.unplaced = enumerationTree second)
    (pair : replaced.objects true 123 first second) : SameUpTo replaced firstText secondText := by
  have branches : replaced.InElements true 124
      (.element 0 (.object 0 first) 0 (.element 0 (.object 0
        (.ofEntries [("type", .string (.ok "integer") 0)])) 0 .closed))
      (.element 0 (.object 0 second) 0 (.element 0 (.object 0
        (.ofEntries [("type", .string (.ok "integer") 0)])) 0 .closed)) :=
    .element 0 0 (.here 0 pair) (.element 0 0 (.same _ _ _) (.closed _ _))
  rw [SameUpTo, firstEq, secondEq]
  exact .object 0 (.unchanged _ _ _ _ (.changed 0 0 rfl (.properties 0 (.member _ 0 0
    (.object 0 (.changed 0 0 rfl (.anyOf 0 branches) (.closed _))) (.closed _))) (.closed _)))

/-- A branch that lists a text and one that gives it by itself make the same class. -/
theorem branchesExchanged_text :
    SameUpTo (valueBranch fun _ tree => isNull tree = false) listedTextSchema givenTextSchema ∧
      (∃ node, Node.ofDocument listedTextSchema = .ok node) ∧
      (∀ sink, generateTo defaultNamespace "doc.schema.json" listedTextSchema sink =
        generateTo defaultNamespace "doc.schema.json" givenTextSchema sink) ∧
      BranchesExchanged listedTextSchema givenTextSchema := by
  have listedEq : (lay listedTextSchema).1.unplaced =
      enumerationTree (listedMembers (.string (.ok "a") 0)) := by
    decide +kernel
  have givenEq : (lay givenTextSchema).1.unplaced =
      enumerationTree (givenMembers (.string (.ok "a") 0)) := by
    decide +kernel
  have sameUpTo : SameUpTo (valueBranch fun _ tree => isNull tree = false) listedTextSchema
      givenTextSchema :=
    sameUpTo_of_enumerationTree listedEq givenEq ⟨rfl, .string (.ok "a") 0, rfl, rfl, rfl⟩
  have loads : (Node.ofDocument listedTextSchema).toOption.map Node.isObjectTyped = some true := by
    decide +kernel
  obtain ⟨node, read, -⟩ := Steps.toOption_map_eq_some_iff.mp loads
  have exchanged := branchesExchanged listedTextSchema givenTextSchema
  exact ⟨sameUpTo, ⟨node, read⟩, exchanged.loaded sameUpTo node read _ _, exchanged⟩

/-- The number of bytes in the source of a class. -/
def sourceSize (classDef : ClassDef) : Nat :=
  (CSharp.pieces classDef).foldr (fun piece size => piece.utf8ByteSize + size) 0

theorem length_bytes_source (classDef : ClassDef) :
    (Sink.bytes (CSharp.source classDef)).length = sourceSize classDef := by
  have joined : ∀ texts : List String, (String.join texts).utf8ByteSize =
      texts.foldr (fun text size => text.utf8ByteSize + size) 0 := by
    intro texts
    induction texts with
    | nil => rfl
    | cons text rest ih => rw [String.join_cons, String.utf8ByteSize_append, ih, List.foldr_cons]
  exact joined (CSharp.pieces classDef)

/-- With null for the value the branches do not stand for each other: of two documents that differ
in this only, one has a member for integers and the other one a member for any value. -/
theorem not_sameOutcome_null :
    ¬ ∀ first second, SameUpTo (valueBranch fun _ _ => True) first second →
      ∀ namespaceName fileName sink, SameOutcome fileName first second
        (generateTo namespaceName fileName first sink)
        (generateTo namespaceName fileName second sink) := by
  intro alwaysSame
  have listedEq : (lay listedNullSchema).1.unplaced =
      enumerationTree (listedMembers (.null 0)) := by
    decide +kernel
  have givenEq : (lay givenNullSchema).1.unplaced =
      enumerationTree (givenMembers (.null 0)) := by
    decide +kernel
  have sameUpTo : SameUpTo (valueBranch fun _ _ => True) listedNullSchema givenNullSchema :=
    sameUpTo_of_enumerationTree listedEq givenEq ⟨rfl, .null 0, trivial, rfl, rfl⟩
  have listedSize : (ClassDef.ofText defaultNamespace "doc.schema.json"
      listedNullSchema).toOption.map sourceSize = some 731 := by
    decide +kernel
  have givenSize : (ClassDef.ofText defaultNamespace "doc.schema.json"
      givenNullSchema).toOption.map sourceSize = some 737 := by
    decide +kernel
  obtain ⟨listed, listedMade, listedSize⟩ := Steps.toOption_map_eq_some_iff.mp listedSize
  obtain ⟨given, givenMade, givenSize⟩ := Steps.toOption_map_eq_some_iff.mp givenSize
  have same := alwaysSame _ _ sameUpTo defaultNamespace "doc.schema.json" (.empty none)
  rw [generateTo_unlimited_of_ofText listedMade, generateTo_unlimited_of_ofText givenMade] at same
  have bytesEq := congrArg (fun outcome => outcome.2.taken.toList.length) (same.eq_of_ok rfl)
  simp only [length_bytes_source, listedSize, givenSize] at bytesEq
  nomatch bytesEq

end SchemaClasses
