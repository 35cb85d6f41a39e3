import SchemaClasses.Generation
import SchemaClasses.Proofs.Json.Layout
import SchemaClasses.Proofs.Schema.WholeValues

/-!
# Documents and the text behind them

A document is read from the start of a text.  What stands behind it is not looked at, while a reader
of whole texts refuses anything but spaces there.
-/

namespace SchemaClasses

open Json

theorem Json.rest_skipSpaces_eq_nil_iff {cursor : Cursor} :
    cursor.skipSpaces.rest = [] ↔ ∀ c ∈ cursor.rest, Cursor.isSpace c = true := by
  obtain ⟨text, offset⟩ := cursor
  unfold Cursor.skipSpaces
  simp only
  induction text generalizing offset with
  | nil => simp [Cursor.afterSpaces]
  | cons c text ih =>
      rw [Cursor.afterSpaces, List.forall_mem_cons]
      split
      · next isSpace => rw [ih, and_iff_right isSpace]
      · next notSpace => simp [notSpace]

namespace Schema

variable {text document rest : String} {node : Node} {tree : Tree} {next : Cursor} {depth : Nat}

theorem isNested_of_readNode (read : readNode depth tree = .ok node) : tree.isNested = true := by
  cases tree with
  | array start elements => rfl
  | object start members => rfl
  | _ => nomatch read

namespace Node

/-- A document is read from an array or an object that ends in the text. -/
theorem exists_lay_of_ofDocument (read : ofDocument text = .ok node) :
    ∃ tree next, lay text = (tree, .ok next) ∧ tree.isNested = true ∧
      readNode depthLimit tree = .ok node := by
  obtain ⟨next, laid⟩ := exists_next_of_lay (readNode_readsWhole read)
  exact ⟨(lay text).1, next, laid, isNested_of_readNode read, read⟩

theorem ofDocument_of_lay {result : Except Breach Cursor} (laid : lay text = (tree, result)) :
    ofDocument text = readNode depthLimit tree := by
  rw [ofDocument, laid]

theorem ofText_of_lay (laid : lay text = (tree, .ok next)) :
    ofText text = readNode depthLimit tree >>= fun node =>
      match next.skipSpaces with
      | ⟨[], _⟩ => .ok node
      | ⟨_ :: _, offset⟩ => .ofFault ⟨.trailingCharacters, offset + 1⟩ := by
  rw [ofText, readWhole, laid]
  rfl

/-- What the whole text reads as, the document at its start reads as too. -/
theorem ofDocument_of_ofText (read : ofText text = .ok node) : ofDocument text = .ok node := by
  unfold ofText readWhole at read
  cases laid : lay text with
  | mk tree result =>
      rw [laid] at read
      obtain ⟨other, otherRead, finished⟩ := Steps.bind_eq_ok_iff.mp read
      have sameNode : other = node := by
        split at finished
        · exact Steps.pure_eq_ok_iff.mp finished
        · split at finished
          · exact Steps.pure_eq_ok_iff.mp finished
          · nomatch finished
      rw [ofDocument_of_lay laid, otherRead, sameNode]

theorem ofText_error_of_ofDocument {refusal : Refusal}
    (refused : ofDocument text = .error refusal) :
    ofText text = .error refusal := by
  unfold ofText readWhole
  unfold ofDocument at refused
  simp only [refused]
  rfl

/-- The whole text that a document was read from is the start of other texts, in which the same tree
is laid out. -/
theorem exists_lay_append (read : ofText document = .ok node) (rest : String) :
    ∃ tree next, lay (document ++ rest) = (tree, .ok next) ∧
      readNode depthLimit tree = .ok node ∧
      ((∀ c ∈ next.rest, Cursor.isSpace c = true) ↔
        ∀ c ∈ rest.toList, Cursor.isSpace c = true) := by
  obtain ⟨tree, next, laid, nested, nodeRead⟩ :=
    exists_lay_of_ofDocument (ofDocument_of_ofText read)
  obtain ⟨taken, documentEq, again⟩ := exists_taken_of_lay laid nested
  have spaces : ∀ c ∈ next.rest, Cursor.isSpace c = true := by
    rw [ofText_of_lay laid, nodeRead] at read
    refine rest_skipSpaces_eq_nil_iff.mp ?_
    cases skipped : next.skipSpaces with
    | mk left offset =>
        cases left with
        | nil => rfl
        | cons c others =>
            rw [skipped] at read
            nomatch read
  refine ⟨tree, ⟨next.rest ++ rest.toList, next.offset⟩, ?_, nodeRead, ?_⟩
  · have laidAgain := again (String.ofList next.rest ++ rest)
    rw [← String.append_assoc, ← documentEq, String.toList_append, String.toList_ofList]
      at laidAgain
    exact laidAgain
  · rw [List.forall_mem_append, and_iff_right spaces]

/-- A document is read from a text exactly if the text starts with one that reads as a whole. -/
theorem ofDocument_eq_ok_iff :
    ofDocument text = .ok node ↔
      ∃ document rest : String, text = document ++ rest ∧ ofText document = .ok node := by
  constructor
  · intro read
    obtain ⟨tree, next, laid, nested, nodeRead⟩ := exists_lay_of_ofDocument read
    obtain ⟨taken, textEq, again⟩ := exists_taken_of_lay laid nested
    refine ⟨taken, String.ofList next.rest, textEq, ?_⟩
    have laidAlone := again ""
    rw [String.append_empty] at laidAlone
    rw [ofText_of_lay laidAlone, nodeRead]
    rfl
  · rintro ⟨document, rest, rfl, read⟩
    obtain ⟨tree, next, laid, nodeRead, -⟩ := exists_lay_append read rest
    rw [ofDocument_of_lay laid, nodeRead]

/-- Behind what reads as a whole a reader of whole texts accepts spaces and nothing else. -/
theorem ofText_append (read : ofText document = .ok node) (rest : String) :
    ((∀ c ∈ rest.toList, Cursor.isSpace c = true) ∧ ofText (document ++ rest) = .ok node) ∨
      ((∃ c ∈ rest.toList, Cursor.isSpace c = false) ∧ ∃ offset,
        ofText (document ++ rest) = .error ⟨.fault .trailingCharacters, [], some offset⟩) := by
  obtain ⟨tree, next, laid, nodeRead, spaces⟩ := exists_lay_append read rest
  rw [← rest_skipSpaces_eq_nil_iff] at spaces
  rw [ofText_of_lay laid, nodeRead]
  cases skipped : next.skipSpaces with
  | mk left offset =>
      rw [skipped] at spaces
      cases left with
      | nil => exact Or.inl ⟨spaces.mp rfl, rfl⟩
      | cons c others =>
          refine Or.inr ⟨?_, offset + 1, rfl⟩
          by_contra noneOther
          have allSpaces : ∀ c ∈ rest.toList, Cursor.isSpace c = true := by
            intro c member
            by_contra notSpace
            exact noneOther ⟨c, member, by simpa using notSpace⟩
          nomatch spaces.mpr allSpaces

end Node
end Schema

/-- How the document at the start of a text relates to what reads as a whole. -/
structure ReadsStart (path text : String) : Prop where
  accepts : ∀ node, readDocument path text = .ok node ↔
    ∃ document rest : String, text = document ++ rest ∧ Schema.Node.ofText document = .ok node
  /-- A reader of whole texts agrees if spaces stand behind, and refuses anything else there. -/
  behind : ∀ document rest node, text = document ++ rest → Schema.Node.ofText document = .ok node →
    ((∀ c ∈ rest.toList, Cursor.isSpace c = true) ∧ Schema.Node.ofText text = .ok node) ∨
      ((∃ c ∈ rest.toList, Cursor.isSpace c = false) ∧ ∃ offset,
        Schema.Node.ofText text = .error ⟨.fault .trailingCharacters, [], some offset⟩)
  /-- What stands behind never shows in the output. -/
  ignored : ∀ document rest node, text = document ++ rest → Schema.Node.ofText document = .ok node →
    ∀ namespaceName sink, generateTo namespaceName path text sink =
      generateTo namespaceName path document sink
  refuses : ∀ failure, readDocument path text = .error failure → ∃ refusal,
    failure = .load path (.refused text refusal) ∧ Schema.Node.ofText text = .error refusal

theorem readDocument_eq_ok_iff {path text : String} {node : Schema.Node} :
    readDocument path text = .ok node ↔ Schema.Node.ofDocument text = .ok node :=
  Steps.mapError_eq_ok_iff

/-- Reading a document accepts exactly the texts that start with one which reads as a whole, ignores
what stands behind it, and otherwise refuses what a reader of whole texts refuses. -/
theorem readDocument_readsStart (path text : String) : ReadsStart path text where
  accepts node := readDocument_eq_ok_iff.trans Schema.Node.ofDocument_eq_ok_iff
  behind := by
    rintro document rest node rfl read
    exact Schema.Node.ofText_append read rest
  ignored := by
    rintro document rest node rfl read namespaceName sink
    have documentRead : readDocument path document = .ok node :=
      readDocument_eq_ok_iff.mpr (Schema.Node.ofDocument_of_ofText read)
    have textRead : readDocument path (document ++ rest) = .ok node :=
      readDocument_eq_ok_iff.mpr (Schema.Node.ofDocument_eq_ok_iff.mpr ⟨document, rest, rfl, read⟩)
    unfold generateTo ClassDef.ofText
    rw [documentRead, textRead]
  refuses := by
    intro failure failed
    obtain ⟨refusal, refused, rfl⟩ := Steps.mapError_eq_error_iff.mp failed
    exact ⟨refusal, rfl, Schema.Node.ofText_error_of_ofDocument refused⟩

/-- The text of a schema with other characters behind it. -/
def schemaWithTrail : String :=
  "\x7b\"type\":\"object\"\x7d junk"

/-- The refusal of a text that is not read. -/
def refusal? : Reading Schema.Node → Option Refusal
  | .ok _ => none
  | .error refusal => some refusal

theorem refusal?_eq_some_iff {result : Reading Schema.Node} {refusal : Refusal} :
    refusal? result = some refusal ↔ result = .error refusal := by
  cases result <;> simp [refusal?]

/-- The schema is read and has a class, although its text is refused as a whole. -/
theorem schemaWithTrail_accepted :
    (∃ node, readDocument "a.schema.json" schemaWithTrail = .ok node) ∧
      (generateTo defaultNamespace "a.schema.json" schemaWithTrail (Sink.empty none)).1 = .ok () ∧
      Schema.Node.ofText schemaWithTrail =
        .error ⟨.fault .trailingCharacters, [], some 19⟩ := by
  have accepted :
      (readDocument "a.schema.json" schemaWithTrail).toOption.map Schema.Node.isObjectTyped =
        some true := by
    decide +kernel
  have generated :
      (generateTo defaultNamespace "a.schema.json" schemaWithTrail (Sink.empty none)).1.toOption.map
        id = some () := by
    decide +kernel
  have refused : refusal? (Schema.Node.ofText schemaWithTrail) =
      some ⟨.fault .trailingCharacters, [], some 19⟩ := by
    decide +kernel
  obtain ⟨node, read, -⟩ := Steps.toOption_map_eq_some_iff.mp accepted
  obtain ⟨_, made, -⟩ := Steps.toOption_map_eq_some_iff.mp generated
  exact ⟨⟨node, read⟩, made, refusal?_eq_some_iff.mp refused⟩

end SchemaClasses
