import SchemaClasses.Proofs.Classes.Batch

/-!
# Histories of batches

Documents are added to a batch in any number, some of which fail.  The batch is the record of those
that did not fail, and a document fails for reasons of its own or because of one of these.
-/

namespace SchemaClasses
namespace Batch

variable {namespaceName : String} {batch : Batch} {entry : String × Schema.Node}
  {entries first second earlier later : List (String × Schema.Node)}
  {results : List (Except Failure ClassDef)} {classDef : ClassDef} {failure : Failure}

/-- What adding a document gives, and the batch after that. -/
def call (batch : Batch) (entry : String × Schema.Node) : Except Failure ClassDef × Batch :=
  outcome (add entry.1 entry.2) batch

/-- Adds documents one after another, whether or not those before them failed. -/
def calls (batch : Batch) : List (String × Schema.Node) → List (Except Failure ClassDef) × Batch
  | [] => ([], batch)
  | entry :: rest =>
      let (result, next) := batch.call entry
      let (results, last) := next.calls rest
      (result :: results, last)

theorem calls_cons (batch : Batch) (entry : String × Schema.Node)
    (rest : List (String × Schema.Node)) :
    batch.calls (entry :: rest) =
      ((batch.call entry).1 :: ((batch.call entry).2.calls rest).1,
        ((batch.call entry).2.calls rest).2) :=
  rfl

theorem calls_append (batch : Batch) (first second : List (String × Schema.Node)) :
    batch.calls (first ++ second) =
      ((batch.calls first).1 ++ ((batch.calls first).2.calls second).1,
        ((batch.calls first).2.calls second).2) := by
  induction first generalizing batch with
  | nil => rfl
  | cons entry rest ih => rw [List.cons_append, calls_cons, calls_cons, ih, List.cons_append]

/-- A batch is the record of documents that were added, some of them with failures. -/
structure Records (namespaceName : String) (entries : List (String × Schema.Node))
    (results : List (Except Failure ClassDef)) (batch : Batch) : Prop where
  namespaceEq : batch.namespaceName = namespaceName
  lengthEq : entries.length = results.length
  classesEq : batch.classes = results.filterMap Except.toOption
  indexed : batch.Indexed
  made : ∀ step ∈ entries.zip results, ∀ classDef, step.2 = .ok classDef →
    Makes namespaceName step.1 classDef

theorem records_empty (namespaceName : String) :
    Records namespaceName [] [] (empty namespaceName) where
  namespaceEq := rfl
  lengthEq := rfl
  classesEq := rfl
  indexed := indexed_empty namespaceName
  made _ member := nomatch member

theorem Records.call (records : Records namespaceName entries results batch)
    (entry : String × Schema.Node) :
    Records namespaceName (entries ++ [entry]) (results ++ [(batch.call entry).1])
      (batch.call entry).2 := by
  cases added : batch.call entry with
  | mk result grown =>
      have lengthEq : (entries ++ [entry]).length = (results ++ [result]).length := by
        simp [records.lengthEq]
      have indexed : grown.Indexed := records.indexed.outcome_add added
      cases result with
      | error failure =>
          obtain ⟨-, rfl⟩ := records.indexed.add_eq_error_iff.mp added
          refine ⟨records.namespaceEq, lengthEq, ?_, indexed, ?_⟩
          · rw [List.filterMap_append, ← records.classesEq]
            exact (List.append_nil _).symm
          · intro step member classDef succeeded
            rw [List.zip_append records.lengthEq] at member
            rcases List.mem_append.mp member with before | now
            · exact records.made step before classDef succeeded
            · obtain rfl := List.mem_singleton.mp now
              nomatch succeeded
      | ok joined =>
          obtain ⟨joinedMade, -, rfl⟩ := records.indexed.add_eq_ok_iff.mp added
          refine ⟨records.namespaceEq, lengthEq, ?_, indexed, ?_⟩
          · rw [List.filterMap_append, ← records.classesEq]
            rfl
          · intro step member classDef succeeded
            rw [List.zip_append records.lengthEq] at member
            rcases List.mem_append.mp member with before | now
            · exact records.made step before classDef succeeded
            · obtain rfl := List.mem_singleton.mp now
              obtain rfl := Except.ok.inj succeeded
              rw [records.namespaceEq] at joinedMade
              exact joinedMade

theorem Records.calls (records : Records namespaceName entries results batch)
    (later : List (String × Schema.Node)) :
    Records namespaceName (entries ++ later) (results ++ (batch.calls later).1)
      (batch.calls later).2 := by
  induction later generalizing entries results batch with
  | nil => simpa [Batch.calls] using records
  | cons entry rest ih => simpa [calls_cons] using ih (records.call entry)

theorem Records.mem_classes_iff (records : Records namespaceName entries results batch) :
    classDef ∈ batch.classes ↔ .ok classDef ∈ results := by
  rw [records.classesEq, List.mem_filterMap]
  constructor
  · rintro ⟨result, member, isClass⟩
    cases result with
    | error failure => nomatch isClass
    | ok made => exact Option.some.inj isClass ▸ member
  · intro member
    exact ⟨_, member, rfl⟩

/-- The classes of a batch are those that documents gave, together with the files of these. -/
theorem Records.mem_classes_iff_step (records : Records namespaceName entries results batch) :
    classDef ∈ batch.classes ↔
      ∃ entry, (entry, .ok classDef) ∈ entries.zip results ∧ classDef.sourceFile = entry.1 := by
  rw [records.mem_classes_iff]
  constructor
  · intro member
    have resultsEq : (entries.zip results).map Prod.snd = results :=
      List.map_snd_zip (Nat.le_of_eq records.lengthEq.symm)
    rw [← resultsEq] at member
    obtain ⟨⟨entry, result⟩, stepMem, rfl⟩ := List.mem_map.mp member
    have entryMade := records.made _ stepMem classDef rfl
    exact ⟨entry, stepMem, ClassDef.sourceFile_of_ofDocument entryMade⟩
  · rintro ⟨entry, stepMem, -⟩
    exact (List.of_mem_zip stepMem).2

/-- The sources of a batch are those of the steps that did not fail. -/
theorem Records.lookup_eq_some_iff (records : Records namespaceName entries results batch)
    {name fileName : String} :
    batch.sources.lookup name = some fileName ↔
      ∃ classDef entry, (entry, .ok classDef) ∈ entries.zip results ∧
        classDef.name = name ∧ entry.1 = fileName := by
  rw [records.indexed.lookup_eq_some_iff]
  simp only [records.mem_classes_iff_step]
  constructor
  · rintro ⟨classDef, ⟨entry, stepMem, fileEq⟩, nameEq, rfl⟩
    exact ⟨classDef, entry, stepMem, nameEq, fileEq.symm⟩
  · rintro ⟨classDef, entry, stepMem, nameEq, rfl⟩
    have fileEq := ClassDef.sourceFile_of_ofDocument (records.made _ stepMem classDef rfl)
    exact ⟨classDef, ⟨entry, stepMem, fileEq⟩, nameEq, fileEq⟩

theorem length_filterMap_toOption (results : List (Except Failure ClassDef)) :
    (results.filterMap Except.toOption).length = results.countP Except.isOk := by
  rw [List.length_filterMap_eq_countP]
  refine List.countP_congr fun result _ => ?_
  cases result <;> rfl

/-- The results of adding documents to an empty batch. -/
def resultsOf (namespaceName : String) (entries : List (String × Schema.Node)) :
    List (Except Failure ClassDef) :=
  ((empty namespaceName).calls entries).1

/-- The batch after documents have been added to an empty one. -/
def batchOf (namespaceName : String) (entries : List (String × Schema.Node)) : Batch :=
  ((empty namespaceName).calls entries).2

theorem records_batchOf (namespaceName : String) (entries : List (String × Schema.Node)) :
    Records namespaceName entries (resultsOf namespaceName entries)
      (batchOf namespaceName entries) :=
  (records_empty namespaceName).calls entries

/-- What the batch is after some documents, what one more document does to it, and what the
documents after that one see of it. -/
structure History (namespaceName : String) (earlier : List (String × Schema.Node))
    (entry : String × Schema.Node) (later : List (String × Schema.Node)) : Prop where
  distinct : ((batchOf namespaceName earlier).classes.map ClassDef.name).Nodup
  classesEq : (batchOf namespaceName earlier).classes =
    (resultsOf namespaceName earlier).filterMap Except.toOption
  /-- The sources hold the classes of the steps that did not fail, and no others. -/
  sources_iff : ∀ name fileName,
    (batchOf namespaceName earlier).sources.lookup name = some fileName ↔
      ∃ classDef step, (step, .ok classDef) ∈ earlier.zip (resultsOf namespaceName earlier) ∧
        classDef.name = name ∧ step.1 = fileName
  size_eq : (batchOf namespaceName earlier).size =
    (resultsOf namespaceName earlier).countP Except.isOk
  isEmpty_iff : (batchOf namespaceName earlier).isEmpty = true ↔
    (resultsOf namespaceName earlier).countP Except.isOk = 0
  nextResult : resultsOf namespaceName (earlier ++ [entry]) =
    resultsOf namespaceName earlier ++ [((batchOf namespaceName earlier).call entry).1]
  nextBatch : batchOf namespaceName (earlier ++ [entry]) =
    ((batchOf namespaceName earlier).call entry).2
  ok_iff : ∀ classDef, ((batchOf namespaceName earlier).call entry).1 = .ok classDef ↔
    Makes namespaceName entry classDef ∧
      ∀ other, .ok other ∈ resultsOf namespaceName earlier → other.name ≠ classDef.name
  /-- A collision names the file of the document that was added with the same class name. -/
  error_iff : ∀ failure, ((batchOf namespaceName earlier).call entry).1 = .error failure ↔
    ClassDef.ofDocument namespaceName entry.1 entry.2 = .error failure ∨
      ∃ classDef other otherEntry, Makes namespaceName entry classDef ∧
        (otherEntry, .ok other) ∈ earlier.zip (resultsOf namespaceName earlier) ∧
        other.name = classDef.name ∧
        failure = .collision (.classes otherEntry.1 entry.1) classDef.name
  unchanged : ∀ failure, ((batchOf namespaceName earlier).call entry).1 = .error failure →
    ((batchOf namespaceName earlier).call entry).2 = batchOf namespaceName earlier
  /-- Without a document that fails, all others have the same results and give the same batch. -/
  skipped : ∀ failure, ((batchOf namespaceName earlier).call entry).1 = .error failure →
    ∃ laterResults,
      resultsOf namespaceName (earlier ++ later) =
          resultsOf namespaceName earlier ++ laterResults ∧
        resultsOf namespaceName (earlier ++ entry :: later) =
          resultsOf namespaceName earlier ++ .error failure :: laterResults ∧
        batchOf namespaceName (earlier ++ entry :: later) =
          batchOf namespaceName (earlier ++ later)

theorem Records.call_ok_iff (records : Records namespaceName entries results batch)
    (entry : String × Schema.Node) :
    (batch.call entry).1 = .ok classDef ↔
      Makes namespaceName entry classDef ∧
        ∀ other, .ok other ∈ results → other.name ≠ classDef.name := by
  simp only [← records.mem_classes_iff, ← records.namespaceEq]
  constructor
  · intro joined
    obtain ⟨made, fresh, -⟩ := records.indexed.add_eq_ok_iff.mp (Prod.ext joined rfl)
    exact ⟨made, fresh⟩
  · rintro ⟨made, fresh⟩
    exact congrArg Prod.fst (records.indexed.add_eq_ok_iff.mpr ⟨made, fresh, rfl⟩)

theorem Records.call_error_iff (records : Records namespaceName entries results batch)
    (entry : String × Schema.Node) :
    (batch.call entry).1 = .error failure ↔
      ClassDef.ofDocument namespaceName entry.1 entry.2 = .error failure ∨
        ∃ classDef other otherEntry, Makes namespaceName entry classDef ∧
          (otherEntry, .ok other) ∈ entries.zip results ∧ other.name = classDef.name ∧
          failure = .collision (.classes otherEntry.1 entry.1) classDef.name := by
  have refused : (batch.call entry).1 = .error failure ↔
      Refused batch.namespaceName batch.classes entry failure := by
    constructor
    · intro failed
      exact (records.indexed.add_eq_error_iff.mp (Prod.ext failed rfl)).1
    · intro fails
      exact congrArg Prod.fst (records.indexed.add_eq_error_iff.mpr ⟨fails, rfl⟩)
  rw [refused, records.namespaceEq]
  refine or_congr_right (exists_congr fun classDef => ?_)
  simp only [records.mem_classes_iff_step]
  constructor
  · rintro ⟨made, other, ⟨otherEntry, stepMem, fileEq⟩, nameEq, rfl⟩
    exact ⟨other, otherEntry, made, stepMem, nameEq, by rw [fileEq]⟩
  · rintro ⟨other, otherEntry, made, stepMem, nameEq, rfl⟩
    have fileEq := ClassDef.sourceFile_of_ofDocument (records.made _ stepMem other rfl)
    exact ⟨made, other, ⟨otherEntry, stepMem, fileEq⟩, nameEq, by rw [fileEq]⟩

theorem call_unchanged (failed : (batch.call entry).1 = .error failure) :
    (batch.call entry).2 = batch :=
  (outcome_add_eq_error_iff.mp (Prod.ext failed rfl)).2

/-- Documents can be added to an empty batch in any order, with any failures among them: the batch
has the classes of those that did not fail, whose names are distinct, and those that failed might as
well not have been added. -/
theorem history_of_calls (namespaceName : String) (earlier : List (String × Schema.Node))
    (entry : String × Schema.Node) (later : List (String × Schema.Node)) :
    History namespaceName earlier entry later := by
  have records := records_batchOf namespaceName earlier
  have size_eq : (batchOf namespaceName earlier).size =
      (resultsOf namespaceName earlier).countP Except.isOk := by
    rw [size, records.classesEq, length_filterMap_toOption]
  refine {
    distinct := records.indexed.distinct
    classesEq := records.classesEq
    sources_iff := fun name fileName => records.lookup_eq_some_iff
    size_eq
    isEmpty_iff := ?_
    nextResult := ?_
    nextBatch := ?_
    ok_iff := fun classDef => records.call_ok_iff entry
    error_iff := fun failure => records.call_error_iff entry
    unchanged := fun failure => call_unchanged
    skipped := ?_ }
  · rw [isEmpty, List.isEmpty_iff_length_eq_zero, ← size, size_eq]
  · rw [resultsOf, calls_append]
    rfl
  · rw [batchOf, calls_append]
    rfl
  · intro failure failed
    have same := call_unchanged failed
    refine ⟨((batchOf namespaceName earlier).calls later).1, ?_, ?_, ?_⟩
    · rw [resultsOf, calls_append]
      rfl
    · rw [resultsOf, calls_append]
      change _ ++ (Batch.calls (batchOf namespaceName earlier) (entry :: later)).1 = _
      rw [calls_cons, failed, same]
      rfl
    · rw [batchOf, batchOf, calls_append, calls_append]
      change (Batch.calls (batchOf namespaceName earlier) (entry :: later)).2 = _
      rw [calls_cons, same]
      rfl

/-- A step that succeeds and one that does not, because the document refers to another one. -/
def imageSteps : List (String × Schema.Node) :=
  [("image.schema.json", .titled "Image"),
    ("node.schema.json",
      { Schema.Node.titled "Node" with
        allOf := [{ Schema.Node.empty with reference := some "base" }] })]

/-- After these steps a class name is repeated, and the step that follows takes no notice of
that. -/
theorem history_of_imageSteps :
    ((batchOf defaultNamespace imageSteps).call ("image2.schema.json", .titled "image")).1 =
        .error (.collision (.classes "image.schema.json" "image2.schema.json") "Image") ∧
      batchOf defaultNamespace
          (imageSteps ++ [("image2.schema.json", .titled "image"),
            ("scene.schema.json", .titled "Scene")]) =
        batchOf defaultNamespace (imageSteps ++ [("scene.schema.json", .titled "Scene")]) := by
  have failed :
      ((batchOf defaultNamespace imageSteps).call ("image2.schema.json", .titled "image")).1 =
        .error (.collision (.classes "image.schema.json" "image2.schema.json") "Image") := by
    rfl
  have history := history_of_calls defaultNamespace imageSteps
    ("image2.schema.json", .titled "image") [("scene.schema.json", .titled "Scene")]
  obtain ⟨_, -, -, sameBatch⟩ := history.skipped _ failed
  exact ⟨failed, sameBatch⟩

end Batch
end SchemaClasses
