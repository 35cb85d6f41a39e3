import SchemaClasses.Proofs.Run.Phases
import SchemaClasses.Proofs.Run.SingleDocument

/-!
# Batch runs agree with single documents

A run over a directory writes, for every object-typed document that it loads, the same bytes as
generation from the text of that document alone, and it changes no other file.  It succeeds if
loading succeeds, every document has a class, the names of the classes are distinct, and the files
can be opened.
-/

namespace SchemaClasses

open FileTree

/-- The path at which a run puts the source file for a document. -/
def documentOutputPath (output : String) (entry : String × Schema.Node) : String :=
  Path.join output (ClassDef.nameOf entry.1 entry.2 ++ ".cs")

variable {before after created : FileTree} {working : List String}
  {namespaceName root output : String} {repository : Repository} {classes : List ClassDef}
  {paths : List String} {entry : String × Schema.Node} {classDef : ClassDef}

theorem outputPath_of_makes (made : Makes namespaceName entry classDef) :
    outputPath output classDef = documentOutputPath output entry := by
  rw [outputPath, CSharp.fileName, ClassDef.name_of_ofDocument made]
  rfl

theorem map_outputPath_of_makes {documents : List (String × Schema.Node)}
    (made : List.Forall₂ (Makes namespaceName) documents classes) :
    classes.map (outputPath output) = documents.map (documentOutputPath output) :=
  map_eq_map_of_related made fun _ _ madeEntry => outputPath_of_makes madeEntry

/-- A file that no class opens is as it was before the run. -/
theorem Writes.file_iff_of_not_located (writes : Writes working output classes created after)
    (adds : AddsDirectories before created) {location : List String} {content : ByteArray}
    (notLocated : ∀ classDef ∈ classes,
      after.locate working (outputPath output classDef) ≠ .ok location) :
    after.item? location = some (.file content) ↔
      before.item? location = some (.file content) := by
  have notOpened : ∀ classDef ∈ classes,
      created.openFile working (outputPath output classDef) ≠ .ok location := by
    intro classDef member opened
    obtain ⟨last, -, -, itemEq⟩ := writes.written classDef member location opened
    have openedAfter := writes.directories.openFile opened
    exact notLocated classDef member (locate_of_openFile openedAfter itemEq)
  rw [writes.kept location notOpened]
  exact adds.file_iff

theorem exists_openFile_of_writeFile {path : String} {content : ByteArray} {written : FileTree}
    (wrote : before.writeFile working path content = .ok written) :
    ∃ location, before.openFile working path = .ok location := by
  rw [writeFile_eq] at wrote
  obtain ⟨location, opened, -⟩ := Steps.map_eq_ok_iff.mp wrote
  exact ⟨location, opened⟩

/-- What a run over a directory leaves behind, compared with generation from single documents. -/
structure AgreesWithSingle (working : List String) (namespaceName root output : String)
    (repository : Repository) (before after : FileTree) (paths : List String) : Prop where
  /-- The file names of the documents increase in the order of their bytes. -/
  ordered : (repository.objectDocuments.map fun entry => Sink.bytes entry.1).Pairwise (· < ·)
  pathsEq : paths = repository.objectDocuments.map (documentOutputPath output)
  contents : ∀ entry ∈ repository.objectDocuments, ∃ text sink location content,
    before.documentText working root entry.1 = .ok text ∧
      Schema.Node.ofDocument text = .ok entry.2 ∧
      generateTo namespaceName entry.1 text (Sink.empty none) = (.ok (), sink) ∧
      after.locate working (documentOutputPath output entry) = .ok location ∧
      after.item? location = some (.file content) ∧ content.data.toList = sink.written
  /-- Files at other locations are neither created nor changed nor removed. -/
  unchanged : ∀ location content, (∀ path ∈ paths, after.locate working path ≠ .ok location) →
    (after.item? location = some (.file content) ↔ before.item? location = some (.file content))

theorem ordered_objectDocuments (loaded : before.repository working root = .ok repository) :
    (repository.objectDocuments.map fun entry => Sink.bytes entry.1).Pairwise (· < ·) :=
  Sink.bytes_increase (Repository.keysIncrease_objectDocuments (keysIncrease_repository loaded))

theorem agreesWithSingle_of_phases (loaded : before.repository working root = .ok repository)
    (synthesized : repository.classes namespaceName = .ok classes)
    (adds : AddsDirectories before created)
    (written : outcome (writeClasses (disk working) output classes) created = (.ok paths, after))
    (noSlash : ∀ entry ∈ repository.objectDocuments,
      '/' ∉ (ClassDef.nameOf entry.1 entry.2).toList) :
    AgreesWithSingle working namespaceName root output repository before after paths := by
  obtain ⟨made, distinct⟩ := Repository.classes_eq_ok_iff.mp synthesized
  obtain ⟨pathsEq, writes⟩ := outcome_writeClasses_eq_ok written
  have classNoSlash : ∀ classDef ∈ classes, '/' ∉ classDef.name.toList := by
    intro classDef member
    obtain ⟨entry, entryMem, madeEntry⟩ := exists_left_of_mem made member
    rw [ClassDef.name_of_ofDocument madeEntry]
    exact noSlash entry entryMem
  refine ⟨ordered_objectDocuments loaded, pathsEq.trans (map_outputPath_of_makes made), ?_, ?_⟩
  · intro entry entryMem
    have inRepository : (entry.1, entry.2) ∈ repository.documents :=
      List.mem_of_mem_filter entryMem
    obtain ⟨text, textEq, read⟩ := documentText_of_mem loaded inRepository
    obtain ⟨classDef, member, madeEntry⟩ := exists_right_of_mem made entryMem
    have objectTyped := Repository.isObjectTyped_of_mem entryMem
    have single := generateTo_unlimited_of_ofText
      ((ClassDef.ofText_of_read read objectTyped).trans madeEntry)
    obtain ⟨location, opened⟩ := writes.opens classDef member
    have itemEq := writes.sourceItem_of_opened distinct classNoSlash member opened
    have located := locate_of_openFile (writes.directories.openFile opened) itemEq
    rw [outputPath_of_makes madeEntry] at located
    exact ⟨text, _, location, _, textEq, read, single, located, itemEq, rfl⟩
  · intro location content notLocated
    refine writes.file_iff_of_not_located adds fun classDef member => ?_
    exact notLocated _ (pathsEq ▸ List.mem_map_of_mem member)

/-- The documents of a repository have classes if generation from the text of each one succeeds. -/
theorem exists_classes_of_single (loaded : before.repository working root = .ok repository)
    (single : ∀ entry ∈ repository.objectDocuments, ∀ text,
      before.documentText working root entry.1 = .ok text →
        (generateTo namespaceName entry.1 text (Sink.empty none)).1 = .ok ())
    (distinct :
      (repository.objectDocuments.map fun entry => ClassDef.nameOf entry.1 entry.2).Nodup) :
    ∃ classes, repository.classes namespaceName = .ok classes := by
  have each : ∀ entry ∈ repository.objectDocuments,
      ∃ classDef, Makes namespaceName entry classDef := by
    intro entry entryMem
    have inRepository : (entry.1, entry.2) ∈ repository.documents :=
      List.mem_of_mem_filter entryMem
    obtain ⟨text, textEq, read⟩ := documentText_of_mem loaded inRepository
    obtain ⟨classDef, made⟩ := generateTo_unlimited_eq_ok_iff.mp (single entry entryMem text textEq)
    have objectTyped := Repository.isObjectTyped_of_mem entryMem
    exact ⟨classDef, (ClassDef.ofText_of_read read objectTyped).symm.trans made⟩
  obtain ⟨classes, made⟩ := exists_related_of_forall each
  refine ⟨classes, Repository.classes_eq_ok_iff.mpr ⟨made, ?_⟩⟩
  rw [Repository.map_name_of_makes made]
  exact distinct

/-- A run agrees with generation from single documents: if it succeeds and no class name has a
slash, then its files are those of the documents by themselves, and if these succeed and nothing
stands in the way of their files, then the run succeeds. -/
theorem generate_agrees_with_generateTo (before : FileTree) (working : List String)
    (namespaceName root output : String) :
    (∀ paths after,
      outcome (generate (disk working) namespaceName root output) before = (.ok paths, after) →
        ∃ repository,
          outcome (Repository.load (disk working) root) before = (.ok repository, before) ∧
            ((∀ entry ∈ repository.objectDocuments,
                '/' ∉ (ClassDef.nameOf entry.1 entry.2).toList) →
              AgreesWithSingle working namespaceName root output repository before after paths)) ∧
      ∀ repository created,
        outcome (Repository.load (disk working) root) before = (.ok repository, before) →
        (∀ entry ∈ repository.objectDocuments, ∀ text,
          before.documentText working root entry.1 = .ok text →
            (generateTo namespaceName entry.1 text (Sink.empty none)).1 = .ok ()) →
        (repository.objectDocuments.map fun entry => ClassDef.nameOf entry.1 entry.2).Nodup →
        ((disk working).createDirectories output).run before = (.ok (), created) →
        (∀ entry ∈ repository.objectDocuments, ∃ opened,
          created.writeFile working (documentOutputPath output entry) .empty = .ok opened) →
        ∃ paths after,
          outcome (generate (disk working) namespaceName root output) before =
            (.ok paths, after) := by
  constructor
  · intro paths after succeeded
    obtain ⟨repository, classes, created, loaded, synthesized, createdEq, written⟩ :=
      outcome_generate_eq_ok_iff.mp succeeded
    have adds : AddsDirectories before created := by
      have onlyAdds : OnlyAdds ((disk working).createDirectories output) :=
        createDirectories_onlyAdds output
      have addsBefore := onlyAdds before
      rwa [createdEq] at addsBefore
    refine ⟨repository, by rw [outcome_load, loaded], fun noSlash => ?_⟩
    exact agreesWithSingle_of_phases loaded synthesized adds written noSlash
  · intro repository created loadedEq single distinct createdEq openable
    have loaded := repository_of_outcome_load loadedEq
    obtain ⟨classes, synthesized⟩ := exists_classes_of_single loaded single distinct
    obtain ⟨made, -⟩ := Repository.classes_eq_ok_iff.mp synthesized
    have opens : ∀ classDef ∈ classes,
        ∃ location, created.openFile working (outputPath output classDef) = .ok location := by
      intro classDef member
      obtain ⟨entry, entryMem, madeEntry⟩ := exists_left_of_mem made member
      obtain ⟨opened, openedEq⟩ := openable entry entryMem
      rw [outputPath_of_makes madeEntry]
      exact exists_openFile_of_writeFile openedEq
    obtain ⟨after, written⟩ := outcome_writeClasses_of_opens opens
    exact ⟨_, after, outcome_generate_eq_ok_iff.mpr
      ⟨repository, classes, created, loaded, synthesized, createdEq, written⟩⟩

/-- A directory with two schemas, of which only the second has a title. -/
def twoSchemas : FileTree :=
  ⟨[(["s"], .directory),
    (["s", "a.schema.json"], .file "\x7b\"type\":\"object\"\x7d".toUTF8),
    (["s", "b.schema.json"],
      .file "\x7b\"type\":\"object\",\"title\":\"Beta\"\x7d".toUTF8)]⟩

/-- The object-typed documents in that directory. -/
def twoDocuments : List (String × Schema.Node) :=
  (twoSchemas.repository ["s"] "a.schema.json").toOption.elim [] Repository.objectDocuments

/-- That directory with another one for the output. -/
def twoSchemasCreated : FileTree :=
  (((disk ["s"]).createDirectories "out").run twoSchemas).2

/-- Nothing stands in the way of a run over these schemas, and so it succeeds with two files. -/
theorem generate_twoSchemas :
    ∃ repository after,
      outcome (Repository.load (disk ["s"]) "a.schema.json") twoSchemas =
          (.ok repository, twoSchemas) ∧
        (∀ entry ∈ repository.objectDocuments, ∀ text,
          twoSchemas.documentText ["s"] "a.schema.json" entry.1 = .ok text →
            (generateTo defaultNamespace entry.1 text (Sink.empty none)).1 = .ok ()) ∧
        (repository.objectDocuments.map fun entry => ClassDef.nameOf entry.1 entry.2).Nodup ∧
        ((disk ["s"]).createDirectories "out").run twoSchemas = (.ok (), twoSchemasCreated) ∧
        (∀ entry ∈ repository.objectDocuments, ∃ opened, twoSchemasCreated.writeFile ["s"]
          (documentOutputPath "out" entry) .empty = .ok opened) ∧
        outcome (generate (disk ["s"]) defaultNamespace "a.schema.json" "out") twoSchemas =
          (.ok ["out/A.cs", "out/Beta.cs"], after) ∧
        AgreesWithSingle ["s"] defaultNamespace "a.schema.json" "out" repository twoSchemas after
          ["out/A.cs", "out/Beta.cs"] := by
  have loads : (twoSchemas.repository ["s"] "a.schema.json").isOk = true := by decide +kernel
  have noSlashes : ∀ entry ∈ twoDocuments, '/' ∉ (ClassDef.nameOf entry.1 entry.2).toList := by
    decide +kernel
  have distinct : (twoDocuments.map fun entry => ClassDef.nameOf entry.1 entry.2).Nodup := by
    decide +kernel
  have singles : ∀ entry ∈ twoDocuments,
      ((twoSchemas.documentText ["s"] "a.schema.json" entry.1).toOption.all fun text =>
        (generateTo defaultNamespace entry.1 text (Sink.empty none)).1.isOk) = true := by
    decide +kernel
  have creates : (((disk ["s"]).createDirectories "out").run twoSchemas).1.isOk = true := by
    decide +kernel
  have opens : ∀ entry ∈ twoDocuments, (twoSchemasCreated.writeFile ["s"]
      (documentOutputPath "out" entry) .empty).isOk = true := by
    decide +kernel
  obtain ⟨repository, repositoryEq⟩ := Steps.exists_of_isOk loads
  have documentsEq : twoDocuments = repository.objectDocuments := by
    rw [twoDocuments, repositoryEq]
    rfl
  rw [documentsEq] at noSlashes distinct singles opens
  have loaded : outcome (Repository.load (disk ["s"]) "a.schema.json") twoSchemas =
      (.ok repository, twoSchemas) := by
    rw [outcome_load, repositoryEq]
  have single : ∀ entry ∈ repository.objectDocuments, ∀ text,
      twoSchemas.documentText ["s"] "a.schema.json" entry.1 = .ok text →
        (generateTo defaultNamespace entry.1 text (Sink.empty none)).1 = .ok () := by
    intro entry member text textEq
    have isOk := singles entry member
    rw [textEq] at isOk
    obtain ⟨_, written⟩ := Steps.exists_of_isOk isOk
    exact written
  have created : ((disk ["s"]).createDirectories "out").run twoSchemas =
      (.ok (), twoSchemasCreated) := by
    obtain ⟨_, createdEq⟩ := Steps.exists_of_isOk creates
    exact Prod.ext createdEq rfl
  have openable : ∀ entry ∈ repository.objectDocuments, ∃ opened, twoSchemasCreated.writeFile ["s"]
      (documentOutputPath "out" entry) .empty = .ok opened :=
    fun entry member => Steps.exists_of_isOk (opens entry member)
  obtain ⟨agrees, succeeds⟩ :=
    generate_agrees_with_generateTo twoSchemas ["s"] defaultNamespace "a.schema.json" "out"
  obtain ⟨paths, after, ran⟩ := succeeds repository _ loaded single distinct created openable
  obtain ⟨again, loadedAgain, agreesWith⟩ := agrees paths after ran
  obtain rfl : repository = again :=
    Except.ok.inj (Prod.mk.inj (loaded.symm.trans loadedAgain)).1
  have result := agreesWith noSlashes
  have pathsEq : repository.objectDocuments.map (documentOutputPath "out") =
      ["out/A.cs", "out/Beta.cs"] := by
    rw [← documentsEq]
    decide +kernel
  rw [result.pathsEq, pathsEq] at ran result
  exact ⟨repository, after, loaded, single, distinct, created, openable, ran, result⟩

end SchemaClasses
