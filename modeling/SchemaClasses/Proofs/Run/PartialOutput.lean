import SchemaClasses.Proofs.Run.Phases

/-!
# Output of runs that fail

A run that fails before its last phase leaves everything as it was.  In the last phase a class is
written as a whole or not at all, so that a run which stops there leaves whole files of the classes
before, and directories on the way to them.
-/

namespace SchemaClasses

open FileTree

variable {before created after : FileTree} {working : List String}
  {namespaceName root output : String} {classes written : List ClassDef} {failure : Failure}
  {error : SystemError}

/-- What is left where some classes of a run have been written. -/
structure PartlyWritten (working : List String) (output : String) (written : List ClassDef)
    (before after : FileTree) : Prop where
  /-- The path of a written class leads to the whole source of a class that is written there. -/
  present : ∀ classDef ∈ written, ∃ location, ∃ last ∈ written,
    after.locate working (outputPath output classDef) = .ok location ∧
      after.locate working (outputPath output last) = .ok location ∧
      after.item? location = some (sourceItem last)
  /-- It is the source of the class itself, unless names of classes lead elsewhere. -/
  own : (∀ classDef ∈ written, '/' ∉ classDef.name.toList) → ∀ classDef ∈ written, ∃ location,
    after.locate working (outputPath output classDef) = .ok location ∧
      after.item? location = some (sourceItem classDef)
  /-- Apart from files with whole sources, there are only new directories on the output path. -/
  changed : ∀ location, after.item? location = before.item? location ∨
    (∃ classDef ∈ written, after.locate working (outputPath output classDef) = .ok location ∧
      after.item? location = some (sourceItem classDef)) ∨
    (before.item? location = none ∧ after.item? location = some .directory ∧
      OnPath after working output location)

/-- Classes written after the output directory has been created. -/
theorem Writes.partlyWritten (writes : Writes working output written created after)
    (adds : AddsAlong working output before created)
    (distinct : (written.map ClassDef.name).Nodup) :
    PartlyWritten working output written before after := by
  have located : ∀ {classDef : ClassDef} {location : List String} {item : FileItem},
      created.openFile working (outputPath output classDef) = .ok location →
        after.item? location = some item →
          after.locate working (outputPath output classDef) = .ok location :=
    fun opened itemEq => locate_of_openFile (writes.directories.openFile opened) itemEq
  refine ⟨?_, ?_, ?_⟩
  · intro classDef member
    obtain ⟨location, opened⟩ := writes.opens classDef member
    obtain ⟨last, lastMem, lastOpened, itemEq⟩ := writes.written classDef member location opened
    exact ⟨location, last, lastMem, located opened itemEq, located lastOpened itemEq, itemEq⟩
  · intro noSlash classDef member
    obtain ⟨location, opened⟩ := writes.opens classDef member
    have itemEq := writes.sourceItem_of_opened distinct noSlash member opened
    exact ⟨location, located opened itemEq, itemEq⟩
  · intro location
    by_cases isOutput : ∃ classDef ∈ written,
        created.openFile working (outputPath output classDef) = .ok location
    · obtain ⟨classDef, member, opened⟩ := isOutput
      obtain ⟨last, lastMem, lastOpened, itemEq⟩ := writes.written classDef member location opened
      exact Or.inr (Or.inl ⟨last, lastMem, located lastOpened itemEq, itemEq⟩)
    · have kept := writes.kept location fun classDef member opened =>
        isOutput ⟨classDef, member, opened⟩
      have within : DirectoriesIn created after := fun place => (writes.directories place).mp
      rw [kept]
      rcases adds location with keptBefore | ⟨missing, added, onPath⟩
      · exact Or.inl keptBefore
      · exact Or.inr (Or.inr ⟨missing, added, onPath.of_directoriesIn within added⟩)

/-- However the emission of classes is stopped, those before the stop have been written. -/
theorem StopsAfter.partlyWritten
    (stops : StopsAfter working output classes before after error written)
    (distinct : (classes.map ClassDef.name).Nodup) :
    PartlyWritten working output written before after := by
  have adds := createDirectories_onlyAddsAlong working output before
  cases stops with
  | atDirectory failed =>
      rw [failed] at adds
      exact (Writes.nil after).partlyWritten adds List.nodup_nil
  | atClass createdEq classesEq done closed =>
      rw [createdEq] at adds
      obtain ⟨-, writes⟩ := outcome_writeClasses_eq_ok done
      rw [classesEq, List.map_append] at distinct
      exact writes.partlyWritten adds distinct.of_append_left

/-- A run that fails has changed nothing, unless it could not write: then the classes before the
stop are in whole files, and beyond these there are only new directories on the output path. -/
theorem unchanged_or_partlyWritten_of_generate
    (failed : outcome (generate (disk working) namespaceName root output) before =
      (.error failure, after)) :
    match failure with
    | .load _ _ | .rootNotObject _ | .unsupported _ _ | .collision _ _ => after = before
    | .write problem => ∃ error repository classes written, problem = .system error ∧
        outcome (Repository.load (disk working) root) before = (.ok repository, before) ∧
        repository.classes namespaceName = .ok classes ∧
        StopsAfter working output classes before after error written ∧
        PartlyWritten working output written before after := by
  rcases outcome_generate_eq_error failed with ⟨unloaded, rfl⟩ | ⟨repository, loaded, failed⟩
  · obtain ⟨path, problem, rfl⟩ := repository_fails unloaded
    rfl
  · rcases failed with ⟨unmade, rfl⟩ | ⟨classes, made, unwritten⟩
    · cases Repository.classes_fails unmade with
      | unsupported document source => rfl
      | collision scope name => rfl
    · obtain ⟨error, written, rfl, stops⟩ := outcome_writeOutput_eq_error unwritten
      obtain ⟨-, distinct⟩ := Repository.classes_eq_ok_iff.mp made
      exact ⟨error, repository, classes, written, rfl, by rw [outcome_load, loaded], made, stops,
        stops.partlyWritten distinct⟩

/-- Two schemas with an output directory, in which the file of the second class cannot be opened. -/
def blockedOutput : FileTree :=
  ⟨[(["s"], .directory),
    (["s", "a.schema.json"], .file "\x7b\"type\":\"object\"\x7d".toUTF8),
    (["s", "b.schema.json"],
      .file "\x7b\"type\":\"object\",\"title\":\"Beta\"\x7d".toUTF8),
    (["s", "out"], .directory),
    (["s", "out", "Beta.cs"], .directory)]⟩

/-- What could not be written in a run that failed. -/
def writeProblem? {α : Type} : Except Failure α → Option WriteProblem
  | .error (.write problem) => some problem
  | _ => none

theorem generate_blockedOutput :
    ∃ (after : FileTree) (repository : Repository) (classes written : List ClassDef),
      outcome (generate (disk ["s"]) defaultNamespace "a.schema.json" "out") blockedOutput =
          (.error (.write (.system .isDirectory)), after) ∧
        repository.classes defaultNamespace = .ok classes ∧
        StopsAfter ["s"] "out" classes blockedOutput after .isDirectory written ∧
        PartlyWritten ["s"] "out" written blockedOutput after ∧
        (after.item? ["s", "out", "A.cs"]).isSome = true := by
  have problemEq :
      writeProblem? (outcome (generate (disk ["s"]) defaultNamespace "a.schema.json" "out")
        blockedOutput).1 = some (.system .isDirectory) := by
    decide +kernel
  have firstWritten :
      ((outcome (generate (disk ["s"]) defaultNamespace "a.schema.json" "out")
        blockedOutput).2.item? ["s", "out", "A.cs"]).isSome = true := by
    decide +kernel
  cases ran : outcome (generate (disk ["s"]) defaultNamespace "a.schema.json" "out")
      blockedOutput with
  | mk result after =>
      rw [ran] at problemEq firstWritten
      cases result with
      | ok paths => nomatch problemEq
      | error failure =>
          cases failure with
          | load path problem => nomatch problemEq
          | rootNotObject document => nomatch problemEq
          | unsupported document source => nomatch problemEq
          | collision scope name => nomatch problemEq
          | write problem =>
              obtain rfl := Option.some.inj problemEq
              obtain ⟨error, repository, classes, written, errorEq, -, made, stops, partly⟩ :=
                unchanged_or_partlyWritten_of_generate ran
              injection errorEq with errorEq
              subst errorEq
              exact ⟨after, repository, classes, written, rfl, made, stops, partly, firstWritten⟩

end SchemaClasses
