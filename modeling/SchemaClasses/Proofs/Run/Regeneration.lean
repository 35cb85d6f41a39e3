import SchemaClasses.Proofs.Run.Phases
import SchemaClasses.Proofs.Run.Reloading

/-!
# Running again

A run reads the schema files of a directory and writes files of other names.  Done once more with
the same arguments it loads the same documents, finds its output directory, and puts the same
sources into the same files.  Only a directory that the first run created under the name of a schema
file keeps the second one from loading, and such a directory is on the way to the output.
-/

namespace SchemaClasses

open FileTree

section Output

variable {before after created first second firstAfter secondAfter : FileTree}
  {working directory location : List String} {output name : String} {classDef : ClassDef}
  {classes : List ClassDef} {firstPaths secondPaths : List String}

theorem Writes.extends (writes : Writes working output classes before after) :
    Extends before after where
  directories location := (writes.directories location).mp
  present location isPresent := by
    by_cases isOutput : ∃ classDef ∈ classes,
        before.openFile working (outputPath output classDef) = .ok location
    · obtain ⟨classDef, member, opened⟩ := isOutput
      obtain ⟨last, -, -, itemEq⟩ := writes.written classDef member location opened
      rw [itemEq]
      rfl
    · have kept := writes.kept location fun classDef member opened =>
        isOutput ⟨classDef, member, opened⟩
      rwa [kept]

/-- Source files have an ending of their own, whatever the class is called. -/
theorem not_isSchemaFileName_of_opened {last : String}
    (opened : created.openFile working (outputPath output classDef) = .ok (directory ++ [last])) :
    isSchemaFileName last = false := by
  have sourceEnding : Path.IsName ".cs" := ⟨by decide, by decide⟩
  have fileEnds : ".cs".toList <:+ (CSharp.fileName classDef).toList := by
    rw [CSharp.fileName, String.toList_append]
    exact List.suffix_append _ _
  have pathEnds : ".cs".toList <:+ (outputPath output classDef).toList :=
    Path.endsWith_join output fileEnds
  obtain ⟨outer, opensLast, opens, locationEq⟩ := openFile_eq_ok_iff.mp opened
  obtain ⟨-, lastEq⟩ := List.append_inj' locationEq rfl
  obtain rfl := (List.cons.inj lastEq).1
  obtain ⟨start, names, partsEq, isLast, -⟩ := opens.parts
  obtain ⟨rfl, rfl⟩ := openPath_parts partsEq
  obtain ⟨pathLast, pathLastEq, lastEnds⟩ := Path.exists_getLast?_names sourceEnding pathEnds
  obtain rfl := Option.some.inj (isLast.symm.trans pathLastEq)
  rw [Bool.eq_false_iff, isSchemaFileName]
  intro isSchema
  have schemaEnds := List.isSuffixOf_iff_suffix.mp isSchema
  have within : ".cs".toList <:+ ".schema.json".toList :=
    List.suffix_of_suffix_length_le lastEnds schemaEnds (by decide)
  exact absurd within (by decide)

/-- Writing classes leaves everything under the names of schema files as it is. -/
theorem Writes.schema_item?_eq (writes : Writes working output classes created after)
    (isSchema : isSchemaFileName name = true) :
    after.item? (directory ++ [name]) = created.item? (directory ++ [name]) := by
  refine writes.kept _ fun classDef _ opened => ?_
  rw [not_isSchemaFileName_of_opened opened] at isSchema
  nomatch isSchema

/-- What is written where a class opens does not depend on the files that were there. -/
theorem writeClasses_item?_eq (same : SameDirectories first second)
    (firstWritten : outcome (writeClasses (disk working) output classes) first =
      (.ok firstPaths, firstAfter))
    (secondWritten : outcome (writeClasses (disk working) output classes) second =
      (.ok secondPaths, secondAfter))
    (agree : first.item? location = second.item? location ∨ ∃ classDef ∈ classes,
      first.openFile working (outputPath output classDef) = .ok location) :
    firstAfter.item? location = secondAfter.item? location := by
  induction classes generalizing first second firstPaths secondPaths with
  | nil =>
      obtain ⟨-, rfl⟩ := Prod.mk.inj firstWritten
      obtain ⟨-, rfl⟩ := Prod.mk.inj secondWritten
      rcases agree with itemEq | ⟨classDef, member, -⟩
      · exact itemEq
      · nomatch member
  | cons classDef rest ih =>
      obtain ⟨place, firstRest, firstOpened, firstWritten, -⟩ :=
        outcome_writeClasses_cons_eq_ok_iff.mp firstWritten
      obtain ⟨secondPlace, secondRest, secondOpened, secondWritten, -⟩ :=
        outcome_writeClasses_cons_eq_ok_iff.mp secondWritten
      obtain rfl := Except.ok.inj ((same.openFile firstOpened).symm.trans secondOpened)
      have firstSame := put_sameDirectories firstOpened (CSharp.source classDef).toUTF8
      have secondSame := put_sameDirectories secondOpened (CSharp.source classDef).toUTF8
      refine ih (firstSame.symm.trans (same.trans secondSame)) firstWritten secondWritten ?_
      by_cases isPlace : location = place
      · left
        subst isPlace
        have notRoot := openFile_ne_root firstOpened
        rw [item?_put_self notRoot, item?_put_self notRoot]
      · rw [item?_put_of_ne isPlace, item?_put_of_ne isPlace]
        rcases agree with itemEq | ⟨later, member, opened⟩
        · exact Or.inl itemEq
        · right
          rcases List.mem_cons.mp member with rfl | inRest
          · exact absurd (Except.ok.inj (opened.symm.trans firstOpened)) isPlace
          · exact ⟨later, inRest, firstSame.openFile opened⟩

/-- Writing the same classes once more puts everything where it is. -/
theorem exists_writeClasses_again
    (written : outcome (writeClasses (disk working) output classes) created =
      (.ok firstPaths, after)) :
    ∃ again, outcome (writeClasses (disk working) output classes) after = (.ok firstPaths, again) ∧
      ∀ location, again.item? location = after.item? location := by
  obtain ⟨rfl, writes⟩ := outcome_writeClasses_eq_ok written
  have opens : ∀ classDef ∈ classes,
      ∃ location, after.openFile working (outputPath output classDef) = .ok location := by
    intro classDef member
    obtain ⟨location, opened⟩ := writes.opens classDef member
    exact ⟨location, writes.directories.openFile opened⟩
  obtain ⟨again, writtenAgain⟩ := outcome_writeClasses_of_opens opens
  refine ⟨again, writtenAgain, fun location => ?_⟩
  have same := writes.directories.symm
  by_cases isOutput : ∃ classDef ∈ classes,
      after.openFile working (outputPath output classDef) = .ok location
  · exact writeClasses_item?_eq same writtenAgain written (Or.inr isOutput)
  · obtain ⟨-, writesAgain⟩ := outcome_writeClasses_eq_ok writtenAgain
    exact writesAgain.kept location fun classDef member opened =>
      isOutput ⟨classDef, member, opened⟩

end Output

section Generate

variable {before created after : FileTree} {working directory : List String}
  {namespaceName root output name : String} {classes : List ClassDef} {paths : List String}

/-- A run with the same arguments gives the same paths once more and leaves every item as it is. -/
def Repeats (working : List String) (namespaceName root output : String) (paths : List String)
    (after : FileTree) : Prop :=
  ∃ again, outcome (generate (disk working) namespaceName root output) after = (.ok paths, again) ∧
    ∀ location, again.item? location = after.item? location

/-- When a run that has turned `before` into `after` can be repeated. -/
structure Regenerates (working directory : List String) (namespaceName root output : String)
    (before after : FileTree) (paths : List String) : Prop where
  repeats_iff : Repeats working namespaceName root output paths after ↔
    ∀ name, ¬AddsSchemaDirectory directory before after name
  onPath : ∀ name, AddsSchemaDirectory directory before after name →
    OnPath after working output (directory ++ [name])
  /-- If the path of the output never goes up, then only an output directory inside the directory of
  the schemas can stand in the way. -/
  outside : ".." ∉ Path.names output →
    (∀ location, after.locate working output = .ok location →
      ∀ name, ¬directory ++ [name] <+: location) →
    Repeats working namespaceName root output paths after

theorem extendsAroundSchemas_of_phases (adds : AddsDirectories before created)
    (writes : Writes working output classes created after) :
    ExtendsAroundSchemas before after where
  extension := adds.extends.trans writes.extends
  schemas directory name isSchema := by
    rw [writes.schema_item?_eq isSchema]
    exact adds (directory ++ [name])

theorem onPath_of_addsSchemaDirectory (adds : AddsAlong working output before created)
    (writes : Writes working output classes created after)
    (added : AddsSchemaDirectory directory before after name) :
    OnPath after working output (directory ++ [name]) := by
  obtain ⟨isSchema, missing, isDirectory⟩ := added
  rw [writes.schema_item?_eq isSchema] at isDirectory
  rcases adds (directory ++ [name]) with kept | ⟨-, -, onPath⟩
  · rw [kept, missing] at isDirectory
    nomatch isDirectory
  · exact onPath.of_directoriesIn writes.extends.directories isDirectory

theorem isEntry_of_onPath (workingEntries : ∀ name ∈ working, Path.IsEntry name)
    {location : List String} (onPath : OnPath after working output location) :
    ∀ name ∈ location, Path.IsEntry name := by
  obtain ⟨front, isPrefix, walked⟩ := onPath
  exact isEntry_of_walk (isEntry_startOf workingEntries)
    (fun name member => Path.isName_of_mem_names (isPrefix.subset member)) walked

/-- A path that never goes up stays inside every location on its way. -/
theorem prefix_of_onPath {location last : List String}
    (onPath : OnPath after working output location) (noDots : ".." ∉ Path.names output)
    (located : after.locate working output = .ok last) : location <+: last := by
  obtain ⟨front, isPrefix, walked⟩ := onPath
  obtain ⟨⟨start, names⟩, partsEq, followed⟩ := Steps.bind_eq_ok_iff.mp located
  obtain ⟨rfl, rfl⟩ := openPath_parts partsEq
  have namesNoDots : ∀ name ∈ Path.names output, name ≠ ".." := by
    rintro name member rfl
    exact noDots member
  rw [walk_eq_append (fun name member => namesNoDots name (isPrefix.subset member)) walked,
    walk_eq_append namesNoDots (walk_of_follow followed)]
  exact (List.prefix_append_right_inj _).mpr (isPrefix.filter _)

/-- An output directory that a run has found or created is still there afterwards. -/
theorem isDirectory_of_created (notEmpty : output ≠ "")
    (createdEq : ((disk working).createDirectories output).run before = (.ok (), created))
    (writes : Writes working output classes created after) :
    after.isDirectory working output = true :=
  writes.extends.isDirectory (isDirectory_of_createDirectories notEmpty createdEq)

/-- A directory that a run has added on a path without ways up surrounds its output. -/
theorem exists_locate_of_added
    (added : AddsSchemaDirectory directory before after name)
    (createdEq : ((disk working).createDirectories output).run before = (.ok (), created))
    (writes : Writes working output classes created after)
    (onPath : OnPath after working output (directory ++ [name]))
    (noDots : ".." ∉ Path.names output) :
    ∃ location, after.locate working output = .ok location ∧ directory ++ [name] <+: location := by
  by_cases isEmpty : output = ""
  · subst isEmpty
    obtain ⟨-, rfl⟩ := Prod.mk.inj createdEq
    obtain ⟨isSchema, missing, isDirectory⟩ := added
    rw [writes.schema_item?_eq isSchema] at isDirectory
    exact nomatch missing.symm.trans isDirectory
  · have isDirectory := isDirectory_of_created isEmpty createdEq writes
    obtain ⟨location, located, -⟩ := isDirectory_eq_true_iff.mp isDirectory
    exact ⟨location, located, prefix_of_onPath onPath noDots located⟩

/-- The second run creates no directory. -/
theorem createDirectories_again
    (createdEq : ((disk working).createDirectories output).run before = (.ok (), created))
    (writes : Writes working output classes created after) :
    ((disk working).createDirectories output).run after = (.ok (), after) := by
  by_cases isEmpty : output = ""
  · subst isEmpty
    rfl
  · exact createDirectories_of_isDirectory (isDirectory_of_created isEmpty createdEq writes)

/-- A run that has succeeded can be repeated unless it has created a directory under the name of a
schema file beside the root, which happens only on the way to its output. -/
theorem generate_regenerates (workingEntries : ∀ name ∈ working, Path.IsEntry name)
    (rootNamed : Path.fileName? root = some name) (isSchema : isSchemaFileName name = true)
    (succeeded : outcome (generate (disk working) namespaceName root output) before =
      (.ok paths, after)) :
    ∃ directory, before.LeadsToSchema working root directory name ∧
      Regenerates working directory namespaceName root output before after paths := by
  obtain ⟨repository, classes, created, loaded, synthesized, createdEq, written⟩ :=
    outcome_generate_eq_ok_iff.mp succeeded
  obtain ⟨location, resolved⟩ := exists_resolve_of_repository loaded
  obtain ⟨directory, leads⟩ := exists_leadsToSchema rootNamed isSchema resolved
  have entries := isEntry_of_resolve workingEntries leads.resolved
  have adds := createDirectories_onlyAddsAlong working output before
  rw [createdEq] at adds
  obtain ⟨-, writes⟩ := outcome_writeClasses_eq_ok written
  have around := extendsAroundSchemas_of_phases adds.addsDirectories writes
  have onPath : ∀ name, AddsSchemaDirectory directory before after name →
      OnPath after working output (directory ++ [name]) :=
    fun name added => onPath_of_addsSchemaDirectory adds writes added
  have repeats : (∀ name, ¬AddsSchemaDirectory directory before after name) →
      Repeats working namespaceName root output paths after := by
    intro noneAdded
    obtain ⟨again, writtenAgain, unchanged⟩ := exists_writeClasses_again written
    refine ⟨again, outcome_generate_eq_ok_iff.mpr ⟨repository, classes, after, ?_, synthesized,
      createDirectories_again createdEq writes, writtenAgain⟩, unchanged⟩
    exact around.repository_eq_ok entries leads noneAdded loaded
  refine ⟨directory, leads, ⟨?_, repeats⟩, onPath, ?_⟩
  · rintro ⟨again, succeededAgain, -⟩ added adds
    obtain ⟨other, -, -, loadedAgain, -⟩ := outcome_generate_eq_ok_iff.mp succeededAgain
    have addedEntry := isEntry_of_onPath workingEntries (onPath added adds) added (by simp)
    exact around.not_loaded entries leads addedEntry adds loadedAgain
  · intro noDots notInside
    refine repeats fun added adds => ?_
    obtain ⟨location, located, inside⟩ :=
      exists_locate_of_added adds createdEq writes (onPath added adds) noDots
    exact notInside location located added inside

end Generate

/-- A directory of schemas with one beside the root. -/
def laterSchemas : FileTree :=
  ⟨[(["w"], .directory),
    (["w", "s"], .directory),
    (["w", "s", "a.schema.json"], .file "\x7b\"type\":\"object\"\x7d".toUTF8),
    (["w", "s", "b.schema.json"],
      .file "\x7b\"type\":\"object\",\"title\":\"Beta\"\x7d".toUTF8)]⟩

theorem generate_laterSchemas :
    ∃ after,
      outcome (generate (disk ["w"]) defaultNamespace "s/a.schema.json" "c.schema.json/out")
          laterSchemas =
        (.ok ["c.schema.json/out/A.cs", "c.schema.json/out/Beta.cs"], after) ∧
      Regenerates ["w"] ["w", "s"] defaultNamespace "s/a.schema.json" "c.schema.json/out"
        laterSchemas after ["c.schema.json/out/A.cs", "c.schema.json/out/Beta.cs"] ∧
      Repeats ["w"] defaultNamespace "s/a.schema.json" "c.schema.json/out"
        ["c.schema.json/out/A.cs", "c.schema.json/out/Beta.cs"] after := by
  have properNames : ∀ name ∈ ["w"], Path.IsEntry name := by
    intro name member
    obtain rfl := List.mem_singleton.mp member
    exact ⟨⟨by decide, by decide⟩, by decide, by decide⟩
  have pathsEq :
      (outcome (generate (disk ["w"]) defaultNamespace "s/a.schema.json" "c.schema.json/out")
        laterSchemas).1.toOption =
          some ["c.schema.json/out/A.cs", "c.schema.json/out/Beta.cs"] := by
    decide +kernel
  have locatedEq :
      (outcome (generate (disk ["w"]) defaultNamespace "s/a.schema.json" "c.schema.json/out")
        laterSchemas).2.locate ["w"] "c.schema.json/out" = .ok ["w", "c.schema.json", "out"] := by
    decide +kernel
  have rootNamed : Path.fileName? "s/a.schema.json" = some "a.schema.json" := by decide
  have resolvedEq :
      laterSchemas.resolve ["w"] "s/a.schema.json" = .ok (["w", "s"] ++ ["a.schema.json"]) := by
    decide +kernel
  cases ran : outcome (generate (disk ["w"]) defaultNamespace "s/a.schema.json" "c.schema.json/out")
      laterSchemas with
  | mk result after =>
      rw [ran] at pathsEq locatedEq
      cases result with
      | error failure => nomatch pathsEq
      | ok paths =>
          obtain rfl := Option.some.inj pathsEq
          obtain ⟨directory, leads, regenerates⟩ :=
            generate_regenerates properNames rootNamed (by decide) ran
          have locationEq := Except.ok.inj (resolvedEq.symm.trans leads.resolved)
          obtain ⟨rfl, -⟩ := List.append_inj' locationEq rfl
          refine ⟨after, rfl, regenerates, regenerates.outside (by decide) ?_⟩
          intro location located name inside
          obtain rfl := Except.ok.inj (locatedEq.symm.trans located)
          have startsAlike := List.cons_prefix_cons.mp (List.cons_prefix_cons.mp inside).2
          exact absurd startsAlike.1 (by decide)

/-- A directory with one schema. -/
def loneSchema : FileTree :=
  ⟨[(["s"], .directory),
    (["s", "a.schema.json"], .file "\x7b\"type\":\"object\"\x7d".toUTF8)]⟩

/-- A path that goes up to an output directory outside the directory of the schemas leaves a
directory among them, which the second run takes for a schema. -/
theorem loneSchema_not_repeats :
    ∃ after,
      loneSchema.resolve ["s"] "a.schema.json" = .ok ["s", "a.schema.json"] ∧
      outcome (generate (disk ["s"]) defaultNamespace "a.schema.json" "x.schema.json/../../out")
          loneSchema = (.ok ["x.schema.json/../../out/A.cs"], after) ∧
      after.locate ["s"] "x.schema.json/../../out" = .ok ["out"] ∧
      ¬["s"] <+: ["out"] ∧
      ¬Repeats ["s"] defaultNamespace "a.schema.json" "x.schema.json/../../out"
        ["x.schema.json/../../out/A.cs"] after := by
  have pathsEq :
      (outcome (generate (disk ["s"]) defaultNamespace "a.schema.json" "x.schema.json/../../out")
        loneSchema).1.toOption = some ["x.schema.json/../../out/A.cs"] := by
    decide +kernel
  have locatedEq :
      (outcome (generate (disk ["s"]) defaultNamespace "a.schema.json" "x.schema.json/../../out")
        loneSchema).2.locate ["s"] "x.schema.json/../../out" = .ok ["out"] := by
    decide +kernel
  have failsAgain :
      (outcome (generate (disk ["s"]) defaultNamespace "a.schema.json" "x.schema.json/../../out")
        (outcome (generate (disk ["s"]) defaultNamespace "a.schema.json" "x.schema.json/../../out")
          loneSchema).2).1.toOption = none := by
    decide +kernel
  cases ran :
      outcome (generate (disk ["s"]) defaultNamespace "a.schema.json" "x.schema.json/../../out")
        loneSchema with
  | mk result after =>
      rw [ran] at pathsEq locatedEq failsAgain
      cases result with
      | error failure => nomatch pathsEq
      | ok paths =>
          obtain rfl := Option.some.inj pathsEq
          refine ⟨after, by decide +kernel, rfl, locatedEq, by decide, ?_⟩
          rintro ⟨again, ranAgain, -⟩
          rw [ranAgain] at failsAgain
          nomatch failsAgain

end SchemaClasses
