import Mathlib.Data.List.Nodup
import SchemaClasses.Proofs.Files.Directories
import SchemaClasses.Proofs.Run.Outcome

/-!
# Writing classes to a tree

The source files of a run are opened one after another.  The directories stay as they are meanwhile,
so that a file opens where it would have opened first, and a run that can open all its files writes
all of them.
-/

namespace SchemaClasses

open FileTree

/-- The path of the source file of a class. -/
def outputPath (output : String) (classDef : ClassDef) : String :=
  Path.join output (CSharp.fileName classDef)

/-- The file with the source of a class. -/
def sourceItem (classDef : ClassDef) : FileItem :=
  .file (CSharp.source classDef).toUTF8

section Classes

variable {before tree after : FileTree} {working : List String} {output : String}
  {classDef : ClassDef} {classes : List ClassDef} {paths : List String}

/-- Writing a text is opening its path and putting the text there. -/
theorem outcome_writeText (path text : String) (tree : FileTree) :
    outcome (attempt writeFailure ((disk working).writeText path text)) tree =
      match tree.openFile working path with
      | .ok location => (.ok (), tree.put location (.file text.toUTF8))
      | .error error => (.error (writeFailure error), tree) := by
  have runEq : ((disk working).writeText path text).run tree =
      change (fun tree => tree.writeFile working path text.toUTF8) tree := rfl
  rw [outcome_attempt, runEq, FileTree.change, writeFile_eq]
  cases tree.openFile working path <;> rfl

theorem outcome_writeText_eq_ok_iff {path text : String} {done : Unit} :
    outcome (attempt writeFailure ((disk working).writeText path text)) tree = (.ok done, after) ↔
      ∃ location, tree.openFile working path = .ok location ∧
        after = tree.put location (.file text.toUTF8) := by
  rw [outcome_writeText]
  cases tree.openFile working path with
  | error error => simp
  | ok location => simp [@eq_comm _ after]

theorem outcome_writeText_eq_error_iff {path text : String} {failure : Failure} :
    outcome (attempt writeFailure ((disk working).writeText path text)) tree =
        (.error failure, after) ↔
      ∃ error, tree.openFile working path = .error error ∧ failure = writeFailure error ∧
        after = tree := by
  rw [outcome_writeText]
  cases tree.openFile working path with
  | error error => simp [@eq_comm _ failure, @eq_comm _ after]
  | ok location => simp

/-- The first class is written to the file at which its path opens, and then the others are. -/
theorem outcome_writeClasses_cons_eq_ok_iff :
    outcome (writeClasses (disk working) output (classDef :: classes)) tree = (.ok paths, after) ↔
      ∃ location rest, tree.openFile working (outputPath output classDef) = .ok location ∧
        outcome (writeClasses (disk working) output classes)
            (tree.put location (sourceItem classDef)) = (.ok rest, after) ∧
          paths = outputPath output classDef :: rest := by
  rw [writeClasses]
  simp only [outcome_bind_eq_ok_iff, outcome_writeText_eq_ok_iff, outcome_pure]
  constructor
  · rintro ⟨_, _, ⟨location, opened, rfl⟩, rest, _, written, finished⟩
    obtain ⟨pathsEq, rfl⟩ := Prod.mk.inj finished
    exact ⟨location, rest, opened, written, (Except.ok.inj pathsEq).symm⟩
  · rintro ⟨location, rest, opened, written, rfl⟩
    exact ⟨(), _, ⟨location, opened, rfl⟩, rest, after, written, rfl⟩

/-- Writing classes fails at a class whose file does not open, once those before it have been
written. -/
theorem outcome_writeClasses_eq_error_iff {failure : Failure} :
    outcome (writeClasses (disk working) output classes) tree = (.error failure, after) ↔
      ∃ written stopped rest error, classes = written ++ stopped :: rest ∧
        outcome (writeClasses (disk working) output written) tree =
          (.ok (written.map (outputPath output)), after) ∧
        after.openFile working (outputPath output stopped) = .error error ∧
        failure = writeFailure error := by
  induction classes generalizing tree with
  | nil => simp [writeClasses]
  | cons first rest ih =>
      rw [writeClasses]
      simp only [outcome_bind_eq_error_iff, outcome_writeText_eq_error_iff,
        outcome_writeText_eq_ok_iff, ih, outcome_pure]
      constructor
      · rintro (⟨error, closed, rfl, rfl⟩ | ⟨_, _, ⟨location, opened, rfl⟩, later⟩)
        · exact ⟨[], first, rest, error, rfl, rfl, closed, rfl⟩
        · rcases later with ⟨written, stopped, unwritten, error, rfl, done, closed, rfl⟩ |
            ⟨_, _, _, finished⟩
          · refine ⟨first :: written, stopped, unwritten, error, rfl, ?_, closed, rfl⟩
            exact outcome_writeClasses_cons_eq_ok_iff.mpr ⟨location, _, opened, done, rfl⟩
          · nomatch finished
      · rintro ⟨written, stopped, unwritten, error, classesEq, done, closed, rfl⟩
        cases written with
        | nil =>
            obtain ⟨rfl, rfl⟩ := List.cons.inj classesEq
            obtain ⟨-, rfl⟩ := Prod.mk.inj done
            exact Or.inl ⟨error, closed, rfl, rfl⟩
        | cons second written =>
            obtain ⟨rfl, rfl⟩ := List.cons.inj classesEq
            obtain ⟨location, paths, opened, restDone, pathsEq⟩ :=
              outcome_writeClasses_cons_eq_ok_iff.mp done
            obtain rfl := (List.cons.inj pathsEq).2
            refine Or.inr ⟨(), _, ⟨location, opened, rfl⟩, Or.inl ?_⟩
            exact ⟨written, stopped, unwritten, error, rfl, restDone, closed, rfl⟩

/-- Classes that can all be opened at first can all be written. -/
theorem outcome_writeClasses_of_opens
    (opens : ∀ classDef ∈ classes,
      ∃ location, tree.openFile working (outputPath output classDef) = .ok location) :
    ∃ after, outcome (writeClasses (disk working) output classes) tree =
      (.ok (classes.map (outputPath output)), after) := by
  induction classes generalizing tree with
  | nil => exact ⟨tree, rfl⟩
  | cons classDef rest ih =>
      obtain ⟨location, opened⟩ := opens classDef List.mem_cons_self
      have same : SameDirectories tree (tree.put location (sourceItem classDef)) :=
        put_sameDirectories opened _
      have restOpens : ∀ later ∈ rest, ∃ place,
          (tree.put location (sourceItem classDef)).openFile working (outputPath output later) =
            .ok place := by
        intro later laterMem
        obtain ⟨place, laterOpened⟩ := opens later (List.mem_cons_of_mem _ laterMem)
        exact ⟨place, same.openFile laterOpened⟩
      obtain ⟨after, written⟩ := ih restOpens
      exact ⟨after, outcome_writeClasses_cons_eq_ok_iff.mpr ⟨location, _, opened, written, rfl⟩⟩

/-- What writing classes to a tree leaves behind. -/
structure Writes (working : List String) (output : String) (classes : List ClassDef)
    (before after : FileTree) : Prop where
  directories : SameDirectories before after
  opens : ∀ classDef ∈ classes,
    ∃ location, before.openFile working (outputPath output classDef) = .ok location
  kept : ∀ location,
    (∀ classDef ∈ classes, before.openFile working (outputPath output classDef) ≠ .ok location) →
      after.item? location = before.item? location
  /-- Where a class opens there is afterwards the source of a class that opens there. -/
  written : ∀ classDef ∈ classes, ∀ location,
    before.openFile working (outputPath output classDef) = .ok location →
      ∃ last ∈ classes, before.openFile working (outputPath output last) = .ok location ∧
        after.item? location = some (sourceItem last)

theorem Writes.nil (tree : FileTree) : Writes working output [] tree tree where
  directories := SameDirectories.refl tree
  opens _ member := nomatch member
  kept _ _ := rfl
  written _ member := nomatch member

/-- Writing one more class before others. -/
theorem Writes.cons {location : List String}
    (opened : before.openFile working (outputPath output classDef) = .ok location)
    (writes : Writes working output classes (before.put location (sourceItem classDef)) after) :
    Writes working output (classDef :: classes) before after := by
  have same : SameDirectories before (before.put location (sourceItem classDef)) :=
    put_sameDirectories opened _
  have keptByRest : ∀ place,
      (∀ later ∈ classes, before.openFile working (outputPath output later) ≠ .ok place) →
        after.item? place = (before.put location (sourceItem classDef)).item? place := by
    intro place notOpened
    refine writes.kept place fun later laterMem laterOpened => ?_
    exact notOpened later laterMem (same.openFile_iff.mpr laterOpened)
  have writtenByRest : ∀ later ∈ classes, ∀ place,
      before.openFile working (outputPath output later) = .ok place →
        ∃ last ∈ classDef :: classes,
          before.openFile working (outputPath output last) = .ok place ∧
            after.item? place = some (sourceItem last) := by
    intro later laterMem place laterOpened
    obtain ⟨last, lastMem, lastOpened, itemEq⟩ :=
      writes.written later laterMem place (same.openFile_iff.mp laterOpened)
    exact ⟨last, List.mem_cons_of_mem _ lastMem, same.openFile_iff.mpr lastOpened, itemEq⟩
  refine ⟨same.trans writes.directories, ?_, ?_, ?_⟩
  · intro member memberMem
    rcases List.mem_cons.mp memberMem with rfl | inRest
    · exact ⟨location, opened⟩
    · obtain ⟨place, placeOpened⟩ := writes.opens member inRest
      exact ⟨place, same.openFile_iff.mpr placeOpened⟩
  · intro place notOpened
    have placeNe : place ≠ location := by
      rintro rfl
      exact notOpened classDef List.mem_cons_self opened
    rw [keptByRest place fun later laterMem => notOpened later (List.mem_cons_of_mem _ laterMem)]
    exact item?_put_of_ne placeNe
  · intro member memberMem place memberOpened
    rcases List.mem_cons.mp memberMem with rfl | inRest
    · obtain rfl := Except.ok.inj (opened.symm.trans memberOpened)
      by_cases again : ∃ later ∈ classes,
          before.openFile working (outputPath output later) = .ok location
      · obtain ⟨later, laterMem, laterOpened⟩ := again
        exact writtenByRest later laterMem location laterOpened
      · have itemEq := keptByRest location fun later laterMem laterOpened =>
          again ⟨later, laterMem, laterOpened⟩
        rw [item?_put_self (openFile_ne_root opened)] at itemEq
        exact ⟨member, List.mem_cons_self, opened, itemEq⟩
    · exact writtenByRest member inRest place memberOpened

theorem outcome_writeClasses_eq_ok
    (written : outcome (writeClasses (disk working) output classes) tree = (.ok paths, after)) :
    paths = classes.map (outputPath output) ∧ Writes working output classes tree after := by
  induction classes generalizing tree paths with
  | nil =>
      obtain ⟨pathsEq, rfl⟩ := Prod.mk.inj written
      exact ⟨(Except.ok.inj pathsEq).symm, Writes.nil tree⟩
  | cons classDef rest ih =>
      obtain ⟨location, restPaths, opened, restWritten, rfl⟩ :=
        outcome_writeClasses_cons_eq_ok_iff.mp written
      obtain ⟨rfl, writes⟩ := ih restWritten
      exact ⟨rfl, Writes.cons opened writes⟩

theorem isName_fileName (noSlash : '/' ∉ classDef.name.toList) :
    Path.IsName (CSharp.fileName classDef) where
  notEmpty nameEq := by simpa [CSharp.fileName] using congrArg String.toList nameEq
  noSlash := by simpa [CSharp.fileName] using noSlash

/-- Classes with different names, none of which has a slash, never write the same file. -/
theorem Writes.sourceItem_of_opened (writes : Writes working output classes created after)
    (distinct : (classes.map ClassDef.name).Nodup)
    (noSlash : ∀ classDef ∈ classes, '/' ∉ classDef.name.toList) (member : classDef ∈ classes)
    {location : List String}
    (opened : created.openFile working (outputPath output classDef) = .ok location) :
    after.item? location = some (sourceItem classDef) := by
  obtain ⟨last, lastMem, lastOpened, itemEq⟩ := writes.written classDef member location opened
  have fileNameEq : CSharp.fileName last = CSharp.fileName classDef :=
    openFile_join_injective (isName_fileName (noSlash last lastMem))
      (isName_fileName (noSlash classDef member)) lastOpened opened
  have nameEq : last.name = classDef.name := by simpa [CSharp.fileName] using fileNameEq
  have same : last = classDef := List.inj_on_of_nodup_map distinct lastMem member nameEq
  exact same ▸ itemEq

end Classes
end SchemaClasses
