import SchemaClasses.Proofs.Classes.Batch
import SchemaClasses.Proofs.Run.Emission
import SchemaClasses.Proofs.Run.Loading

/-!
# Phases of a run

A run loads its documents, makes their classes and writes these.  Each phase finds what the one
before it leaves and has failures of its own, so that a failure tells how far the run has come.
-/

namespace SchemaClasses

open FileTree

/-- The failures of documents that have been loaded. -/
inductive Failure.OfDocument : Failure → Prop where
  | unsupported (document : String) (source : Unsupported) :
      OfDocument (.unsupported document source)
  | collision (scope : NameScope) (name : String) : OfDocument (.collision scope name)

namespace ClassDef

variable {namespaceName className fileName key : String} {node document : Schema.Node}
  {required taken : List String} {properties : List (String × Schema.Node)} {failure : Failure}

theorem propertyOf_fails (failed : propertyOf fileName required key node = .error failure) :
    failure.OfDocument := by
  unfold propertyOf at failed
  rcases Steps.bind_eq_error_iff.mp failed with mapped | ⟨descriptor, -, finished⟩
  · obtain ⟨cause, -, rfl⟩ := Steps.mapError_eq_error_iff.mp mapped
    exact .unsupported fileName cause
  · nomatch finished

theorem propertiesOf_fails
    (failed : propertiesOf className fileName required taken properties = .error failure) :
    failure.OfDocument := by
  induction properties generalizing taken with
  | nil => nomatch failed
  | cons entry rest ih =>
      obtain ⟨key, node⟩ := entry
      unfold propertiesOf at failed
      rcases Steps.bind_eq_error_iff.mp failed with atEntry | ⟨property, -, afterEntry⟩
      · exact propertyOf_fails atEntry
      · split at afterEntry
        · injection afterEntry with failureEq
          exact failureEq ▸ .collision _ _
        · rcases Steps.bind_eq_error_iff.mp afterEntry with atRest | ⟨properties, -, finished⟩
          · exact ih atRest
          · nomatch finished

theorem ofDocument_fails (failed : ofDocument namespaceName fileName document = .error failure) :
    failure.OfDocument := by
  unfold ofDocument at failed
  split at failed
  · injection failed with failureEq
    exact failureEq ▸ .unsupported _ _
  · rcases Steps.bind_eq_error_iff.mp failed with atProperties | ⟨properties, -, finished⟩
    · exact propertiesOf_fails atProperties
    · nomatch finished

end ClassDef

theorem Repository.classes_fails {repository : Repository} {namespaceName : String}
    {failure : Failure} (failed : repository.classes namespaceName = .error failure) :
    failure.OfDocument := by
  obtain ⟨before, entry, after, classes, -, -, -, fails⟩ := classes_eq_error_iff.mp failed
  rcases fails with unmade | ⟨classDef, other, otherClass, -, -, -, -, rfl⟩
  · exact ClassDef.ofDocument_fails unmade
  · exact .collision _ _

namespace FileTree

variable {tree : FileTree} {working : List String} {path directory root : String}
  {failure : Failure}

theorem document_fails (failed : tree.document working path = .error failure) :
    ∃ problem, failure = .load path problem := by
  rcases Steps.bind_eq_error_iff.mp failed with unread | ⟨text, -, refused⟩
  · obtain ⟨error, -, rfl⟩ := Steps.mapError_eq_error_iff.mp unread
    exact ⟨_, rfl⟩
  · obtain ⟨refusal, -, rfl⟩ := Steps.mapError_eq_error_iff.mp refused
    exact ⟨_, rfl⟩

theorem documents_fails {names : List String}
    (failed : tree.documents working directory names = .error failure) :
    ∃ path problem, failure = .load path problem := by
  induction names with
  | nil => nomatch failed
  | cons name names ih =>
      rw [documents, List.mapM_cons] at failed
      rcases Steps.bind_eq_error_iff.mp failed with atFirst | ⟨first, -, later⟩
      · exact ⟨_, document_fails (Steps.map_eq_error_iff.mp atFirst)⟩
      · rcases Steps.bind_eq_error_iff.mp later with atRest | ⟨rest, -, finished⟩
        · exact ih atRest
        · cases finished

/-- Whatever keeps a repository from being loaded, it is told with a path. -/
theorem repository_fails (failed : tree.repository working root = .error failure) :
    ∃ path problem, failure = .load path problem := by
  unfold repository at failed
  rcases Steps.bind_eq_error_iff.mp failed with unresolved | ⟨rootPath, -, failed⟩
  · obtain ⟨error, -, rfl⟩ := Steps.mapError_eq_error_iff.mp unresolved
    exact ⟨_, _, rfl⟩
  · split at failed
    · injection failed with failureEq
      exact ⟨_, _, failureEq.symm⟩
    · rcases Steps.bind_eq_error_iff.mp failed with atRoot | ⟨document, -, failed⟩
      · exact ⟨_, document_fails atRoot⟩
      · rcases Steps.bind_eq_error_iff.mp failed with unlisted | ⟨names, -, failed⟩
        · obtain ⟨error, -, rfl⟩ := Steps.mapError_eq_error_iff.mp unlisted
          exact ⟨_, _, rfl⟩
        · rcases Steps.bind_eq_error_iff.mp failed with atSiblings | ⟨siblings, -, finished⟩
          · exact documents_fails atSiblings
          · nomatch finished

end FileTree

section Generate

variable {before after : FileTree} {working : List String} {namespaceName root output : String}
  {classes written : List ClassDef} {paths : List String} {failure : Failure}
  {error : SystemError}

/-- A run goes through its phases, each on the tree that the one before leaves. -/
theorem outcome_generate_eq_ok_iff :
    outcome (generate (disk working) namespaceName root output) before = (.ok paths, after) ↔
      ∃ repository classes created, before.repository working root = .ok repository ∧
        repository.classes namespaceName = .ok classes ∧
        ((disk working).createDirectories output).run before = (.ok (), created) ∧
        outcome (writeClasses (disk working) output classes) created = (.ok paths, after) := by
  unfold generate writeOutput
  simp only [outcome_bind_eq_ok_iff, outcome_mk_pure, outcome_attempt, load_reads root before]
  constructor
  · rintro ⟨repository, _, loadedEq, classes, _, classesEq, _, created, createdEq, written⟩
    obtain ⟨loaded, rfl⟩ := Prod.mk.inj loadedEq
    obtain ⟨synthesized, rfl⟩ := Prod.mk.inj classesEq
    obtain ⟨succeeded, rfl⟩ := Prod.mk.inj createdEq
    refine ⟨repository, classes, _, loaded, synthesized, ?_, written⟩
    exact Prod.ext (Steps.mapError_eq_ok_iff.mp succeeded) rfl
  · rintro ⟨repository, classes, created, loaded, synthesized, createdEq, written⟩
    refine ⟨repository, before, by rw [loaded], classes, before, by rw [synthesized], (), created,
      ?_, written⟩
    rw [createdEq]
    rfl

/-- How the emission of classes is stopped: by the output directory, or by the file of the class
after those which have been written. -/
inductive StopsAfter (working : List String) (output : String) (classes : List ClassDef)
    (before after : FileTree) (error : SystemError) : List ClassDef → Prop where
  | atDirectory (failed : ((disk working).createDirectories output).run before =
      (.error error, after)) : StopsAfter working output classes before after error []
  | atClass {created : FileTree} {written rest : List ClassDef} {stopped : ClassDef}
      (createdEq : ((disk working).createDirectories output).run before = (.ok (), created))
      (classesEq : classes = written ++ stopped :: rest)
      (done : outcome (writeClasses (disk working) output written) created =
        (.ok (written.map (outputPath output)), after))
      (closed : ∀ content,
        after.writeFile working (outputPath output stopped) content = .error error) :
      StopsAfter working output classes before after error written

theorem outcome_writeOutput_eq_error
    (failed :
      outcome (writeOutput (disk working) output classes) before = (.error failure, after)) :
    ∃ error written, failure = writeFailure error ∧
      StopsAfter working output classes before after error written := by
  unfold writeOutput at failed
  rcases outcome_bind_eq_error_iff.mp failed with atDirectory | ⟨_, created, createdEq, atClass⟩
  · obtain ⟨resultEq, rfl⟩ := Prod.mk.inj atDirectory
    obtain ⟨error, errorEq, rfl⟩ := Steps.mapError_eq_error_iff.mp resultEq
    exact ⟨error, [], rfl, .atDirectory (Prod.ext errorEq rfl)⟩
  · obtain ⟨resultEq, rfl⟩ := Prod.mk.inj createdEq
    obtain ⟨written, stopped, rest, error, classesEq, done, closed, rfl⟩ :=
      outcome_writeClasses_eq_error_iff.mp atClass
    refine ⟨error, written, rfl, .atClass ?_ classesEq done fun content => ?_⟩
    · exact Prod.ext (Steps.mapError_eq_ok_iff.mp resultEq) rfl
    · rw [writeFile_eq, closed]
      rfl

/-- A run that fails has failed in one of its phases, and only the last of them changes the tree. -/
theorem outcome_generate_eq_error
    (failed : outcome (generate (disk working) namespaceName root output) before =
      (.error failure, after)) :
    (before.repository working root = .error failure ∧ after = before) ∨
      ∃ repository, before.repository working root = .ok repository ∧
        ((repository.classes namespaceName = .error failure ∧ after = before) ∨
          ∃ classes, repository.classes namespaceName = .ok classes ∧
            outcome (writeOutput (disk working) output classes) before =
              (.error failure, after)) := by
  unfold generate at failed
  rcases outcome_bind_eq_error_iff.mp failed with unloaded | ⟨repository, _, loaded, failed⟩
  · obtain ⟨loadFailed, rfl⟩ := Prod.mk.inj ((load_reads root before).symm.trans unloaded)
    exact Or.inl ⟨loadFailed, rfl⟩
  · obtain ⟨loadedEq, rfl⟩ := Prod.mk.inj ((load_reads root before).symm.trans loaded)
    refine Or.inr ⟨repository, loadedEq, ?_⟩
    rcases outcome_bind_eq_error_iff.mp failed with unmade | ⟨classes, _, made, unwritten⟩
    · obtain ⟨classesFailed, rfl⟩ := Prod.mk.inj unmade
      exact Or.inl ⟨classesFailed, rfl⟩
    · obtain ⟨classesEq, rfl⟩ := Prod.mk.inj made
      exact Or.inr ⟨classes, classesEq, unwritten⟩

end Generate
end SchemaClasses
