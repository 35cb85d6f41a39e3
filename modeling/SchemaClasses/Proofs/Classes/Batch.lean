import SchemaClasses.Classes.Repository
import SchemaClasses.Proofs.Classes.MemberNames
import SchemaClasses.Proofs.Entries
import SchemaClasses.Proofs.Pairing

/-!
# Classes of a batch

A batch takes documents exactly if each of them has a class and no two of the classes have the same
name.  The classes are then those of the documents, in the same order.
-/

namespace SchemaClasses

namespace ClassDef

variable {namespaceName fileName : String} {document : Schema.Node} {classDef : ClassDef}

/-- The class of a document is called by the name of the document, whatever members it has. -/
theorem name_of_ofDocument (made : ofDocument namespaceName fileName document = .ok classDef) :
    classDef.name = nameOf fileName document :=
  congrArg name (ofDocument_eq_ok_iff.mp made).2.2.2

theorem sourceFile_of_ofDocument
    (made : ofDocument namespaceName fileName document = .ok classDef) :
    classDef.sourceFile = fileName :=
  congrArg sourceFile (ofDocument_eq_ok_iff.mp made).2.2.2

end ClassDef

/-- An object-typed document without properties. -/
def Schema.Node.titled (title : String) : Schema.Node :=
  { Schema.Node.empty with
    title := some title
    typeKeyword := some (.single .object) }

/-- The class of a document with its file name, in a namespace. -/
def Makes (namespaceName : String) (entry : String × Schema.Node) (classDef : ClassDef) : Prop :=
  ClassDef.ofDocument namespaceName entry.1 entry.2 = .ok classDef

namespace Batch

variable {batch grown : Batch} {fileName name : String} {document : Schema.Node}
  {classDef : ClassDef} {entry : String × Schema.Node} {documents : List (String × Schema.Node)}
  {result : Except Failure ClassDef} {failure : Failure}

/-- The batch with one more class of a file. -/
def withClass (batch : Batch) (fileName : String) (classDef : ClassDef) : Batch :=
  { batch with
    classes := batch.classes ++ [classDef]
    sources := insertSorted classDef.name fileName batch.sources }

/-- Whether a document has a class is found out first, then whether the name is new, and only then
is the batch changed. -/
theorem outcome_add (fileName : String) (document : Schema.Node) (batch : Batch) :
    outcome (add fileName document) batch =
      match ClassDef.ofDocument batch.namespaceName fileName document with
      | .error failure => (.error failure, batch)
      | .ok classDef =>
          match batch.sources.lookup classDef.name with
          | some earlier =>
              (.error (.collision (.classes earlier fileName) classDef.name), batch)
          | none => (.ok classDef, batch.withClass fileName classDef) := by
  change outcome (ExceptT.mk (pure (ClassDef.ofDocument batch.namespaceName fileName document)) >>=
    _) batch = _
  rw [outcome_bind, outcome_mk_pure]
  cases ClassDef.ofDocument batch.namespaceName fileName document with
  | error failure => rfl
  | ok classDef =>
      dsimp only
      cases batch.sources.lookup classDef.name <;> rfl

theorem outcome_add_eq_ok_iff :
    outcome (add fileName document) batch = (.ok classDef, grown) ↔
      Makes batch.namespaceName (fileName, document) classDef ∧
        batch.sources.lookup classDef.name = none ∧ grown = batch.withClass fileName classDef := by
  rw [outcome_add, Makes]
  cases made : ClassDef.ofDocument batch.namespaceName fileName document with
  | error failure => simp
  | ok other =>
      dsimp only
      cases found : batch.sources.lookup other.name with
      | some earlier =>
          constructor
          · intro stopped
            nomatch stopped
          · rintro ⟨isOther, absent, -⟩
            rw [← Except.ok.inj isOther, found] at absent
            nomatch absent
      | none =>
          constructor
          · intro added
            obtain ⟨isOther, rfl⟩ := Prod.mk.inj added
            obtain rfl := Except.ok.inj isOther
            exact ⟨rfl, found, rfl⟩
          · rintro ⟨isOther, -, rfl⟩
            obtain rfl := Except.ok.inj isOther
            rfl

theorem outcome_add_eq_error_iff :
    outcome (add fileName document) batch = (.error failure, grown) ↔
      (ClassDef.ofDocument batch.namespaceName fileName document = .error failure ∨
        ∃ classDef earlier, Makes batch.namespaceName (fileName, document) classDef ∧
          batch.sources.lookup classDef.name = some earlier ∧
          failure = .collision (.classes earlier fileName) classDef.name) ∧
      grown = batch := by
  rw [outcome_add]
  unfold Makes
  cases made : ClassDef.ofDocument batch.namespaceName fileName document with
  | error other => simp [@eq_comm _ grown]
  | ok other =>
      dsimp only
      cases found : batch.sources.lookup other.name with
      | some earlier =>
          simp [@eq_comm _ grown, @eq_comm _ failure, found]
      | none => simp [found]

/-- The class names of a batch are distinct, and its sources give the file of each class. -/
structure Indexed (batch : Batch) : Prop where
  distinct : (batch.classes.map ClassDef.name).Nodup
  lookup_eq_some_iff : ∀ name fileName, batch.sources.lookup name = some fileName ↔
    ∃ classDef ∈ batch.classes, classDef.name = name ∧ classDef.sourceFile = fileName

theorem indexed_empty (namespaceName : String) : (empty namespaceName).Indexed where
  distinct := List.nodup_nil
  lookup_eq_some_iff _ _ := by simp [empty]

/-- The sources of a batch tell apart new names and those of its classes. -/
theorem Indexed.lookup_eq_none_iff (indexed : batch.Indexed) :
    batch.sources.lookup name = none ↔ ∀ earlier ∈ batch.classes, earlier.name ≠ name := by
  rw [Option.eq_none_iff_forall_ne_some]
  constructor
  · intro absent earlier member nameEq
    exact absent _ ((indexed.lookup_eq_some_iff _ _).mpr ⟨earlier, member, nameEq, rfl⟩)
  · intro fresh fileName found
    obtain ⟨earlier, member, nameEq, -⟩ := (indexed.lookup_eq_some_iff _ _).mp found
    exact fresh earlier member nameEq

theorem Indexed.withClass (indexed : batch.Indexed) (sourced : classDef.sourceFile = fileName)
    (fresh : ∀ earlier ∈ batch.classes, earlier.name ≠ classDef.name) :
    (batch.withClass fileName classDef).Indexed where
  distinct := by
    simp only [Batch.withClass, List.map_append, List.nodup_append]
    refine ⟨indexed.distinct, List.pairwise_singleton _ _, ?_⟩
    rintro _ nameMem _ isNew nameEq
    obtain ⟨earlier, earlierMem, rfl⟩ := List.mem_map.mp nameMem
    obtain rfl := List.mem_singleton.mp isNew
    exact fresh earlier earlierMem nameEq
  lookup_eq_some_iff name file := by
    simp only [Batch.withClass, lookup_insertSorted, List.mem_append, List.mem_singleton]
    by_cases isNew : name = classDef.name
    · subst isNew
      rw [if_pos rfl, Option.some.injEq, ← sourced]
      constructor
      · intro fileEq
        exact ⟨classDef, Or.inr rfl, rfl, fileEq⟩
      · rintro ⟨other, earlier | rfl, nameEq, fileEq⟩
        · exact absurd nameEq (fresh other earlier)
        · exact fileEq
    · rw [if_neg isNew, indexed.lookup_eq_some_iff]
      constructor
      · rintro ⟨other, earlier, nameEq, fileEq⟩
        exact ⟨other, Or.inl earlier, nameEq, fileEq⟩
      · rintro ⟨other, earlier | rfl, nameEq, fileEq⟩
        · exact ⟨other, earlier, nameEq, fileEq⟩
        · exact absurd nameEq.symm isNew

/-- Adding a document keeps a batch indexed, whether or not it fails. -/
theorem Indexed.outcome_add (indexed : batch.Indexed)
    (added : outcome (add fileName document) batch = (result, grown)) : grown.Indexed := by
  cases result with
  | error failure =>
      obtain ⟨-, rfl⟩ := outcome_add_eq_error_iff.mp added
      exact indexed
  | ok classDef =>
      obtain ⟨makes, absent, rfl⟩ := outcome_add_eq_ok_iff.mp added
      exact indexed.withClass (ClassDef.sourceFile_of_ofDocument makes)
        (indexed.lookup_eq_none_iff.mp absent)

/-- What keeps a document from having a class beside other classes: it has none, or its name is that
of another class. -/
def Refused (namespaceName : String) (others : List ClassDef) (entry : String × Schema.Node)
    (failure : Failure) : Prop :=
  ClassDef.ofDocument namespaceName entry.1 entry.2 = .error failure ∨
    ∃ classDef, Makes namespaceName entry classDef ∧ ∃ other ∈ others,
      other.name = classDef.name ∧
        failure = .collision (.classes other.sourceFile entry.1) classDef.name

theorem Indexed.add_eq_ok_iff (indexed : batch.Indexed) :
    outcome (add fileName document) batch = (.ok classDef, grown) ↔
      Makes batch.namespaceName (fileName, document) classDef ∧
        (∀ earlier ∈ batch.classes, earlier.name ≠ classDef.name) ∧
        grown = batch.withClass fileName classDef := by
  rw [outcome_add_eq_ok_iff, indexed.lookup_eq_none_iff]

theorem Indexed.add_eq_error_iff (indexed : batch.Indexed) :
    outcome (add fileName document) batch = (.error failure, grown) ↔
      Refused batch.namespaceName batch.classes (fileName, document) failure ∧ grown = batch := by
  rw [outcome_add_eq_error_iff]
  refine and_congr_left fun _ => or_congr_right (exists_congr fun classDef => ?_)
  constructor
  · rintro ⟨_, made, found, failureEq⟩
    obtain ⟨other, member, nameEq, rfl⟩ := (indexed.lookup_eq_some_iff _ _).mp found
    exact ⟨made, other, member, nameEq, failureEq⟩
  · rintro ⟨made, other, member, nameEq, failureEq⟩
    have found := (indexed.lookup_eq_some_iff _ _).mpr ⟨other, member, nameEq, rfl⟩
    exact ⟨other.sourceFile, made, found, failureEq⟩

/-- The classes after documents have been added to a batch, if none of them failed. -/
def collected (batch : Batch) (documents : List (String × Schema.Node)) :
    Except Failure (List ClassDef) :=
  (outcome (addAll documents) batch).1.map fun _ => (outcome (addAll documents) batch).2.classes

theorem collected_cons :
    batch.collected (entry :: documents) =
      match outcome (add entry.1 entry.2) batch with
      | (.ok _, grown) => grown.collected documents
      | (.error failure, _) => .error failure := by
  obtain ⟨fileName, document⟩ := entry
  simp only [collected, addAll, outcome_bind]
  obtain ⟨result, grown⟩ := outcome (add fileName document) batch
  cases result <;> rfl

theorem Indexed.collected_cons_of_fresh (indexed : batch.Indexed)
    (made : Makes batch.namespaceName entry classDef)
    (fresh : ∀ earlier ∈ batch.classes, earlier.name ≠ classDef.name) :
    batch.collected (entry :: documents) =
      (batch.withClass entry.1 classDef).collected documents := by
  rw [collected_cons, indexed.add_eq_ok_iff.mpr ⟨made, fresh, rfl⟩]

theorem ne_name_of_nodup_append {classes rest : List ClassDef}
    (distinct : ((classes ++ classDef :: rest).map ClassDef.name).Nodup) :
    ∀ earlier ∈ classes, earlier.name ≠ classDef.name := by
  intro earlier member nameEq
  rw [List.map_append, List.map_cons, List.nodup_append] at distinct
  exact distinct.2.2 _ (List.mem_map_of_mem member) _ List.mem_cons_self nameEq

/-- Documents are added without a failure exactly if each of them has a class, and all class names
are distinct. -/
theorem Indexed.collected_eq_ok_iff {all : List ClassDef} (indexed : batch.Indexed) :
    batch.collected documents = .ok all ↔
      ∃ classes, List.Forall₂ (Makes batch.namespaceName) documents classes ∧
        all = batch.classes ++ classes ∧ (all.map ClassDef.name).Nodup := by
  induction documents generalizing batch with
  | nil =>
      simp only [List.forall₂_nil_left_iff, exists_eq_left, List.append_nil]
      constructor
      · intro collectedEq
        obtain rfl := Except.ok.inj collectedEq
        exact ⟨rfl, indexed.distinct⟩
      · rintro ⟨rfl, -⟩
        rfl
  | cons entry rest ih =>
      constructor
      · intro collectedEq
        rw [collected_cons] at collectedEq
        cases added : outcome (add entry.1 entry.2) batch with
        | mk result grown =>
            rw [added] at collectedEq
            cases result with
            | error failure => nomatch collectedEq
            | ok classDef =>
                obtain ⟨made, -, rfl⟩ := indexed.add_eq_ok_iff.mp added
                obtain ⟨classes, madeRest, rfl, distinct⟩ :=
                  (ih (indexed.outcome_add added)).mp collectedEq
                exact ⟨classDef :: classes, .cons made madeRest, List.append_assoc .., distinct⟩
      · rintro ⟨_, made, rfl, distinct⟩
        obtain ⟨classDef, classes, madeFirst, madeRest, rfl⟩ :=
          List.forall₂_cons_left_iff.mp made
        have fresh := ne_name_of_nodup_append distinct
        have grownIndexed :=
          indexed.withClass (ClassDef.sourceFile_of_ofDocument madeFirst) fresh
        rw [indexed.collected_cons_of_fresh madeFirst fresh]
        exact (ih grownIndexed).mpr ⟨classes, madeRest, List.append_cons .., distinct⟩

/-- The first document counts that is refused beside the classes before it. -/
theorem Indexed.collected_eq_error_iff (indexed : batch.Indexed) :
    batch.collected documents = .error failure ↔
      ∃ before entry after classes, documents = before ++ entry :: after ∧
        List.Forall₂ (Makes batch.namespaceName) before classes ∧
        ((batch.classes ++ classes).map ClassDef.name).Nodup ∧
        Refused batch.namespaceName (batch.classes ++ classes) entry failure := by
  induction documents generalizing batch with
  | nil =>
      constructor
      · intro collectedEq
        nomatch collectedEq
      · rintro ⟨before, entry, after, -, documentsEq, -⟩
        simp at documentsEq
  | cons first rest ih =>
      constructor
      · intro collectedEq
        rw [collected_cons] at collectedEq
        cases added : outcome (add first.1 first.2) batch with
        | mk result grown =>
            rw [added] at collectedEq
            cases result with
            | error other =>
                obtain rfl := Except.error.inj collectedEq
                obtain ⟨refused, -⟩ := indexed.add_eq_error_iff.mp added
                refine ⟨[], first, rest, [], rfl, .nil, ?_, ?_⟩
                · simpa using indexed.distinct
                · simpa using refused
            | ok classDef =>
                obtain ⟨made, -, rfl⟩ := indexed.add_eq_ok_iff.mp added
                obtain ⟨before, entry, after, classes, rfl, madeRest, distinct, refused⟩ :=
                  (ih (indexed.outcome_add added)).mp collectedEq
                have classesEq : (batch.withClass first.1 classDef).classes ++ classes =
                    batch.classes ++ classDef :: classes := List.append_assoc ..
                rw [classesEq] at distinct refused
                exact ⟨first :: before, entry, after, classDef :: classes, rfl,
                  .cons made madeRest, distinct, refused⟩
      · rintro ⟨before, entry, after, classes, documentsEq, made, distinct, refused⟩
        cases made with
        | nil =>
            obtain ⟨rfl, -⟩ := List.cons.inj documentsEq
            rw [List.append_nil] at refused
            rw [collected_cons, indexed.add_eq_error_iff.mpr ⟨refused, rfl⟩]
        | cons madeFirst madeRest =>
            obtain ⟨rfl, rfl⟩ := List.cons.inj documentsEq
            have fresh := ne_name_of_nodup_append distinct
            have grownIndexed :=
              indexed.withClass (ClassDef.sourceFile_of_ofDocument madeFirst) fresh
            rw [indexed.collected_cons_of_fresh madeFirst fresh]
            rw [List.append_cons] at distinct refused
            exact (ih grownIndexed).mpr
              ⟨_, entry, after, _, rfl, madeRest, distinct, refused⟩

end Batch

namespace Repository

/-- The classes of a repository are those of its object-typed documents, if their names are
distinct. -/
theorem classes_eq_ok_iff {repository : Repository} {namespaceName : String}
    {classes : List ClassDef} :
    repository.classes namespaceName = .ok classes ↔
      List.Forall₂ (Makes namespaceName) repository.objectDocuments classes ∧
        (classes.map ClassDef.name).Nodup := by
  change (Batch.empty namespaceName).collected repository.objectDocuments = .ok classes ↔ _
  rw [(Batch.indexed_empty namespaceName).collected_eq_ok_iff]
  constructor
  · rintro ⟨_, made, rfl, distinct⟩
    exact ⟨made, distinct⟩
  · rintro ⟨made, distinct⟩
    exact ⟨classes, made, rfl, distinct⟩

/-- What keeps a document from having a class beside those of other documents: it has none, or its
name is that of another class. -/
def FailsBeside (namespaceName : String) (others : List (String × Schema.Node))
    (entry : String × Schema.Node) (failure : Failure) : Prop :=
  ClassDef.ofDocument namespaceName entry.1 entry.2 = .error failure ∨
    ∃ classDef other otherClass, Makes namespaceName entry classDef ∧ other ∈ others ∧
      Makes namespaceName other otherClass ∧ otherClass.name = classDef.name ∧
      failure = .collision (.classes other.1 entry.1) classDef.name

theorem refused_iff_failsBeside {namespaceName : String} {others : List (String × Schema.Node)}
    {classes : List ClassDef} {entry : String × Schema.Node} {failure : Failure}
    (made : List.Forall₂ (Makes namespaceName) others classes) :
    Batch.Refused namespaceName classes entry failure ↔
      FailsBeside namespaceName others entry failure := by
  refine or_congr_right (exists_congr fun classDef => ?_)
  constructor
  · rintro ⟨madeEntry, otherClass, member, nameEq, rfl⟩
    obtain ⟨other, otherMem, madeOther⟩ := exists_left_of_mem made member
    refine ⟨other, otherClass, madeEntry, otherMem, madeOther, nameEq, ?_⟩
    rw [ClassDef.sourceFile_of_ofDocument madeOther]
  · rintro ⟨other, otherClass, madeEntry, otherMem, madeOther, nameEq, rfl⟩
    obtain ⟨sameClass, member, madeSame⟩ := exists_right_of_mem made otherMem
    obtain rfl := Except.ok.inj (madeOther.symm.trans madeSame)
    refine ⟨madeEntry, otherClass, member, nameEq, ?_⟩
    rw [ClassDef.sourceFile_of_ofDocument madeOther]

/-- A repository has no classes because of its first document that has none beside those of the
documents before it. -/
theorem classes_eq_error_iff {repository : Repository} {namespaceName : String}
    {failure : Failure} :
    repository.classes namespaceName = .error failure ↔
      ∃ before entry after classes, repository.objectDocuments = before ++ entry :: after ∧
        List.Forall₂ (Makes namespaceName) before classes ∧ (classes.map ClassDef.name).Nodup ∧
        FailsBeside namespaceName before entry failure := by
  change (Batch.empty namespaceName).collected repository.objectDocuments = .error failure ↔ _
  rw [(Batch.indexed_empty namespaceName).collected_eq_error_iff]
  refine exists_congr fun before => exists_congr fun entry => exists_congr fun after =>
    exists_congr fun classes => and_congr_right fun _ => and_congr_right fun made =>
    and_congr_right fun _ => ?_
  exact refused_iff_failsBeside made

theorem map_name_of_makes {namespaceName : String} {documents : List (String × Schema.Node)}
    {classes : List ClassDef} (made : List.Forall₂ (Makes namespaceName) documents classes) :
    classes.map ClassDef.name = documents.map fun entry => ClassDef.nameOf entry.1 entry.2 :=
  map_eq_map_of_related made fun _ _ madeEntry => ClassDef.name_of_ofDocument madeEntry

end Repository
end SchemaClasses
