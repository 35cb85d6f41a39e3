import SchemaClasses.Proofs.Classes.Batch
import SchemaClasses.Proofs.Naming.Marks
import SchemaClasses.Proofs.Run.Emission

/-!
# Places of the output

A class goes to the output directory under its own name if the title of its document has no slash,
and classes that do never share a file.  A slash in a title is one in the path as well: it can lead
out of the output directory, and two titles can lead to the same file.
-/

namespace SchemaClasses

open FileTree

/-- A path names the item of the given name in the directory of another path. -/
structure Path.IsChild (directory path name : String) : Prop where
  names : Path.names path = Path.names directory ++ [name]
  isAbsolute : Path.isAbsolute path = Path.isAbsolute directory

/-- The path of a class names a file in the output directory, called after the class. -/
def IsPlaced (output : String) (classDef : ClassDef) : Prop :=
  Path.IsChild output (outputPath output classDef) (CSharp.fileName classDef)

variable {tree : FileTree} {working location : List String} {namespaceName output : String}
  {repository : Repository} {classes : List ClassDef} {classDef first second : ClassDef}
  {entry : String × Schema.Node}

theorem isPlaced_iff : IsPlaced output classDef ↔ '/' ∉ classDef.name.toList := by
  constructor
  · intro placed
    have isMember : CSharp.fileName classDef ∈ Path.names (outputPath output classDef) := by
      rw [placed.names]
      exact List.mem_append_right _ (List.mem_singleton_self _)
    have noSlash := (Path.isName_of_mem_names isMember).noSlash
    rw [CSharp.fileName, String.toList_append, List.mem_append, not_or] at noSlash
    exact noSlash.1
  · intro noSlash
    have isName := isName_fileName noSlash
    exact ⟨Path.names_join output isName, Path.isAbsolute_join output isName⟩

theorem IsPlaced.isName (placed : IsPlaced output classDef) :
    Path.IsName (CSharp.fileName classDef) :=
  isName_fileName (isPlaced_iff.mp placed)

theorem isPlaced_iff_of_makes (made : Makes namespaceName entry classDef) :
    IsPlaced output classDef ↔ ∀ title, entry.2.title = some title → '/' ∉ title.toList := by
  rw [isPlaced_iff, ClassDef.name_of_ofDocument made, ClassDef.slash_mem_nameOf_iff]
  simp

theorem IsPlaced.ne_location (placed : IsPlaced output first) (otherPlaced : IsPlaced output second)
    (nameNe : first.name ≠ second.name)
    (opened : tree.openFile working (outputPath output first) = .ok location) :
    tree.openFile working (outputPath output second) ≠ .ok location := by
  intro otherOpened
  have fileNameEq := openFile_join_injective placed.isName otherPlaced.isName opened otherOpened
  exact nameNe (by simpa [CSharp.fileName] using fileNameEq)

/-- Where the classes of a repository go. -/
structure PlacesOutput (repository : Repository) (output : String) (classes : List ClassDef) :
    Prop where
  placed : List.Forall₂
    (fun entry classDef => IsPlaced output classDef ↔
      ∀ title, entry.2.title = some title → '/' ∉ title.toList)
    repository.objectDocuments classes
  inDirectory : ∀ (tree : FileTree) working, ∀ classDef ∈ classes, IsPlaced output classDef →
    ∀ location, tree.openFile working (outputPath output classDef) = .ok location →
      ∃ directory, tree.walk (startOf working output) (Path.names output) = .ok directory ∧
        location = directory ++ [CSharp.fileName classDef]
  apart : ∀ (tree : FileTree) working, classes.Pairwise fun first second =>
    IsPlaced output first → IsPlaced output second →
      ∀ location, tree.openFile working (outputPath output first) = .ok location →
        tree.openFile working (outputPath output second) ≠ .ok location

/-- The classes of documents whose titles have no slash are placed in the output directory, and no
two of them in the same file. -/
theorem classes_placesOutput (synthesized : repository.classes namespaceName = .ok classes)
    (output : String) : PlacesOutput repository output classes := by
  obtain ⟨made, distinct⟩ := Repository.classes_eq_ok_iff.mp synthesized
  refine ⟨made.imp fun _ _ madeEntry => isPlaced_iff_of_makes madeEntry, ?_, ?_⟩
  · intro tree working classDef _ placed location opened
    exact openFile_join placed.isName opened
  · intro tree working
    refine (List.pairwise_map.mp distinct).imp fun nameNe placed otherPlaced location opened => ?_
    exact placed.ne_location otherPlaced nameNe opened

/-- A repository with two titles that lead out of the output directory. -/
def straySchemas : Repository :=
  .ofDocuments "a.schema.json"
    [("a.schema.json", .titled "../x"), ("b.schema.json", .titled "..//x"),
      ("c.schema.json", .titled "Point")]

theorem exists_classes_straySchemas :
    ∃ first second point, straySchemas.classes defaultNamespace = .ok [first, second, point] ∧
      first.name = "../x" ∧ second.name = "..//x" ∧ point.name = "Point" := by
  have namesEq :
      (straySchemas.classes defaultNamespace).toOption.map (List.map ClassDef.name) =
        some ["../x", "..//x", "Point"] := by
    decide +kernel
  obtain ⟨classes, synthesized, names⟩ := Steps.toOption_map_eq_some_iff.mp namesEq
  obtain ⟨first, others, rfl, firstName, othersNames⟩ := List.map_eq_cons_iff.mp names
  obtain ⟨second, others, rfl, secondName, othersNames⟩ := List.map_eq_cons_iff.mp othersNames
  obtain ⟨point, others, rfl, pointName, noNames⟩ := List.map_eq_cons_iff.mp othersNames
  obtain rfl := List.map_eq_nil_iff.mp noNames
  exact ⟨first, second, point, synthesized, firstName, secondName, pointName⟩

theorem placesOutput_straySchemas :
    ∃ classes, straySchemas.classes defaultNamespace = .ok classes ∧
      PlacesOutput straySchemas "out" classes ∧ ∃ point ∈ classes, IsPlaced "out" point := by
  obtain ⟨first, second, point, synthesized, -, -, pointName⟩ := exists_classes_straySchemas
  refine ⟨_, synthesized, classes_placesOutput synthesized "out", point, by simp, ?_⟩
  rw [isPlaced_iff, pointName]
  decide

/-- Two classes of different names whose files are the same one, beside the output directory and not
in it. -/
theorem straySchemas_share_file :
    ∃ first second point, straySchemas.classes defaultNamespace = .ok [first, second, point] ∧
      first.name ≠ second.name ∧ ¬IsPlaced "out" first ∧ ¬IsPlaced "out" second ∧
      ∃ tree : FileTree, tree.walk ["s"] (Path.names "out") = .ok ["s", "out"] ∧
        tree.openFile ["s"] (outputPath "out" first) = .ok ["s", "x.cs"] ∧
        tree.openFile ["s"] (outputPath "out" second) = .ok ["s", "x.cs"] := by
  obtain ⟨first, second, point, synthesized, firstName, secondName, -⟩ :=
    exists_classes_straySchemas
  refine ⟨first, second, point, synthesized, ?_, ?_, ?_,
    ⟨[(["s"], .directory), (["s", "out"], .directory)]⟩, by decide, ?_, ?_⟩
  · rw [firstName, secondName]
    decide
  · rw [isPlaced_iff, firstName]
    decide
  · rw [isPlaced_iff, secondName]
    decide
  · rw [outputPath, CSharp.fileName, firstName]
    decide
  · rw [outputPath, CSharp.fileName, secondName]
    decide

end SchemaClasses
