import SchemaClasses.Proofs.Classes.Batch
import SchemaClasses.Proofs.Classes.Collisions
import SchemaClasses.Proofs.Classes.Repository
import SchemaClasses.Proofs.Naming.ClassNames
import SchemaClasses.Proofs.Text.Blank

/-!
# Titles in a run

A document with a title has its class name from it.  Two such documents of one run get into each
other's way if their titles have the same words, in whatever case and however far apart.
-/

namespace SchemaClasses

namespace Text

variable {text : List Char}

/-- No blank stands at either end of a text. -/
structure IsTrimmed (text : List Char) : Prop where
  start : ∀ c ∈ text.head?, isBlank c = false
  finish : ∀ c ∈ text.getLast?, isBlank c = false

instance (text : List Char) : Decidable (IsTrimmed text) :=
  decidable_of_iff
      (text.head?.all (!isBlank ·) = true ∧ text.getLast?.all (!isBlank ·) = true) <| by
    simp only [Option.all_eq_true, Bool.not_eq_true']
    exact ⟨fun ⟨start, finish⟩ => ⟨start, finish⟩, fun ⟨start, finish⟩ => ⟨start, finish⟩⟩

theorem trimEnd_eq_self (finish : ∀ c ∈ text.getLast?, isBlank c = false) :
    trimEnd text = text := by
  induction text with
  | nil => rfl
  | cons d rest ih =>
      cases rest with
      | nil =>
          have notBlank : isBlank d = false := finish d rfl
          rw [trimEnd_cons, if_neg]
          · rfl
          · rw [notBlank]
            exact fun removed => nomatch removed.2
      | cons e rest =>
          have kept : trimEnd (e :: rest) = e :: rest :=
            ih fun c isLast => finish c (by simpa using isLast)
          rw [trimEnd_cons, kept, if_neg fun removed => nomatch removed.1]

theorem IsTrimmed.trim_eq (trimmed : IsTrimmed text) : trim text = text := by
  have noneDropped : text.dropWhile isBlank = text := by
    cases text with
    | nil => rfl
    | cons c rest => rw [List.dropWhile_cons_of_neg (by simp [trimmed.start c rfl])]
  rw [trim, noneDropped, trimEnd_eq_self trimmed.finish]

end Text

/-- A document has a title of ASCII words that begin with letters, without blanks around it. -/
structure Schema.Node.IsTitled (document : Schema.Node) (title : String) : Prop where
  title_eq : document.title = some title
  worded : Naming.IsWorded title
  trimmed : Text.IsTrimmed title.toList
  notEmpty : title ≠ ""

namespace ClassDef

open Naming Schema

variable {namespaceName fileName title : String} {document : Node}

theorem toList_className_ne_nil (titled : document.IsTitled title) :
    (className title).toList ≠ [] := by
  have isTitle : title.toList ≠ [] := by
    intro none
    exact titled.notEmpty (String.toList_eq_nil_iff.mp none)
  obtain ⟨c, rest, titleEq⟩ := List.exists_cons_of_ne_nil isTitle
  have notSpace : c ≠ ' ' := by
    rintro rfl
    have isBlank := titled.trimmed.start ' ' (by rw [titleEq]; rfl)
    exact absurd isBlank (by decide)
  have inWords : c ∈ (titleWords title.toList).flatten := by
    rw [titleWords, Text.flatten_fields, titleEq]
    simp [notSpace]
  obtain ⟨word, member, -⟩ := List.mem_flatten.mp inWords
  obtain ⟨first, letters, rfl, -⟩ := titled.worded.lettered.exists_eq_cons member
  rw [className_of_ascii titled.worded.ascii, String.toList_ofList]
  have inName : first.toUpper ∈ (titleWords title.toList).flatMap capitalized :=
    List.mem_flatMap.mpr ⟨_, member, List.mem_cons_self⟩
  exact List.ne_nil_of_mem inName

theorem nameOf_of_isTitled (titled : document.IsTitled title) (fileName : String) :
    nameOf fileName document = className title := by
  have trimmedEq : document.trimmedTitle? = some title := by
    rw [Node.trimmedTitle?, titled.title_eq, Option.bind_some, Text.trimmed?_eq_some_iff,
      titled.trimmed.trim_eq]
    refine ⟨rfl, fun none => titled.notEmpty (String.toList_eq_nil_iff.mp none)⟩
  refine nameOf_of_trimmedTitle trimmedEq ?_ fileName
  intro isEmpty
  exact toList_className_ne_nil titled (by rw [isEmpty]; rfl)

/-- The names of two titled documents agree if their titles have the same words. -/
theorem nameOf_eq_nameOf_iff {other : Node} {otherTitle otherFile : String}
    (titled : document.IsTitled title) (otherTitled : other.IsTitled otherTitle) :
    nameOf fileName document = nameOf otherFile other ↔
      smallWords title = smallWords otherTitle := by
  rw [nameOf_of_isTitled titled, nameOf_of_isTitled otherTitled]
  exact className_eq_iff titled.worded otherTitled.worded

/-- A document by itself has no collision with another. -/
theorem ofDocument_ne_classes {first second name : String} :
    ofDocument namespaceName fileName document ≠
      .error (.collision (.classes first second) name) := by
  intro failed
  nomatch (exists_collidesAt_of_ofDocument failed).1

end ClassDef

namespace Repository

open Naming Schema

variable {root namespaceName firstTitle secondTitle : String}
  {documents before after : List (String × Node)} {first second : String × Node}
  {classes : List ClassDef} {firstClass secondClass : ClassDef}

theorem eq_of_mem_objectDocuments (firstMem : first ∈ (ofDocuments root documents).objectDocuments)
    (secondMem : second ∈ (ofDocuments root documents).objectDocuments)
    (sameName : first.1 = second.1) : first = second := by
  have increase := keysIncrease_objectDocuments (keysIncrease_ofDocuments root documents)
  have firstFound := increase.mem_iff_lookup.mp firstMem
  have secondFound := increase.mem_iff_lookup.mp secondMem
  rw [sameName, secondFound] at firstFound
  exact Prod.ext sameName (Option.some.inj firstFound).symm

/-- A run comes to a document that has a class, after documents whose classes do not stand in each
other's way. -/
structure ComesTo (namespaceName root : String) (documents before : List (String × Node))
    (entry : String × Node) : Prop where
  documents_eq : ∃ after, (ofDocuments root documents).objectDocuments = before ++ entry :: after
  made : ∃ classes, List.Forall₂ (Makes namespaceName) before classes ∧
    (classes.map ClassDef.name).Nodup
  makes : ∃ classDef, Makes namespaceName entry classDef

/-- A run ends at a document because of an earlier one exactly if both give the same name. -/
theorem ComesTo.classes_eq_collision_iff
    (comes : ComesTo namespaceName root documents before second) (firstMem : first ∈ before) :
    (ofDocuments root documents).classes namespaceName =
        .error (.collision (.classes first.1 second.1) (ClassDef.nameOf second.1 second.2)) ↔
      ClassDef.nameOf first.1 first.2 = ClassDef.nameOf second.1 second.2 := by
  obtain ⟨⟨after, documentsEq⟩, ⟨classes, made, distinct⟩, ⟨secondClass, makes⟩⟩ := comes
  obtain ⟨firstClass, -, makesFirst⟩ := exists_right_of_mem made firstMem
  rw [classes_eq_error_iff, ← ClassDef.name_of_ofDocument makesFirst,
    ← ClassDef.name_of_ofDocument makes]
  constructor
  · rintro ⟨others, entry, later, otherClasses, othersEq, -, -, fails⟩
    rcases fails with unmade | ⟨classDef, other, otherClass, -, otherMem, makesOther, sameName,
        collides⟩
    · exact absurd unmade ClassDef.ofDocument_ne_classes
    · injection collides with scopeEq nameEq
      injection scopeEq with sameFile
      have firstIn : first ∈ (ofDocuments root documents).objectDocuments := by
        rw [documentsEq]
        exact List.mem_append_left _ firstMem
      have otherIn : other ∈ (ofDocuments root documents).objectDocuments := by
        rw [othersEq]
        exact List.mem_append_left _ otherMem
      -- No two documents of a run are in files of the same name.
      obtain rfl := eq_of_mem_objectDocuments firstIn otherIn sameFile
      obtain rfl := Except.ok.inj (makesFirst.symm.trans makesOther)
      rw [sameName, nameEq]
  · intro sameName
    exact ⟨before, second, after, classes, documentsEq, made, distinct,
      Or.inr ⟨secondClass, first, firstClass, makes, firstMem, makesFirst, sameName, rfl⟩⟩

/-- A run over titled documents has all their classes if each has one and no two titles have the
same words. -/
theorem exists_classes_iff_of_isTitled
    (titled : ∀ entry ∈ (ofDocuments root documents).objectDocuments,
      ∃ title, entry.2.IsTitled title) :
    (∃ classes, (ofDocuments root documents).classes namespaceName = .ok classes) ↔
      (∀ entry ∈ (ofDocuments root documents).objectDocuments,
        ∃ classDef, Makes namespaceName entry classDef) ∧
      ((ofDocuments root documents).objectDocuments.map fun entry =>
        smallWords (entry.2.title.getD "")).Nodup := by
  have sameDistinct : ((ofDocuments root documents).objectDocuments.map fun entry =>
        ClassDef.nameOf entry.1 entry.2).Nodup ↔
      ((ofDocuments root documents).objectDocuments.map fun entry =>
        smallWords (entry.2.title.getD "")).Nodup := by
    rw [List.Nodup, List.Nodup, List.pairwise_map, List.pairwise_map]
    refine List.Pairwise.iff_of_mem fun {entry other} member otherMem => ?_
    obtain ⟨title, isTitled⟩ := titled entry member
    obtain ⟨otherTitle, otherTitled⟩ := titled other otherMem
    rw [isTitled.title_eq, otherTitled.title_eq]
    exact not_congr (ClassDef.nameOf_eq_nameOf_iff isTitled otherTitled)
  simp only [classes_eq_ok_iff]
  constructor
  · rintro ⟨classes, made, distinct⟩
    rw [map_name_of_makes made] at distinct
    refine ⟨fun entry member => ?_, sameDistinct.mp distinct⟩
    obtain ⟨classDef, -, makes⟩ := exists_right_of_mem made member
    exact ⟨classDef, makes⟩
  · rintro ⟨each, distinct⟩
    obtain ⟨classes, made⟩ := exists_related_of_forall each
    refine ⟨classes, made, ?_⟩
    rw [map_name_of_makes made]
    exact sameDistinct.mpr distinct

/-- Class names identify titles up to case and spacing, and no further.  A space in a title only
ends a word; titles of words that begin with letters give the same name exactly if they have the
same words; and documents that have such titles, of one word at least, stop a run exactly then. -/
theorem className_identifies_titles :
    (∀ first second : String,
      className (first ++ " " ++ second) = className first ++ className second) ∧
    (∀ first second : String, IsWorded first → IsWorded second →
      (className first = className second ↔ smallWords first = smallWords second)) ∧
    (∀ (namespaceName root : String) (documents before : List (String × Node))
      (first second : String × Node) (firstTitle secondTitle : String),
      ComesTo namespaceName root documents before second → first ∈ before →
      first.2.IsTitled firstTitle → second.2.IsTitled secondTitle →
      ((ofDocuments root documents).classes namespaceName =
          .error (.collision (.classes first.1 second.1) (className secondTitle)) ↔
        smallWords firstTitle = smallWords secondTitle)) ∧
    ∀ (namespaceName root : String) (documents : List (String × Node)),
      (∀ entry ∈ (ofDocuments root documents).objectDocuments,
        ∃ title, entry.2.IsTitled title) →
      ((∃ classes, (ofDocuments root documents).classes namespaceName = .ok classes) ↔
        (∀ entry ∈ (ofDocuments root documents).objectDocuments,
          ∃ classDef, Makes namespaceName entry classDef) ∧
        ((ofDocuments root documents).objectDocuments.map fun entry =>
          smallWords (entry.2.title.getD "")).Nodup) := by
  refine ⟨className_append_space, fun first second => className_eq_iff, ?_, ?_⟩
  · intro namespaceName root documents before first second firstTitle secondTitle comes firstMem
      firstTitled secondTitled
    rw [← ClassDef.nameOf_eq_nameOf_iff firstTitled secondTitled,
      ← comes.classes_eq_collision_iff firstMem, ClassDef.nameOf_of_isTitled secondTitled]
  · exact fun namespaceName root documents => exists_classes_iff_of_isTitled

/-- Two documents whose titles have the same words, in another case and further apart. -/
def sameTitles : List (String × Node) :=
  [("a.schema.json", .titled "glTF Child of Root"),
    ("b.schema.json", .titled "GLTF  child Of root")]

theorem isTitled_sameTitles :
    Node.IsTitled (.titled "glTF Child of Root") "glTF Child of Root" ∧
      Node.IsTitled (.titled "GLTF  child Of root") "GLTF  child Of root" :=
  ⟨⟨rfl, by decide, by decide, by decide⟩,
    ⟨rfl, by decide, by decide, by decide⟩⟩

theorem className_identifies_sameTitles :
    className "glTF Child of Root" = className "GLTF  child Of root" ∧
      (ofDocuments "a.schema.json" sameTitles).classes defaultNamespace =
        .error (.collision (.classes "a.schema.json" "b.schema.json") "GltfChildOfRoot") ∧
      ¬∃ classes, (ofDocuments "a.schema.json" sameTitles).classes defaultNamespace =
        .ok classes := by
  obtain ⟨firstTitled, secondTitled⟩ := isTitled_sameTitles
  have sameWords : smallWords "glTF Child of Root" = smallWords "GLTF  child Of root" := by decide
  have objectsEq : (ofDocuments "a.schema.json" sameTitles).objectDocuments = sameTitles := rfl
  have comes : ComesTo defaultNamespace "a.schema.json" sameTitles
      [("a.schema.json", .titled "glTF Child of Root")]
      ("b.schema.json", .titled "GLTF  child Of root") :=
    ⟨⟨[], rfl⟩, ⟨_, .cons rfl .nil, List.nodup_singleton _⟩, ⟨_, rfl⟩⟩
  have bothTitled : ∀ entry ∈ (ofDocuments "a.schema.json" sameTitles).objectDocuments,
      ∃ title, entry.2.IsTitled title := by
    intro entry member
    rw [objectsEq, sameTitles, List.mem_pair] at member
    rcases member with rfl | rfl
    · exact ⟨_, firstTitled⟩
    · exact ⟨_, secondTitled⟩
  obtain ⟨-, nameEq_iff, collides_iff, classes_iff⟩ := className_identifies_titles
  refine ⟨(nameEq_iff _ _ firstTitled.worded secondTitled.worded).mpr sameWords, ?_, ?_⟩
  · exact (collides_iff _ _ _ _ _ _ _ _ comes List.mem_cons_self firstTitled secondTitled).mpr
      sameWords
  · rw [classes_iff _ _ _ bothTitled, objectsEq]
    rintro ⟨-, distinct⟩
    exact absurd distinct (by decide)

/-- Two documents with empty titles, which have no words. -/
def emptyTitles : List (String × Node) :=
  [("a.schema.json", .titled ""), ("b.schema.json", .titled "")]

/-- Documents with empty titles are named after their files, and do not collide for having the same
words. -/
theorem emptyTitles_not_collide :
    IsWorded "" ∧ Text.IsTrimmed "".toList ∧
      (∀ entry ∈ emptyTitles, entry.2.title = some "") ∧
      ComesTo defaultNamespace "a.schema.json" emptyTitles [("a.schema.json", .titled "")]
        ("b.schema.json", .titled "") ∧
      ∃ classes, (ofDocuments "a.schema.json" emptyTitles).classes defaultNamespace = .ok classes ∧
        classes.map ClassDef.name = ["A", "B"] := by
  have namesEq : ((ofDocuments "a.schema.json" emptyTitles).classes defaultNamespace).toOption.map
      (List.map ClassDef.name) = some ["A", "B"] := by
    decide +kernel
  refine ⟨by decide, by decide, ?_, ?_, Steps.toOption_map_eq_some_iff.mp namesEq⟩
  · intro entry member
    rw [emptyTitles, List.mem_pair] at member
    rcases member with rfl | rfl
    · rfl
    · rfl
  · exact ⟨⟨[], rfl⟩, ⟨_, .cons rfl .nil, List.nodup_singleton _⟩, ⟨_, rfl⟩⟩

end Repository
end SchemaClasses
