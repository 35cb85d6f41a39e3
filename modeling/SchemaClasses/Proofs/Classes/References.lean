import SchemaClasses.Proofs.Classes.Batch
import SchemaClasses.Proofs.Member.MappedTypes
import SchemaClasses.Proofs.Text.Blank
import SchemaClasses.Proofs.Text.CasedLetters
import SchemaClasses.Proofs.Text.Fields

/-!
# References to classes

An object in a property schema stands for the class of the document with its title.  The class names
itself by one rule and the property names the class by another, which knows neither the file of the
document nor a name for want of a title.  Both rules give the same name, wherever in the type of the
property the object stands.
-/

namespace SchemaClasses

namespace Text

/-- A text in which every run of spaces is one space. -/
def squeezeSpaces : List Char → List Char
  | [] => []
  | c :: rest =>
      if c = ' ' ∧ rest.head? = some ' ' then squeezeSpaces rest else c :: squeezeSpaces rest

/-- Two texts differ in nothing but the lengths of their runs of spaces. -/
def SameUpToSpaces (first second : String) : Prop :=
  squeezeSpaces first.toList = squeezeSpaces second.toList

instance (first second : String) : Decidable (SameUpToSpaces first second) :=
  inferInstanceAs (Decidable (_ = _))

end Text

namespace Naming

open Text

variable {first second title given : String}

theorem fieldsAfter_squeezeSpaces (field text : List Char) :
    fieldsAfter (· = ' ') field (squeezeSpaces text) = fieldsAfter (· = ' ') field text := by
  induction text generalizing field with
  | nil => rfl
  | cons c rest ih =>
      rw [squeezeSpaces]
      split
      · next doubled =>
          -- The first of two spaces ends a field, and the second one has none to end.
          obtain ⟨rfl, isSpace⟩ := doubled
          obtain ⟨others, rfl⟩ := List.head?_eq_some_iff.mp isSpace
          rw [ih]
          simp [fieldsAfter]
      · simp only [fieldsAfter, ih]

/-- The words of a title do not depend on how far they are apart. -/
theorem titleWords_eq_of_sameUpToSpaces (same : SameUpToSpaces first second) :
    titleWords first.toList = titleWords second.toList := by
  calc
    titleWords first.toList = titleWords (squeezeSpaces first.toList) :=
      (fieldsAfter_squeezeSpaces [] first.toList).symm
    _ = titleWords (squeezeSpaces second.toList) := by rw [same]
    _ = titleWords second.toList := fieldsAfter_squeezeSpaces [] second.toList

theorem className_eq_of_sameUpToSpaces (same : SameUpToSpaces first second) :
    className first = className second := by
  rw [className, className, titleWords_eq_of_sameUpToSpaces same]

/-- A title that is not blank has a word, and every word shows in the class name. -/
theorem className_ne_empty (trimmed : trimmed? given = some title) : className title ≠ "" := by
  obtain ⟨titleEq, notNil⟩ := trimmed?_eq_some_iff.mp trimmed
  obtain ⟨c, rest, beginsEq⟩ := List.exists_cons_of_ne_nil notNil
  have notSpace : c ≠ ' ' := by
    rintro rfl
    have begins : (trim given.toList).head? = some ' ' := by
      rw [← titleEq, beginsEq, List.head?_cons]
    exact absurd (isBlank_of_head?_trim begins) (by decide)
  have inWords : c ∈ (titleWords title.toList).flatten := by
    rw [titleWords, flatten_fields, beginsEq]
    simp [notSpace]
  obtain ⟨word, isWord, inWord⟩ := List.mem_flatten.mp inWords
  have raised : upperFirst (lower word) ≠ [] := by
    have notNil : lower word ≠ [] := lower_ne_nil (List.ne_nil_of_mem inWord)
    obtain ⟨d, behind, lowerEq⟩ := List.exists_cons_of_ne_nil notNil
    rw [lowerEq, upperFirst]
    exact List.append_ne_nil_of_left_ne_nil (upperChar_ne_nil d) _
  intro isEmpty
  have noCharacters := congrArg String.toList isEmpty
  rw [className, String.toList_ofList, String.toList_empty, List.flatMap_eq_nil_iff] at noCharacters
  exact raised (noCharacters word isWord)

end Naming

/-- A step from a type to the type of its elements or of its values. -/
inductive TypeStep where
  | element
  | value
  deriving DecidableEq, Repr

/-- The type at a position inside a type. -/
def Target.at? : List TypeStep → Target → Option Target
  | [], target => some target
  | .element :: steps, .array { target, .. } => target.at? steps
  | .value :: steps, .dictionary value => value.at? steps
  | _ :: _, _ => none

theorem Target.at?_arrayOf (steps : List TypeStep) (element : Target) :
    (arrayOf element).at? (.element :: steps) = element.at? steps :=
  rfl

namespace Schema.Node

/-- A schema gives the type at a position in the type of a property: as the schema of the property
or of elements at any depth, as the fallback of an enumeration in such a place, or as the schema of
the values of a dictionary there. -/
inductive GivesTypeAt (source : Node) : Node → List TypeStep → Prop
  | scalar (shapeEq : source.shape = .scalar) : GivesTypeAt source source []
  | fallback {node : Node} (shapeEq : node.shape = .enumeration source) : GivesTypeAt source node []
  | values {node : Node} (shapeEq : node.shape = .dictionary source) :
      GivesTypeAt source node [.value]
  | items {node items : Node} {steps : List TypeStep} (shapeEq : node.shape = .array (some items))
      (within : GivesTypeAt source items steps) : GivesTypeAt source node (.element :: steps)

variable {node source : Node} {steps : List TypeStep} {title : String}

theorem declaredTypes_of_isObjectTyped (isObject : source.isObjectTyped = true) :
    source.declaredTypes = [.object] :=
  of_decide_eq_true isObject

theorem at?_mappedTarget (gives : source.GivesTypeAt node steps)
    (isObject : source.isObjectTyped = true) (titled : source.trimmedTitle? = some title) :
    (Descriptor.mappedTarget node).at? steps = some (.object (Naming.className title)) := by
  have declared := declaredTypes_of_isObjectTyped isObject
  have scalarEq : Descriptor.scalarTarget source = .object (Naming.className title) := by
    simp only [Descriptor.scalarTarget, declared, Descriptor.objectTarget, titled]
  have valueEq : Descriptor.valueType source = .object (Naming.className title) := by
    simp only [Descriptor.valueType, declared, titled]
  induction gives with
  | scalar shapeEq =>
      rw [Descriptor.mappedTarget_of_end (by simp [shapeEq])]
      simp only [Descriptor.baseTarget, shapeEq, scalarEq, Target.at?]
  | fallback shapeEq =>
      rw [Descriptor.mappedTarget_of_end (by simp [shapeEq])]
      simp only [Descriptor.baseTarget, shapeEq, scalarEq, Target.at?]
  | values shapeEq =>
      rw [Descriptor.mappedTarget_of_end (by simp [shapeEq])]
      simp only [Descriptor.baseTarget, shapeEq, valueEq, Target.at?]
  | items shapeEq _ ih =>
      rw [Descriptor.mappedTarget_of_array shapeEq, Target.at?_arrayOf, ih]

end Schema.Node

namespace Descriptor

open Schema

variable {key title : String} {node source document : Node} {steps : List TypeStep}
  {requiredByParent : Bool} {pointer : Pointer} {descriptor : Descriptor}

/-- The type at a position is the class of a document, whatever file the document is in. -/
structure RefersTo (document : Node) (steps : List TypeStep) (target : Target) : Prop where
  named : ∀ fileName, target.at? steps = some (.object (ClassDef.nameOf fileName document))
  notEmpty : ∀ fileName, ClassDef.nameOf fileName document ≠ ""
  anyFile : ∀ fileName otherFile,
    ClassDef.nameOf fileName document = ClassDef.nameOf otherFile document
  /-- Once the document has a class, that class is the type. -/
  generated : ∀ namespaceName fileName classDef,
    ClassDef.ofDocument namespaceName fileName document = .ok classDef →
      target.at? steps = some (.object classDef.name)

/-- An object refers to the class of a document with its title, at every position in the type of a
property. -/
theorem ofProperty_refersTo {sourceTitle : String} (gives : source.GivesTypeAt node steps)
    (isObject : source.isObjectTyped = true)
    (sourceTitled : source.trimmedTitle? = some sourceTitle)
    (titled : document.trimmedTitle? = some title)
    (sameTitle : Text.SameUpToSpaces sourceTitle title)
    (mapped : ofProperty key node requiredByParent pointer = .ok descriptor) :
    RefersTo document steps descriptor.target := by
  have notEmpty : Naming.className title ≠ "" := by
    obtain ⟨given, -, trimmed⟩ := Option.bind_eq_some_iff.mp titled
    exact Naming.className_ne_empty trimmed
  have nameEq : ∀ fileName, ClassDef.nameOf fileName document = Naming.className title :=
    ClassDef.nameOf_of_trimmedTitle titled notEmpty
  have named : descriptor.target.at? steps = some (.object (Naming.className title)) := by
    rw [target_eq_mappedTarget mapped, Node.at?_mappedTarget gives isObject sourceTitled,
      Naming.className_eq_of_sameUpToSpaces sameTitle]
  refine ⟨fun fileName => ?_, fun fileName => ?_, fun fileName otherFile => ?_, ?_⟩
  · rw [nameEq, named]
  · rw [nameEq]
    exact notEmpty
  · rw [nameEq, nameEq]
  · intro namespaceName fileName classDef made
    rw [ClassDef.name_of_ofDocument made, nameEq, named]

/-- A document with a title of two words. -/
def childDocument : Node :=
  { Node.empty with typeKeyword := some (.single .object), title := some "Root Child" }

/-- An object with the same words for its title, further apart. -/
def spacedChild : Node :=
  { Node.empty with typeKeyword := some (.several [.object]), title := some "\tRoot   Child " }

/-- Tables of dictionaries of such objects. -/
def tablesOfChildren : Node :=
  { Node.empty with
    typeKeyword := some (.single .array)
    items := some { Node.empty with
      typeKeyword := some (.single .array)
      items := some { Node.empty with
        typeKeyword := some (.single .object)
        additional := some (.schema spacedChild) } } }

theorem refersTo_tablesOfChildren :
    ∃ descriptor,
      spacedChild.GivesTypeAt tablesOfChildren [.element, .element, .value] ∧
        spacedChild.isObjectTyped = true ∧ spacedChild.trimmedTitle? = some "Root   Child" ∧
        childDocument.trimmedTitle? = some "Root Child" ∧
        Text.SameUpToSpaces "Root   Child" "Root Child" ∧
        ofProperty "tables" tablesOfChildren true Pointer.root = .ok descriptor ∧
        descriptor.target.at? [.element, .element, .value] =
          some (.object (ClassDef.nameOf "any.json" childDocument)) := by
  have textEq : (ofProperty "tables" tablesOfChildren true Pointer.root).toOption.map
      (fun descriptor => descriptor.target.text) =
        some "array of array of dictionary of RootChild" := by
    decide +kernel
  obtain ⟨descriptor, mapped, -⟩ := Steps.toOption_map_eq_some_iff.mp textEq
  have gives : spacedChild.GivesTypeAt tablesOfChildren [.element, .element, .value] :=
    .items rfl (.items rfl (.values rfl))
  have sourceTitled : spacedChild.trimmedTitle? = some "Root   Child" := by decide +kernel
  have titled : childDocument.trimmedTitle? = some "Root Child" := by decide +kernel
  have sameTitle : Text.SameUpToSpaces "Root   Child" "Root Child" := by decide
  have refers := ofProperty_refersTo gives rfl sourceTitled titled sameTitle mapped
  exact ⟨descriptor, gives, rfl, sourceTitled, titled, sameTitle, mapped, refers.named "any.json"⟩

end Descriptor
end SchemaClasses
