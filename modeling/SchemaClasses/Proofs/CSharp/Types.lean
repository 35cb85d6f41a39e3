import SchemaClasses.Proofs.CSharp.Unbroken
import SchemaClasses.Proofs.Member.MappedTypes
import SchemaClasses.Proofs.Schema.Enumerations

/-!
# Types on one line

The only texts of a schema in the spelling of a type are titles, of the node itself or of one inside
it.
-/

namespace SchemaClasses

namespace CSharp

variable {element : Target} {texts : List String}

-- The equations that Lean derives from the definition are slow to use, since they hold long texts.
theorem typeText_array (element : Descriptor) :
    typeText (.array element) = typeText element.target ++ "[]" := by
  cases element
  rfl

theorem typeText_arrayOf (element : Target) :
    typeText (.arrayOf element) = typeText element ++ "[]" :=
  typeText_array _

theorem typeText_dictionary (value : Target) : typeText (.dictionary value) =
    "System.Collections.Generic.Dictionary<string, " ++ typeText value ++ ">" :=
  rfl

theorem unbroken_scalarKeyword (kind : ScalarKind) : Unbroken (scalarKeyword kind) := by
  cases kind <;> decide

theorem unbroken_typeText_array {element : Descriptor} :
    Unbroken (typeText (.array element)) ↔ Unbroken (typeText element.target) := by
  rw [typeText_array, unbroken_append]
  exact and_iff_left (by decide)

theorem unbroken_typeText_dictionary (typed : Unbroken (typeText element)) :
    Unbroken (typeText (.dictionary element)) := by
  rw [typeText_dictionary, unbroken_append, unbroken_append]
  exact ⟨⟨by decide, typed⟩, by decide⟩

theorem unbroken_emptyArray (typed : Unbroken (typeText element)) :
    Unbroken (emptyArray element) := by
  unfold emptyArray
  simp only [unbroken_append]
  refine ⟨⟨⟨by decide, (unbroken_ofList _).mpr ?_⟩, by decide⟩, (unbroken_ofList _).mpr ?_⟩
  · exact fun c member => typed c (List.takeWhile_subset _ member)
  · exact fun c member => typed c (List.dropWhile_subset _ member)

/-- An array is on one line if its elements are. -/
theorem unbroken_arrayText (typed : Unbroken (typeText element)) :
    Unbroken (arrayText element texts) ↔ ∀ text ∈ texts, Unbroken text := by
  unfold arrayText
  cases texts with
  | nil => simpa using unbroken_emptyArray typed
  | cons text rest =>
      have opening : Unbroken "new " := by decide
      have brackets : Unbroken "[] \x7b " := by decide
      have closing : Unbroken " \x7d" := by decide
      have separator : Unbroken ", " := by decide
      simp [typed, opening, brackets, closing, unbroken_intercalate separator]

end CSharp

namespace Schema.Node

/-- A node is another one or stands somewhere inside it. -/
inductive Within : Node → Node → Prop
  | self (node : Node) : Within node node
  | property {inner outer : Node} {entry : String × Node} (member : entry ∈ outer.properties)
      (within : Within inner entry.2) : Within inner outer
  | items {inner items outer : Node} (itemsEq : outer.items = some items)
      (within : Within inner items) : Within inner outer
  | additional {inner values outer : Node} (additionalEq : outer.additional = some (.schema values))
      (within : Within inner values) : Within inner outer
  | part {inner part outer : Node} (member : part ∈ outer.allOf)
      (within : Within inner part) : Within inner outer
  | branch {inner branch outer : Node} (member : branch ∈ outer.anyOf)
      (within : Within inner branch) : Within inner outer

/-- No title in a node has a terminator. -/
def TitlesUnbroken (node : Node) : Prop :=
  ∀ inner : Node, Within inner node → ∀ title, inner.title = some title → Unbroken title

variable {node : Node} {pointer : Pointer} {target : Target}

theorem TitlesUnbroken.unbroken_trimmedTitle (titles : node.TitlesUnbroken) {title : String}
    (titleEq : node.trimmedTitle? = some title) : Unbroken title := by
  obtain ⟨given, givenEq, trimmed⟩ := Option.bind_eq_some_iff.mp titleEq
  intro c member
  rw [(Text.trimmed?_eq_some_iff.mp trimmed).1] at member
  exact titles node (.self node) given givenEq c (Text.mem_of_mem_trim member)

theorem TitlesUnbroken.unbroken_objectTarget (titles : node.TitlesUnbroken) :
    Unbroken (CSharp.typeText (Descriptor.objectTarget node)) := by
  unfold Descriptor.objectTarget
  split
  · next title titleEq => exact unbroken_className (titles.unbroken_trimmedTitle titleEq)
  · exact CSharp.unbroken_scalarKeyword .any

theorem TitlesUnbroken.unbroken_scalarTarget (titles : node.TitlesUnbroken) :
    Unbroken (CSharp.typeText (Descriptor.scalarTarget node)) := by
  unfold Descriptor.scalarTarget
  split
  case h_5 => exact titles.unbroken_objectTarget
  all_goals exact CSharp.unbroken_scalarKeyword _

theorem TitlesUnbroken.unbroken_dictionaryValueTarget (titles : node.TitlesUnbroken)
    (mapped : Descriptor.dictionaryValueTarget node pointer = .ok target) :
    Unbroken (CSharp.typeText target) := by
  unfold Descriptor.dictionaryValueTarget at mapped
  split at mapped
  · nomatch mapped
  · split at mapped
    · obtain rfl := Except.ok.inj mapped
      exact titles.unbroken_objectTarget
    · obtain rfl := Except.ok.inj mapped
      exact CSharp.unbroken_scalarKeyword _
    · obtain rfl := Except.ok.inj mapped
      exact CSharp.unbroken_scalarKeyword _
    · nomatch mapped
    · obtain rfl := Except.ok.inj mapped
      exact CSharp.unbroken_scalarKeyword _

theorem TitlesUnbroken.unbroken_ofElement {element : Descriptor} (titles : node.TitlesUnbroken)
    (mapped : Descriptor.ofElement node pointer = .ok element) :
    Unbroken (CSharp.typeText element.target) := by
  fun_induction Descriptor.ofElement node pointer generalizing element with
  | case1 => cases mapped
  | case2 => cases mapped
  | case3 node pointer items shapeEq ih =>
      obtain ⟨inner, innerEq, rfl⟩ := Steps.map_eq_ok_iff.mp mapped
      have itemsTitles : items.TitlesUnbroken := fun inner within =>
        titles inner (.items (items_of_shape_array shapeEq) within)
      exact CSharp.unbroken_typeText_array.mpr (ih itemsTitles innerEq)
  | case4 node pointer shapeEq =>
      obtain rfl := Except.ok.inj mapped
      exact CSharp.unbroken_typeText_array.mpr (CSharp.unbroken_scalarKeyword .any)
  | case5 node pointer values shapeEq =>
      obtain ⟨value, valueEq, rfl⟩ := Steps.map_eq_ok_iff.mp mapped
      have valuesTitles : values.TitlesUnbroken := fun inner within =>
        titles inner (.additional (additional_of_shape_dictionary shapeEq).1 within)
      exact CSharp.unbroken_typeText_dictionary
        (valuesTitles.unbroken_dictionaryValueTarget valueEq)
  | case6 node pointer fallback shapeEq =>
      obtain rfl := Except.ok.inj mapped
      have fallbackTitles : fallback.TitlesUnbroken := fun inner within =>
        titles inner (.branch (mem_anyOf_of_shape_enumeration shapeEq) within)
      exact fallbackTitles.unbroken_scalarTarget
  | case7 =>
      obtain rfl := Except.ok.inj mapped
      exact titles.unbroken_scalarTarget

/-- The type of a property is on one line if all titles in its schema are. -/
theorem TitlesUnbroken.unbroken_ofShape {publicName : String} {descriptor : Descriptor}
    (titles : node.TitlesUnbroken)
    (shaped : Descriptor.ofShape publicName node pointer = .ok descriptor) :
    Unbroken (CSharp.typeText descriptor.target) := by
  obtain ⟨supported, -, targetEq⟩ :=
    Descriptor.ofShape_hasTarget_iff.mp ⟨descriptor, shaped, rfl⟩
  have mapped : Descriptor.ofElement node pointer = .ok (.bare descriptor.target) :=
    Descriptor.ofElement_eq_ok_iff.mpr ⟨supported, congrArg Descriptor.bare targetEq⟩
  have typed := titles.unbroken_ofElement mapped
  exact typed

end Schema.Node
end SchemaClasses
