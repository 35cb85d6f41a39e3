import SchemaClasses.Generation
import SchemaClasses.Proofs.Member.Mapping
import SchemaClasses.Proofs.PointerText
import SchemaClasses.Proofs.Schema.DistinctKeys
import SchemaClasses.Proofs.Schema.Places

/-!
# What an unsupported schema is blamed on

Every construct that is not supported comes with a pointer.  Followed from the root of the document,
the pointer leads to a spot that shows the construct, at whatever depth the rule that found it was
applied.
-/

namespace SchemaClasses

open Schema

/-- What is seen at the spot where a construct is reported. -/
inductive Construct.Blames : Construct → Spot → Prop
  | reference {target : String} {place : Place} (named : place.node.reference = some target) :
      Blames (.reference target) (.node place)
  /-- The part is the first one that is a reference. -/
  | composedReference {target : String} {document part : Node} {index : Nat}
      (named : part.reference = some target)
      (first : ∀ earlier ∈ document.allOf.take index, earlier.reference = none) :
      Blames (.composedReference target) (.node (.part (.document document) index part))
  | dictionaryOnNonObject {owner : Place} {values : Node}
      (notObject : owner.node.isObjectTyped = false) :
      Blames .dictionaryOnNonObject (.node (.additional owner values))
  | dictionaryDefault {owner : Place} {values : Node} {value : Json.Value}
      (shapeEq : owner.node.shape = .dictionary values) (notNull : value.isNull = false) :
      Blames .dictionaryDefault (.default owner value)
  | dictionaryValueType {name : TypeName} {owner : Place} {values : Node} {keyword : TypeKeyword}
      (shapeEq : owner.node.shape = .dictionary values) (declared : values.declaredTypes = [name]) :
      Blames (.dictionaryValueType name) (.types (.additional owner values) keyword)
  | defaultValue {expected : Target} {owner : Place} {found : Json.Value}
      (notNull : found.isNull = false) :
      Blames (.defaultValue expected found) (.default owner found)
  | propertyName {key : String} {document node : Node} :
      Blames (.propertyName key) (.node (.property (.document document) key node))

/-- The pointer leads to a spot that shows the construct. -/
def Unsupported.Located (document : Node) (unsupported : Unsupported) : Prop :=
  ∃ spot, (Place.document document).walk? unsupported.pointer.segments = some spot ∧
    unsupported.construct.Blames spot

namespace Unsupported

variable {document : Node} {place : Place} {pointer : Pointer} {construct : Construct}
  {unsupported : Unsupported} {value : Json.Value}

theorem located_here (reached : place.Reached document pointer)
    (blames : construct.Blames (.node place)) :
    Located document ⟨pointer, construct⟩ :=
  ⟨.node place, reached.walk_here, blames⟩

theorem located_default (reached : place.Reached document pointer)
    (initialEq : place.node.initialValue? = some value)
    (blames : construct.Blames (.default place value)) :
    Located document ⟨pointer.child "default", construct⟩ := by
  have keywordEq := (Node.initialValue?_eq_some_iff.mp initialEq).1
  refine ⟨.default place value, ?_, blames⟩
  rw [reached.walk_child]
  simp [Place.walk?, keywordEq]

/-- A default that has no literal is shown by the default itself. -/
theorem located_refusedDefault {expected : Target} (reached : place.Reached document pointer)
    (initialEq : place.node.initialValue? = some value) :
    Located document ⟨pointer.child "default", .defaultValue expected value⟩ :=
  located_default reached initialEq
    (.defaultValue (Node.initialValue?_eq_some_iff.mp initialEq).2)

end Unsupported

namespace Descriptor

open Unsupported

variable {document node values : Node} {place : Place} {pointer : Pointer}
  {unsupported : Unsupported} {publicName key : String}

theorem dictionaryValueTarget_located (reached : place.Reached document pointer)
    (shapeEq : place.node.shape = .dictionary values)
    (failed : dictionaryValueTarget values (pointer.child "additionalProperties") =
      .error unsupported) :
    Located document unsupported := by
  have additionalEq := (Node.additional_of_shape_dictionary shapeEq).1
  have inside := reached.additional additionalEq
  unfold dictionaryValueTarget at failed
  split at failed
  · next target named =>
      injection failed with unsupportedEq
      subst unsupportedEq
      exact located_here inside (.reference named)
  · split at failed
    · cases failed
    · cases failed
    · cases failed
    · next name _ _ _ declared =>
        injection failed with unsupportedEq
        subst unsupportedEq
        obtain ⟨keyword, keywordEq⟩ : ∃ keyword, values.typeKeyword = some keyword := by
          cases keywordEq : values.typeKeyword with
          | some keyword => exact ⟨keyword, rfl⟩
          | none => simp [Node.declaredTypes, keywordEq] at declared
        refine ⟨.types (.additional place values) keyword, ?_,
          .dictionaryValueType shapeEq declared⟩
        rw [inside.walk_child]
        simp [Place.walk?, Place.node, keywordEq]
    · cases failed

theorem misplacedDictionary_located (reached : place.Reached document pointer)
    (shapeEq : place.node.shape = .misplacedDictionary) :
    Located document ⟨pointer.child "additionalProperties", .dictionaryOnNonObject⟩ := by
  obtain ⟨values, additionalEq, notObject⟩ := Node.additional_of_shape_misplaced shapeEq
  exact located_here (reached.additional additionalEq) (.dictionaryOnNonObject notObject)

/-- An array inside arrays is reached by as many steps to the items. -/
theorem ofElement_located (reached : place.Reached document pointer)
    (failed : ofElement place.node pointer = .error unsupported) :
    Located document unsupported := by
  generalize nodeEq : place.node = node at failed
  fun_induction ofElement node pointer generalizing place with
  | case1 node pointer target shapeEq =>
      subst nodeEq
      injection failed with unsupportedEq
      subst unsupportedEq
      exact located_here reached (.reference (Node.shape_eq_reference_iff.mp shapeEq))
  | case2 node pointer shapeEq =>
      subst nodeEq
      injection failed with unsupportedEq
      subst unsupportedEq
      exact misplacedDictionary_located reached shapeEq
  | case3 node pointer items shapeEq ih =>
      subst nodeEq
      have itemsEq := Node.items_of_shape_array shapeEq
      exact ih (reached.items itemsEq) rfl (Steps.map_eq_error_iff.mp failed)
  | case4 node pointer shapeEq => nomatch failed
  | case5 node pointer values shapeEq =>
      subst nodeEq
      exact dictionaryValueTarget_located reached shapeEq (Steps.map_eq_error_iff.mp failed)
  | case6 node pointer fallback shapeEq => nomatch failed
  | case7 node pointer shapeEq => nomatch failed

theorem ofArray_located {items : Option Node} (reached : place.Reached document pointer)
    (shapeEq : place.node.shape = .array items)
    (failed : ofArray publicName place.node items pointer = .error unsupported) :
    Located document unsupported := by
  rcases ofArray_eq_error_iff.mp failed with failed | ⟨element, value, -, initialEq, -, rfl⟩
  · cases items with
    | none => nomatch failed
    | some items =>
        have inside := reached.items (Node.items_of_shape_array shapeEq)
        exact ofElement_located inside failed
  · exact located_refusedDefault reached initialEq

theorem ofDictionary_located (reached : place.Reached document pointer)
    (shapeEq : place.node.shape = .dictionary values)
    (failed : ofDictionary publicName place.node values pointer = .error unsupported) :
    Located document unsupported := by
  rcases ofDictionary_eq_error_iff.mp failed with ⟨hasDefault, rfl⟩ | ⟨-, failed⟩
  · obtain ⟨value, initialEq⟩ := Option.isSome_iff_exists.mp hasDefault
    have notNull := (Node.initialValue?_eq_some_iff.mp initialEq).2
    exact located_default reached initialEq (.dictionaryDefault shapeEq notNull)
  · exact dictionaryValueTarget_located reached shapeEq failed

theorem ofScalar_located {source : Node} (reached : place.Reached document pointer)
    (failed : ofScalar place.node source pointer = .error unsupported) :
    Located document unsupported := by
  obtain ⟨value, initialEq, -, rfl⟩ := ofScalar_eq_error_iff.mp failed
  exact located_refusedDefault reached initialEq

theorem ofShape_located (reached : place.Reached document pointer)
    (failed : ofShape publicName place.node pointer = .error unsupported) :
    Located document unsupported := by
  unfold ofShape at failed
  cases shapeEq : place.node.shape with
  | reference target =>
      simp only [shapeEq, Except.error.injEq] at failed
      subst failed
      exact located_here reached (.reference (Node.shape_eq_reference_iff.mp shapeEq))
  | misplacedDictionary =>
      simp only [shapeEq, Except.error.injEq] at failed
      subst failed
      exact misplacedDictionary_located reached shapeEq
  | array items =>
      simp only [shapeEq] at failed
      exact ofArray_located reached shapeEq failed
  | dictionary values =>
      simp only [shapeEq] at failed
      exact ofDictionary_located reached shapeEq failed
  | enumeration fallback =>
      simp only [shapeEq] at failed
      exact ofScalar_located reached failed
  | scalar =>
      simp only [shapeEq] at failed
      exact ofScalar_located reached failed

theorem ofProperty_located {requiredByParent : Bool}
    (found : document.properties.lookup key = some node)
    (failed : ofProperty key node requiredByParent (Pointer.root.join "properties" key) =
      .error unsupported) :
    Located document unsupported := by
  have reached : Place.Reached document (.property (.document document) key node)
      (Pointer.root.join "properties" key) :=
    (Place.Reached.root document).property found
  rcases ofProperty_eq_error_iff.mp failed with ⟨-, rfl⟩ | ⟨-, failed⟩
  · exact located_here reached .propertyName
  · exact ofShape_located reached failed

section PropertyName

variable {other : String} {blamed : Pointer} {requiredByParent : Bool}

theorem dictionaryValueTarget_ne_propertyName :
    dictionaryValueTarget values pointer ≠ .error ⟨blamed, .propertyName key⟩ := by
  unfold dictionaryValueTarget
  split
  · simp
  · split <;> simp

theorem ofElement_ne_propertyName :
    ofElement node pointer ≠ .error ⟨blamed, .propertyName key⟩ := by
  fun_induction ofElement node pointer with
  | case1 | case2 => simp
  | case3 node pointer items shapeEq ih => exact fun failed => ih (Steps.map_eq_error_iff.mp failed)
  | case4 | case6 | case7 => simp
  | case5 node pointer values shapeEq =>
      exact fun failed => dictionaryValueTarget_ne_propertyName (Steps.map_eq_error_iff.mp failed)

/-- A schema is blamed for what it says, and never for the key it belongs to. -/
theorem ofShape_ne_propertyName :
    ofShape publicName node pointer ≠ .error ⟨blamed, .propertyName key⟩ := by
  have ofScalar_ne : ∀ source,
      ofScalar node source pointer ≠ .error ⟨blamed, .propertyName key⟩ := by
    intro source failed
    obtain ⟨value, -, -, unsupportedEq⟩ := ofScalar_eq_error_iff.mp failed
    nomatch unsupportedEq
  intro failed
  unfold ofShape at failed
  split at failed
  · simp at failed
  · simp at failed
  · rcases ofArray_eq_error_iff.mp failed with atItems | ⟨_, _, -, -, -, unsupportedEq⟩
    · unfold ofItems at atItems
      split at atItems
      · exact ofElement_ne_propertyName atItems
      · nomatch atItems
    · nomatch unsupportedEq
  · rcases ofDictionary_eq_error_iff.mp failed with ⟨-, unsupportedEq⟩ | ⟨-, atValues⟩
    · nomatch unsupportedEq
    · exact dictionaryValueTarget_ne_propertyName atValues
  · exact ofScalar_ne _ failed
  · exact ofScalar_ne _ failed

/-- A key is blamed exactly if it gives no member name, whatever its schema is. -/
theorem ofProperty_eq_propertyName_iff :
    ofProperty key node requiredByParent pointer = .error ⟨blamed, .propertyName other⟩ ↔
      ¬Naming.isMemberName (Naming.publicName key) = true ∧ blamed = pointer ∧ other = key := by
  rw [ofProperty_eq_error_iff, Bool.not_eq_true]
  constructor
  · rintro (⟨unnamed, unsupportedEq⟩ | ⟨-, failed⟩)
    · injection unsupportedEq with pointerEq constructEq
      injection constructEq with keyEq
      exact ⟨unnamed, pointerEq, keyEq⟩
    · exact absurd failed ofShape_ne_propertyName
  · rintro ⟨unnamed, rfl, rfl⟩
    exact Or.inl ⟨unnamed, rfl⟩

end PropertyName

end Descriptor

namespace ClassDef

open Unsupported

variable {namespaceName className fileName name : String} {document : Node}
  {unsupported : Unsupported}

/-- The search for references among the parts of a document, once those before `index` are none. -/
theorem composedReference?_located {index : Nat} {parts : List Node}
    (partsEq : document.allOf.drop index = parts)
    (earlierNone : ∀ earlier ∈ document.allOf.take index, earlier.reference = none)
    (found : composedReference? index parts = some unsupported) :
    Located document unsupported := by
  induction parts generalizing index with
  | nil => nomatch found
  | cons part parts ih =>
      have partEq : document.allOf[index]? = some part := by
        have headEq := congrArg List.head? partsEq
        rwa [List.head?_drop, List.head?_cons] at headEq
      unfold composedReference? at found
      split at found
      · next target named =>
          injection found with unsupportedEq
          subst unsupportedEq
          have reached : Place.Reached document (.part (.document document) index part)
              (Pointer.root.join "allOf" (toString index)) :=
            (Place.Reached.root document).part partEq
          exact located_here reached (.composedReference named earlierNone)
      · next noReference =>
          have restEq : document.allOf.drop (index + 1) = parts := by
            rw [← List.tail_drop, partsEq, List.tail_cons]
          refine ih restEq ?_ found
          intro earlier member
          rw [List.take_add_one, partEq, List.mem_append] at member
          rcases member with before | here
          · exact earlierNone earlier before
          · obtain rfl : earlier = part := by simpa using here
            exact noReference

theorem propertyOf_located {required : List String} {key : String} {node : Node}
    (found : document.properties.lookup key = some node)
    (failed : propertyOf fileName required key node = .error (.unsupported name unsupported)) :
    name = fileName ∧ Located document unsupported := by
  unfold propertyOf at failed
  rcases Steps.bind_eq_error_iff.mp failed with mapped | ⟨descriptor, -, finished⟩
  · obtain ⟨cause, causeEq, failureEq⟩ := Steps.mapError_eq_error_iff.mp mapped
    injection failureEq with nameEq unsupportedEq
    subst unsupportedEq
    exact ⟨nameEq.symm, Descriptor.ofProperty_located found causeEq⟩
  · nomatch finished

theorem propertiesOf_located {required taken : List String} {properties : List (String × Node)}
    (found : ∀ entry ∈ properties, document.properties.lookup entry.1 = some entry.2)
    (failed : propertiesOf className fileName required taken properties =
      .error (.unsupported name unsupported)) :
    name = fileName ∧ Located document unsupported := by
  induction properties generalizing taken with
  | nil => nomatch failed
  | cons entry rest ih =>
      obtain ⟨key, node⟩ := entry
      unfold propertiesOf at failed
      rcases Steps.bind_eq_error_iff.mp failed with atEntry | ⟨property, -, afterEntry⟩
      · exact propertyOf_located (found (key, node) List.mem_cons_self) atEntry
      · split at afterEntry
        · nomatch afterEntry
        · rcases Steps.bind_eq_error_iff.mp afterEntry with atRest | ⟨properties, -, finished⟩
          · exact ih (fun entry member => found entry (List.mem_cons_of_mem _ member)) atRest
          · nomatch finished

theorem ofDocument_located (distinct : document.DistinctKeys)
    (failed : ofDocument namespaceName fileName document =
      .error (.unsupported name unsupported)) :
    name = fileName ∧ Located document unsupported := by
  unfold ofDocument at failed
  split at failed
  · next composed composedEq =>
      injection failed with failureEq
      injection failureEq with nameEq unsupportedEq
      subst unsupportedEq
      exact ⟨nameEq.symm, composedReference?_located rfl (by simp) composedEq⟩
  · rcases Steps.bind_eq_error_iff.mp failed with atProperties | ⟨properties, -, finished⟩
    · exact propertiesOf_located (fun _ member => distinct.lookup_eq member) atProperties
    · nomatch finished

/-- The text of a reported pointer leads from the root of the document to the construct that is
reported, once it has been split at its slashes and freed of its escapes. -/
theorem ofDocument_pointerText_blames (distinct : document.DistinctKeys)
    (failed : ofDocument namespaceName fileName document =
      .error (.unsupported name unsupported)) :
    name = fileName ∧
      ∃ pointer spot, Pointer.ofText? unsupported.pointer.text = some pointer ∧
        (Place.document document).walk? pointer.segments = some spot ∧
        unsupported.construct.Blames spot := by
  obtain ⟨nameEq, spot, walked, blames⟩ := ofDocument_located distinct failed
  exact ⟨nameEq, unsupported.pointer, spot, Pointer.ofText?_text _, walked, blames⟩

/-- A document whose only property has both special characters of pointers in its key, and a schema
for additional properties on the items of an array, which are no objects. -/
def slashedDocument : Node :=
  { Node.empty with
    properties := [("a/b~c", { Node.empty with
      typeKeyword := some (.single .array)
      items := some { Node.empty with additional := some (.schema .empty) } })] }

theorem ofDocument_slashedDocument :
    slashedDocument.DistinctKeys ∧
      ∃ unsupported : Unsupported,
        ofDocument defaultNamespace "a.schema.json" slashedDocument =
            .error (.unsupported "a.schema.json" unsupported) ∧
          unsupported.pointer.text = "/properties/a~1b~0c/items/additionalProperties" ∧
          ∃ pointer spot, Pointer.ofText? unsupported.pointer.text = some pointer ∧
            (Place.document slashedDocument).walk? pointer.segments = some spot ∧
            unsupported.construct.Blames spot := by
  have distinct : slashedDocument.DistinctKeys := by
    simp [Node.DistinctKeys, slashedDocument]
  have itemsFail :
      Descriptor.ofItems (some { Node.empty with additional := some (.schema .empty) })
          ⟨["properties", "a/b~c"]⟩ =
        .error ⟨⟨["properties", "a/b~c", "items", "additionalProperties"]⟩,
          .dictionaryOnNonObject⟩ := by
    rw [Descriptor.ofItems, Descriptor.ofElement]
    rfl
  have named : Naming.isMemberName (Naming.publicName "a/b~c") = true := by decide
  have failed : ofDocument defaultNamespace "a.schema.json" slashedDocument =
      .error (.unsupported "a.schema.json"
        ⟨⟨["properties", "a/b~c", "items", "additionalProperties"]⟩,
          .dictionaryOnNonObject⟩) := by
    -- The class, its only property and the type of that fail for the items.
    refine Steps.bind_eq_error_iff.mpr (Or.inl ?_)
    refine Steps.bind_eq_error_iff.mpr (Or.inl ?_)
    refine Steps.bind_eq_error_iff.mpr (Or.inl ?_)
    refine Steps.mapError_eq_error_iff.mpr ⟨_, ?_, rfl⟩
    refine Descriptor.ofProperty_eq_error_iff.mpr (Or.inr ⟨named, ?_⟩)
    exact Descriptor.ofArray_eq_error_iff.mpr (Or.inl itemsFail)
  exact ⟨distinct, _, failed, by decide, (ofDocument_pointerText_blames distinct failed).2⟩

/-- Whatever text a class is made from, an unsupported construct in it is located. -/
theorem ofText_located {text : String}
    (failed : ofText namespaceName fileName text = .error (.unsupported name unsupported)) :
    ∃ document, Node.ofDocument text = .ok document ∧ Located document unsupported := by
  unfold ofText at failed
  rcases Steps.bind_eq_error_iff.mp failed with unread | ⟨document, read, failed⟩
  · obtain ⟨refusal, -, failureEq⟩ := Steps.mapError_eq_error_iff.mp unread
    nomatch failureEq
  · have documentEq := Steps.mapError_eq_ok_iff.mp read
    split at failed
    · have distinct := Node.ofDocument_distinctKeys documentEq
      exact ⟨document, documentEq, (ofDocument_located distinct failed).2⟩
    · nomatch failed

end ClassDef
end SchemaClasses
