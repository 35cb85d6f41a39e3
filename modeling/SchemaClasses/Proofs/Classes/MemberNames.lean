import SchemaClasses.Classes.Basic
import SchemaClasses.Proofs.Member.Parts
import SchemaClasses.Proofs.Pairing

/-!
# Names in a class

The properties of a document are mapped one after another, and each of them takes its names from
those that are still free.  A class therefore has the properties of its document in their order, and
all names in it are different.
-/

namespace SchemaClasses

namespace ClassDef

open Schema

variable {namespaceName className fileName key : String} {required taken added result : List String}
  {node document : Node} {entries : List (String × Node)} {property : Property}
  {properties : List Property} {classDef : ClassDef}

/-- All names that are declared in a class: its own, and those of its members in order. -/
def declaredNames (classDef : ClassDef) : List String :=
  classDef.name :: classDef.properties.flatMap Property.memberNames

/-- A class is named after its title, where that leaves a name. -/
theorem nameOf_of_trimmedTitle {title : String} (titleEq : document.trimmedTitle? = some title)
    (notEmpty : Naming.className title ≠ "") (fileName : String) :
    nameOf fileName document = Naming.className title := by
  unfold nameOf
  rw [titleEq, Option.map_some]
  exact if_neg fun isEmpty => notEmpty (String.isEmpty_iff.mp isEmpty)

theorem takeNames_eq_ok_iff :
    takeNames taken added = .ok result ↔
      added.Nodup ∧ (∀ name ∈ added, name ∉ taken) ∧ result = added.reverse ++ taken := by
  induction added generalizing taken with
  | nil => simp [takeNames, eq_comm]
  | cons name added ih =>
      unfold takeNames
      by_cases isTaken : name ∈ taken
      · simp [isTaken]
      · have notTaken_iff : (∀ later ∈ added, later ∉ name :: taken) ↔
            name ∉ added ∧ ∀ later ∈ added, later ∉ taken := by
          constructor
          · intro free
            refine ⟨fun again => free name again List.mem_cons_self, ?_⟩
            intro later member inTaken
            exact free later member (List.mem_cons_of_mem _ inTaken)
          · rintro ⟨notAgain, free⟩ later member inTaken
            rcases List.mem_cons.mp inTaken with rfl | old
            · exact notAgain member
            · exact free later member old
        rw [if_neg isTaken, ih, notTaken_iff, List.nodup_cons, List.forall_mem_cons,
          List.reverse_cons, List.append_assoc, List.singleton_append]
        tauto

theorem propertyOf_eq_ok_iff :
    propertyOf fileName required key node = .ok property ↔
      ∃ descriptor,
        Descriptor.ofProperty key node (required.contains key)
            (Pointer.root.join "properties" key) = .ok descriptor ∧
          property = {
            name := Naming.publicName key
            backingName := Naming.backingName (Naming.publicName key)
            key
            descriptor
            doc := node.description.bind Text.trimmed? } := by
  unfold propertyOf
  simp only [Steps.bind_eq_ok_iff, Steps.mapError_eq_ok_iff, Steps.pure_eq_ok_iff,
    @eq_comm _ _ property]

/-- The property that an entry of a document gives. -/
def Declares (fileName : String) (required : List String) (entry : String × Node)
    (property : Property) : Prop :=
  propertyOf fileName required entry.1 entry.2 = .ok property

theorem propertiesOf_cons_eq_ok_iff :
    propertiesOf className fileName required taken ((key, node) :: entries) = .ok properties ↔
      ∃ property rest, Declares fileName required (key, node) property ∧
        property.memberNames.Nodup ∧ (∀ name ∈ property.memberNames, name ∉ taken) ∧
        propertiesOf className fileName required (property.memberNames.reverse ++ taken) entries =
          .ok rest ∧
        properties = property :: rest := by
  rw [propertiesOf, Steps.bind_eq_ok_iff]
  refine exists_congr fun property => ?_
  cases takenEq : takeNames taken property.memberNames with
  | error name =>
      constructor
      · rintro ⟨-, failed⟩
        nomatch failed
      · rintro ⟨rest, -, distinct, free, -⟩
        have takes := takeNames_eq_ok_iff.mpr ⟨distinct, free, rfl⟩
        rw [takenEq] at takes
        nomatch takes
  | ok grown =>
      obtain ⟨distinct, free, rfl⟩ := takeNames_eq_ok_iff.mp takenEq
      simp only [Steps.bind_eq_ok_iff, Steps.pure_eq_ok_iff]
      constructor
      · rintro ⟨declared, rest, made, rfl⟩
        exact ⟨rest, declared, distinct, free, made, rfl⟩
      · rintro ⟨rest, declared, -, -, made, rfl⟩
        exact ⟨declared, rest, made, rfl⟩

/-- The properties of a document are mapped exactly if each of them can be by itself, and their
names are different from each other and from those that are taken. -/
theorem propertiesOf_eq_ok_iff :
    propertiesOf className fileName required taken entries = .ok properties ↔
      List.Forall₂ (Declares fileName required) entries properties ∧
        (properties.flatMap Property.memberNames).Nodup ∧
        ∀ name ∈ properties.flatMap Property.memberNames, name ∉ taken := by
  induction entries generalizing taken properties with
  | nil =>
      rw [propertiesOf, List.forall₂_nil_left_iff]
      constructor
      · intro made
        obtain rfl := Except.ok.inj made
        exact ⟨rfl, List.nodup_nil, fun _ member => nomatch member⟩
      · rintro ⟨rfl, -⟩
        rfl
  | cons entry rest ih =>
      obtain ⟨key, node⟩ := entry
      simp only [propertiesOf_cons_eq_ok_iff, ih, List.forall₂_cons_left_iff]
      constructor
      · rintro ⟨property, later, declared, distinct, free, ⟨laterDeclared, laterDistinct,
          laterFree⟩, rfl⟩
        refine ⟨⟨property, later, declared, laterDeclared, rfl⟩, ?_, ?_⟩
        · rw [List.flatMap_cons, List.nodup_append]
          refine ⟨distinct, laterDistinct, ?_⟩
          rintro name member other otherMem rfl
          exact laterFree name otherMem (by simp [member])
        · intro name member
          rw [List.flatMap_cons, List.mem_append] at member
          rcases member with here | inLater
          · exact free name here
          · exact fun inTaken => laterFree name inLater (List.mem_append_right _ inTaken)
      · rintro ⟨⟨property, later, declared, laterDeclared, rfl⟩, distinct, free⟩
        rw [List.flatMap_cons, List.nodup_append] at distinct
        rw [List.flatMap_cons] at free
        refine ⟨property, later, declared, distinct.1, ?_, ⟨laterDeclared, distinct.2.1, ?_⟩, rfl⟩
        · exact fun name member => free name (List.mem_append_left _ member)
        · intro name member inTaken
          rcases List.mem_append.mp inTaken with here | old
          · exact distinct.2.2 name (List.mem_reverse.mp here) name member rfl
          · exact free name (List.mem_append_right _ member) old

/-- A document has a class exactly if no reference is composed into it, its properties can all be
mapped, and the names in the class are different. -/
theorem ofDocument_eq_ok_iff :
    ofDocument namespaceName fileName document = .ok classDef ↔
      composedReference? 0 document.allOf = none ∧
        List.Forall₂ (Declares fileName document.required) document.properties
          classDef.properties ∧
        classDef.declaredNames.Nodup ∧
        classDef = {
          name := nameOf fileName document
          namespaceName
          description := document.description.bind Text.trimmed?
          sourceFile := fileName
          properties := classDef.properties } := by
  unfold ofDocument
  cases composed : composedReference? 0 document.allOf with
  | some unsupported => simp
  | none =>
      simp only [Steps.bind_eq_ok_iff, Steps.pure_eq_ok_iff, propertiesOf_eq_ok_iff, true_and]
      have fresh_iff : ∀ {name : String} {names : List String},
          (names.Nodup ∧ ∀ other ∈ names, other ∉ [name]) ↔ (name :: names).Nodup := by
        intro name names
        rw [List.nodup_cons]
        constructor
        · rintro ⟨distinct, free⟩
          exact ⟨fun member => free name member List.mem_cons_self, distinct⟩
        · rintro ⟨notMem, distinct⟩
          refine ⟨distinct, fun other member isName => notMem ?_⟩
          exact List.mem_singleton.mp isName ▸ member
      constructor
      · rintro ⟨properties, ⟨declared, free⟩, rfl⟩
        exact ⟨declared, fresh_iff.mp free, rfl⟩
      · rintro ⟨declared, distinct, classEq⟩
        have nameEq : classDef.name = nameOf fileName document := congrArg name classEq
        rw [declaredNames, nameEq] at distinct
        exact ⟨_, ⟨declared, fresh_iff.mpr distinct⟩, classEq.symm⟩

theorem map_name_sublist_memberNames (properties : List Property) :
    (properties.map Property.name).Sublist (properties.flatMap Property.memberNames) := by
  induction properties with
  | nil => exact List.Sublist.refl []
  | cons property rest ih =>
      rw [List.map_cons, List.flatMap_cons, Property.memberNames, List.cons_append]
      exact List.Sublist.cons_cons _ (ih.trans (List.sublist_append_right _ _))

/-- What the names in a class have to do with its document. -/
structure NamedAfter (document : Node) (classDef : ClassDef) : Prop where
  keys : classDef.properties.map Property.key = document.properties.map Prod.fst
  names : ∀ property ∈ classDef.properties,
    property.name = Naming.publicName property.key ∧
      property.backingName = Naming.backingName property.name ∧
      ∀ predicate ∈ property.descriptor.predicates,
        predicate.name = Naming.predicateName property.name
  distinct : classDef.declaredNames.Nodup
  found : ∀ property ∈ classDef.properties, classDef.property? property.name = some property

theorem Declares.key_eq {entry : String × Node}
    (declared : Declares fileName required entry property) :
    property.key = entry.1 := by
  obtain ⟨descriptor, -, rfl⟩ := propertyOf_eq_ok_iff.mp declared
  rfl

theorem Declares.names {entry : String × Node}
    (declared : Declares fileName required entry property) :
    property.name = Naming.publicName property.key ∧
      property.backingName = Naming.backingName property.name ∧
      ∀ predicate ∈ property.descriptor.predicates,
        predicate.name = Naming.predicateName property.name := by
  obtain ⟨descriptor, mapped, rfl⟩ := propertyOf_eq_ok_iff.mp declared
  obtain ⟨fits, -⟩ := Descriptor.fitsTarget_of_ofProperty mapped
  exact ⟨rfl, rfl, fun predicate member => fits.name_of_mem_predicates member⟩

/-- The keys of a document give different public names, if it has a class. -/
theorem nodup_publicNames (made : ofDocument namespaceName fileName document = .ok classDef) :
    (document.properties.map fun entry => Naming.publicName entry.1).Nodup := by
  obtain ⟨-, declared, distinct, -⟩ := ofDocument_eq_ok_iff.mp made
  have namesEq : classDef.properties.map Property.name =
      document.properties.map fun entry => Naming.publicName entry.1 :=
    map_eq_map_of_related declared fun _ _ related => by
      rw [related.names.1, related.key_eq]
  rw [← namesEq]
  exact (map_name_sublist_memberNames _).nodup (List.nodup_cons.mp distinct).2

/-- A class has a property for every key of its document in the same order, which is named after the
key and is the only one of that name, and no name is declared twice in the class. -/
theorem ofDocument_namedAfter
    (made : ofDocument namespaceName fileName document = .ok classDef) :
    NamedAfter document classDef := by
  obtain ⟨-, declared, distinct, -⟩ := ofDocument_eq_ok_iff.mp made
  have publicDistinct : (classDef.properties.map Property.name).Nodup :=
    (map_name_sublist_memberNames _).nodup (List.nodup_cons.mp distinct).2
  refine ⟨map_eq_map_of_related declared fun _ _ => Declares.key_eq, ?_, distinct, ?_⟩
  · intro property member
    obtain ⟨entry, -, entryDeclared⟩ := exists_left_of_mem declared member
    exact entryDeclared.names
  · intro property member
    exact (find?_eq_some_iff_of_nodup publicDistinct).mpr ⟨member, rfl⟩

/-- A document with an array, a scalar and a dictionary among its properties, which bring all kinds
of names into its class. -/
def assetDocument : Node :=
  { Node.empty with
    title := some "glTF Asset"
    typeKeyword := some (.single .object)
    required := ["max_size"]
    properties := [
      ("extensionsUsed", { Node.empty with
        typeKeyword := some (.single .array)
        items := some { Node.empty with typeKeyword := some (.single .string) } }),
      ("max_size", { Node.empty with typeKeyword := some (.single .integer) }),
      ("extras", { Node.empty with
        typeKeyword := some (.single .object)
        additional := some (.schema { Node.empty with typeKeyword := some (.single .string) }) })] }

theorem namedAfter_assetDocument :
    ∃ classDef,
      ofDocument defaultNamespace "asset.schema.json" assetDocument = .ok classDef ∧
        classDef.declaredNames =
          ["GltfAsset", "ExtensionsUsed", "m_extensionsUsed", "ShouldSerializeExtensionsUsed",
            "MaxSize", "m_maxSize", "Extras", "m_extras", "ShouldSerializeExtras"] ∧
        NamedAfter assetDocument classDef := by
  have namesEq :
      (ofDocument defaultNamespace "asset.schema.json" assetDocument).toOption.map declaredNames =
        some ["GltfAsset", "ExtensionsUsed", "m_extensionsUsed", "ShouldSerializeExtensionsUsed",
          "MaxSize", "m_maxSize", "Extras", "m_extras", "ShouldSerializeExtras"] := by
    decide +kernel
  cases made : ofDocument defaultNamespace "asset.schema.json" assetDocument with
  | error failure =>
      rw [made] at namesEq
      nomatch namesEq
  | ok classDef =>
      rw [made] at namesEq
      exact ⟨classDef, rfl, Option.some.inj namesEq, ofDocument_namedAfter made⟩

end ClassDef
end SchemaClasses
