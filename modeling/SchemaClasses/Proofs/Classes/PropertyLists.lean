import Mathlib.Data.List.Flatten
import Mathlib.Data.List.Perm.Subperm
import SchemaClasses.Proofs.Classes.MemberNames

/-!
# Lists of properties

The properties of a document do not know of each other, and its class only asks that their names
differ.  A class therefore stays as it is if properties of the document are put into another order
or left out, apart from the members for them.  What stands in the way of a class is the first
offender, so that properties after it do not matter.
-/

namespace SchemaClasses

open Schema

/-- Members in another order, or fewer of them, have no names in common if all of them have none. -/
theorem nodup_flatMap_of_subperm {α β : Type} {names : α → List β} {kept members : List α}
    (within : kept.Subperm members) (distinct : (members.flatMap names).Nodup) :
    (kept.flatMap names).Nodup := by
  obtain ⟨ordered, perm, sublist⟩ := within
  exact (perm.flatMap_right names).nodup_iff.mp ((sublist.flatMap names).nodup distinct)

theorem map_subperm_map {α β : Type} {change : α → β} {kept members : List α}
    (within : kept.Subperm members) : (kept.map change).Subperm (members.map change) := by
  obtain ⟨ordered, perm, sublist⟩ := within
  exact ⟨ordered.map change, perm.map change, sublist.map change⟩

/-- A document with other properties than its own. -/
def Schema.Node.withProperties (document : Node) (entries : List (String × Node)) : Node :=
  { document with properties := entries }

namespace ClassDef

variable {namespaceName className fileName : String} {required taken : List String}
  {document : Node} {entries kept : List (String × Node)} {properties : List Property}
  {classDef : ClassDef} {failure : Failure}

theorem Declares.unique (entry : String × Node) (first second : Property)
    (declared : Declares fileName required entry first)
    (again : Declares fileName required entry second) : first = second :=
  Except.ok.inj (declared.symm.trans again)

instance : Nonempty Property :=
  ⟨⟨"", "", "", .bare (.scalar .any), none⟩⟩

theorem ofDocument_withProperties_eq_ok_iff :
    ofDocument namespaceName fileName (document.withProperties entries) = .ok classDef ↔
      composedReference? 0 document.allOf = none ∧
        List.Forall₂ (Declares fileName document.required) entries classDef.properties ∧
        classDef.declaredNames.Nodup ∧
        classDef = {
          name := nameOf fileName document
          namespaceName
          description := document.description.bind Text.trimmed?
          sourceFile := fileName
          properties := classDef.properties } :=
  ofDocument_eq_ok_iff

theorem nodup_declaredNames_of_subperm (within : properties.Subperm classDef.properties)
    (distinct : classDef.declaredNames.Nodup) :
    (declaredNames { classDef with properties := properties }).Nodup := by
  unfold declaredNames at distinct ⊢
  obtain ⟨notMember, membersDistinct⟩ := List.nodup_cons.mp distinct
  refine List.nodup_cons.mpr ⟨fun isMember => notMember ?_, ?_⟩
  · obtain ⟨property, kept, named⟩ := List.mem_flatMap.mp isMember
    exact List.mem_flatMap.mpr ⟨property, within.subset kept, named⟩
  · exact nodup_flatMap_of_subperm within membersDistinct

/-- A class gives each property of its document a member, and it is the class of the properties in
any other order, and of fewer properties, with the members for these. -/
theorem exists_member_of_ofDocument
    (made : ofDocument namespaceName fileName document = .ok classDef) :
    ∃ member : String × Node → Property,
      classDef.properties = document.properties.map member ∧
        ∀ kept, kept.Subperm document.properties →
          ofDocument namespaceName fileName (document.withProperties kept) =
            .ok { classDef with properties := kept.map member } := by
  obtain ⟨composed, declared, distinct, classEq⟩ := ofDocument_eq_ok_iff.mp made
  obtain ⟨member, propertiesEq, members⟩ :=
    exists_map_of_related Declares.unique declared
  refine ⟨member, propertiesEq, fun kept within => ?_⟩
  have keptDeclared :
      List.Forall₂ (Declares fileName document.required) kept (kept.map member) := by
    rw [List.forall₂_map_right_iff, List.forall₂_same]
    exact fun entry isKept => members entry (within.subset isKept)
  have keptWithin : (kept.map member).Subperm classDef.properties :=
    propertiesEq ▸ map_subperm_map within
  refine ofDocument_withProperties_eq_ok_iff.mpr ⟨composed, keptDeclared,
    nodup_declaredNames_of_subperm keptWithin distinct, ?_⟩
  rw [classEq]

/-- The first property in the way of a class stays the first one if more properties follow. -/
theorem propertiesOf_append_eq_error
    (failed : propertiesOf className fileName required taken entries = .error failure)
    (further : List (String × Node)) :
    propertiesOf className fileName required taken (entries ++ further) = .error failure := by
  induction entries generalizing taken with
  | nil => cases failed
  | cons entry rest ih =>
      obtain ⟨key, node⟩ := entry
      rw [propertiesOf] at failed
      rw [List.cons_append, propertiesOf]
      rcases Steps.bind_eq_error_iff.mp failed with atEntry | ⟨property, declared, afterEntry⟩
      · rw [atEntry]
        rfl
      · refine Steps.bind_eq_error_iff.mpr (Or.inr ⟨property, declared, ?_⟩)
        cases taking : takeNames taken property.memberNames with
        | error name =>
            rw [taking] at afterEntry
            exact afterEntry
        | ok grown =>
            rw [taking] at afterEntry
            rcases Steps.bind_eq_error_iff.mp afterEntry with atRest | ⟨properties, -, finished⟩
            · exact Steps.bind_eq_error_iff.mpr (Or.inl (ih atRest))
            · cases finished

theorem ofDocument_append_eq_error
    (failed : ofDocument namespaceName fileName document = .error failure)
    (further : List (String × Node)) :
    ofDocument namespaceName fileName
        (document.withProperties (document.properties ++ further)) = .error failure := by
  unfold ofDocument at failed ⊢
  have allOfEq : (document.withProperties (document.properties ++ further)).allOf =
      document.allOf := rfl
  rw [allOfEq]
  cases composed : composedReference? 0 document.allOf with
  | some unsupported =>
      rw [composed] at failed
      exact failed
  | none =>
      rw [composed] at failed
      rcases Steps.bind_eq_error_iff.mp failed with atProperties | ⟨properties, -, finished⟩
      · exact Steps.bind_eq_error_iff.mpr
          (Or.inl (propertiesOf_append_eq_error atProperties further))
      · nomatch finished

theorem exists_ofDocument_of_perm {others : List (String × Node)}
    (perm : others.Perm document.properties)
    (made : ofDocument namespaceName fileName document = .ok classDef) :
    ∃ other, ofDocument namespaceName fileName (document.withProperties others) = .ok other := by
  obtain ⟨member, -, rearranged⟩ := exists_member_of_ofDocument made
  exact ⟨_, rearranged others perm.subperm⟩

/-- How the class of a document depends on the list of its properties: whether there is one does not
depend on their order; the class of the properties in another order, or of fewer of them, is the
same apart from the order or the lack of their members; and a failure is the same whatever
properties come after those of the document. -/
theorem ofDocument_withProperties (namespaceName fileName : String) (document : Node) :
    (∀ others, others.Perm document.properties →
      ((∃ classDef,
          ofDocument namespaceName fileName (document.withProperties others) = .ok classDef) ↔
        ∃ classDef, ofDocument namespaceName fileName document = .ok classDef)) ∧
    (∀ classDef, ofDocument namespaceName fileName document = .ok classDef →
      ∃ member : String × Node → Property,
        classDef.properties = document.properties.map member ∧
          ∀ kept, kept.Subperm document.properties →
            ofDocument namespaceName fileName (document.withProperties kept) =
              .ok { classDef with properties := kept.map member }) ∧
    ∀ failure, ofDocument namespaceName fileName document = .error failure →
      ∀ further, ofDocument namespaceName fileName
        (document.withProperties (document.properties ++ further)) = .error failure := by
  refine ⟨fun others perm => ⟨?_, ?_⟩, ?_, ?_⟩
  · rintro ⟨classDef, made⟩
    -- With its own properties put back, the document is what it was.
    have restored : document.properties.Perm (document.withProperties others).properties :=
      perm.symm
    have remade := exists_ofDocument_of_perm restored made
    exact remade
  · rintro ⟨classDef, made⟩
    exact exists_ofDocument_of_perm perm made
  · exact fun classDef made => exists_member_of_ofDocument made
  · exact fun failure failed further => ofDocument_append_eq_error failed further

end ClassDef
end SchemaClasses
