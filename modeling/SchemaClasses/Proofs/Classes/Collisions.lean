import SchemaClasses.Proofs.Classes.MemberNames

/-!
# Collisions in a class

The names of a class are taken one by one, and the first that is taken already ends it.  A collision
therefore tells of a property and of one of its names, which the class, an earlier property or the
property itself has taken before.
-/

namespace SchemaClasses
namespace ClassDef

open Schema

variable {namespaceName className fileName key name : String}
  {required taken added grown : List String} {node document : Node}
  {entries : List (String × Node)} {property : Property} {failure : Failure} {scope : NameScope}

/-- A name is the first of those added that is taken, either before or by one of them. -/
def FirstTaken (taken added : List String) (name : String) : Prop :=
  ∃ before after, added = before ++ name :: after ∧ before.Nodup ∧
    (∀ earlier ∈ before, earlier ∉ taken) ∧ (name ∈ taken ∨ name ∈ before)

theorem takeNames_append (taken before added : List String) (distinct : before.Nodup)
    (free : ∀ name ∈ before, name ∉ taken) :
    takeNames taken (before ++ added) = takeNames (before.reverse ++ taken) added := by
  induction before generalizing taken with
  | nil => rfl
  | cons name before ih =>
      obtain ⟨notAgain, restDistinct⟩ := List.nodup_cons.mp distinct
      have notTaken : name ∉ taken := free name List.mem_cons_self
      have restFree : ∀ later ∈ before, later ∉ name :: taken := by
        intro later member inTaken
        rcases List.mem_cons.mp inTaken with rfl | old
        · exact notAgain member
        · exact free later (List.mem_cons_of_mem _ member) old
      rw [List.cons_append, takeNames, if_neg notTaken, ih _ restDistinct restFree]
      simp

theorem takeNames_eq_error_iff :
    takeNames taken added = .error name ↔ FirstTaken taken added name := by
  constructor
  · intro failed
    induction added generalizing taken with
    | nil => nomatch failed
    | cons first added ih =>
        rw [takeNames] at failed
        split at failed
        · next isTaken =>
            obtain rfl := Except.error.inj failed
            exact ⟨[], added, rfl, List.nodup_nil, by simp, Or.inl isTaken⟩
        · next notTaken =>
            obtain ⟨before, after, rfl, distinct, free, twice⟩ := ih failed
            refine ⟨first :: before, after, rfl, ?_, ?_, ?_⟩
            · refine List.nodup_cons.mpr ⟨fun again => ?_, distinct⟩
              exact free first again List.mem_cons_self
            · intro earlier member inTaken
              rcases List.mem_cons.mp member with rfl | inBefore
              · exact notTaken inTaken
              · exact free earlier inBefore (List.mem_cons_of_mem _ inTaken)
            · rcases twice with inTaken | inBefore
              · rcases List.mem_cons.mp inTaken with rfl | old
                · exact Or.inr List.mem_cons_self
                · exact Or.inl old
              · exact Or.inr (List.mem_cons_of_mem _ inBefore)
  · rintro ⟨before, after, rfl, distinct, free, twice⟩
    rw [takeNames_append taken before _ distinct free, takeNames, if_pos]
    rw [List.mem_append, List.mem_reverse]
    exact twice.symm

/-- A property by itself is refused for its schema or its key, and never for a name. -/
theorem propertyOf_ne_collision :
    propertyOf fileName required key node ≠ .error (.collision scope name) := by
  intro failed
  rcases Steps.bind_eq_error_iff.mp failed with mapped | ⟨descriptor, -, finished⟩
  · obtain ⟨cause, -, failureEq⟩ := Steps.mapError_eq_error_iff.mp mapped
    nomatch failureEq
  · nomatch finished

/-- A property can be mapped, as can those before it, but a name is the first of its names that is
taken, by one of those or before. -/
def CollidesAt (fileName : String) (required taken : List String) (entries : List (String × Node))
    (name : String) (property : Property) : Prop :=
  ∃ before entry after properties, entries = before ++ entry :: after ∧
    List.Forall₂ (Declares fileName required) before properties ∧
    Declares fileName required entry property ∧
    FirstTaken ((properties.flatMap Property.memberNames).reverse ++ taken)
      property.memberNames name

theorem exists_collidesAt_of_propertiesOf
    (failed : propertiesOf className fileName required taken entries =
      .error (.collision scope name)) :
    scope = .members className fileName ∧
      ∃ property, CollidesAt fileName required taken entries name property := by
  induction entries generalizing taken with
  | nil => cases failed
  | cons entry rest ih =>
      obtain ⟨key, node⟩ := entry
      rw [propertiesOf] at failed
      rcases Steps.bind_eq_error_iff.mp failed with atEntry | ⟨property, declared, afterEntry⟩
      · exact absurd atEntry propertyOf_ne_collision
      · cases taking : takeNames taken property.memberNames with
        | error other =>
            rw [taking] at afterEntry
            obtain ⟨rfl, rfl⟩ := Failure.collision.inj (Except.error.inj afterEntry)
            refine ⟨rfl, property, [], (key, node), rest, [], rfl, .nil, declared, ?_⟩
            exact takeNames_eq_error_iff.mp taking
        | ok grown =>
            rw [taking] at afterEntry
            rcases Steps.bind_eq_error_iff.mp afterEntry with atRest | ⟨properties, -, finished⟩
            · obtain ⟨scopeEq, last, before, later, after, properties, rfl, made, lastDeclared,
                first⟩ := ih atRest
              obtain ⟨-, -, rfl⟩ := takeNames_eq_ok_iff.mp taking
              refine ⟨scopeEq, last, (key, node) :: before, later, after, property :: properties,
                rfl, .cons declared made, lastDeclared, ?_⟩
              simpa using first
            · cases finished

/-- A collision in a class is one of its members, and the class has its name from the start. -/
theorem exists_collidesAt_of_ofDocument
    (failed : ofDocument namespaceName fileName document = .error (.collision scope name)) :
    scope = .members (nameOf fileName document) fileName ∧
      ∃ property, CollidesAt fileName document.required [nameOf fileName document]
        document.properties name property := by
  unfold ofDocument at failed
  split at failed
  · nomatch failed
  · rcases Steps.bind_eq_error_iff.mp failed with atProperties | ⟨properties, -, finished⟩
    · exact exists_collidesAt_of_propertiesOf atProperties
    · nomatch finished

end ClassDef
end SchemaClasses
