import SchemaClasses.Generation
import SchemaClasses.Proofs.Json.ReadsAs
import SchemaClasses.Proofs.Member.ElementTypes

/-!
# Documents with the same class

A class is made from the title, the description and the required keys of its document, the
references among its parts, and for each property from what its descriptor and its comment are made
from.  Documents that agree in this have the same class, or are refused for the same reason at the
same place, and texts with such documents give the same output.
-/

namespace SchemaClasses

open Schema

/-- Schemas of properties that agree in what a member is made from. -/
structure Schema.MemberAlike (first second : Node) : Prop where
  typed : TypedAlike first second
  initial : first.initialValue? = second.initialValue?
  required : first.required = second.required
  description : first.description = second.description

/-- Documents that agree in what a class is made from. -/
structure Schema.DocumentAlike (first second : Node) : Prop where
  types : SameTypes first.typeKeyword second.typeKeyword
  title : first.title = second.title
  description : first.description = second.description
  required : first.required = second.required
  keys : first.properties.map Prod.fst = second.properties.map Prod.fst
  members : List.Forall₂ MemberAlike (first.properties.map Prod.snd)
    (second.properties.map Prod.snd)
  references : first.allOf.map Node.reference = second.allOf.map Node.reference

variable {first second : Node}

theorem Schema.DocumentAlike.isObjectTyped_eq (alike : DocumentAlike first second) :
    first.isObjectTyped = second.isObjectTyped :=
  Node.isSingleType_eq_of_sameTypes alike.types .object

theorem Schema.MemberAlike.refl (node : Node) : MemberAlike node node :=
  ⟨.refl node, rfl, rfl, rfl⟩

theorem Schema.DocumentAlike.refl (document : Node) : DocumentAlike document document :=
  ⟨.same _, rfl, rfl, rfl, rfl, List.forall₂_same.mpr fun node _ => .refl node, rfl⟩

namespace ClassDef

theorem propertyOf_of_alike (alike : MemberAlike first second) (fileName : String)
    (required : List String) (key : String) :
    propertyOf fileName required key first = propertyOf fileName required key second := by
  simp only [propertyOf, alike.description,
    Descriptor.ofProperty_of_typedAlike alike.typed alike.initial alike.required]

/-- Properties with the same keys have the same members if their schemas agree in what these are
made from. -/
theorem propertiesOf_of_alike {properties others : List (String × Node)}
    (keys : properties.map Prod.fst = others.map Prod.fst)
    (alike : List.Forall₂ MemberAlike (properties.map Prod.snd) (others.map Prod.snd))
    (className fileName : String) (required taken : List String) :
    propertiesOf className fileName required taken properties =
      propertiesOf className fileName required taken others := by
  induction properties generalizing others taken with
  | nil =>
      obtain rfl := List.map_eq_nil_iff.mp keys.symm
      rfl
  | cons property rest ih =>
      obtain ⟨key, node⟩ := property
      cases others with
      | nil => nomatch keys
      | cons other more =>
          obtain ⟨otherKey, otherNode⟩ := other
          obtain ⟨rfl, restKeys⟩ := List.cons.inj keys
          cases alike with
          | cons nodes restAlike =>
              rw [propertiesOf, propertiesOf, propertyOf_of_alike nodes]
              refine bind_congr fun property => ?_
              cases takeNames taken property.memberNames with
              | error name => rfl
              | ok grown => simp only [ih restKeys restAlike]

theorem composedReference?_of_references {parts others : List Node}
    (references : parts.map Node.reference = others.map Node.reference) (index : Nat) :
    composedReference? index parts = composedReference? index others := by
  induction parts generalizing others index with
  | nil =>
      obtain rfl := List.map_eq_nil_iff.mp references.symm
      rfl
  | cons part rest ih =>
      cases others with
      | nil => nomatch references
      | cons other more =>
          obtain ⟨sameReference, restReferences⟩ := List.cons.inj references
          rw [composedReference?, composedReference?, sameReference, ih restReferences]

theorem ofDocument_of_alike (alike : DocumentAlike first second) (namespaceName fileName : String) :
    ofDocument namespaceName fileName first = ofDocument namespaceName fileName second := by
  have named : nameOf fileName first = nameOf fileName second := by
    rw [nameOf, nameOf, Node.trimmedTitle?, Node.trimmedTitle?, alike.title]
  simp only [ofDocument, named, composedReference?_of_references alike.references,
    propertiesOf_of_alike alike.keys alike.members, alike.required, alike.description]

end ClassDef

section Output

variable {fileName firstText secondText : String}

/-- Texts whose documents agree in what a class is made from give the same output. -/
theorem generateTo_eq_of_alike (read : Node.ofDocument firstText = .ok first)
    (again : Node.ofDocument secondText = .ok second) (alike : DocumentAlike first second)
    (namespaceName fileName : String) (sink : Sink) :
    generateTo namespaceName fileName firstText sink =
      generateTo namespaceName fileName secondText sink := by
  have ofTextEq : ClassDef.ofText namespaceName fileName firstText =
      ClassDef.ofText namespaceName fileName secondText := by
    unfold ClassDef.ofText readDocument
    rw [read, again]
    change (if first.isObjectTyped then _ else _) = if second.isObjectTyped then _ else _
    rw [alike.isObjectTyped_eq, ClassDef.ofDocument_of_alike alike]
  unfold generateTo
  rw [ofTextEq]

/-- The outcomes for two texts are the same, or both texts are refused for the same reason at the
same path, each at its own place in the text. -/
inductive SameOutcome (fileName firstText secondText : String) :
    Except Failure Unit × Sink → Except Failure Unit × Sink → Prop
  | same (outcome : Except Failure Unit × Sink) :
      SameOutcome fileName firstText secondText outcome outcome
  | refused {refusal other : Json.Refusal} (sink : Sink)
      (problem : refusal.problem = other.problem) (path : refusal.path = other.path) :
      SameOutcome fileName firstText secondText
        (.error (.load fileName (.refused firstText refusal)), sink)
        (.error (.load fileName (.refused secondText other)), sink)

theorem SameOutcome.eq_of_ok {outcome other : Except Failure Unit × Sink}
    (same : SameOutcome fileName firstText secondText outcome other)
    (succeeded : outcome.1 = .ok ()) :
    outcome = other := by
  cases same with
  | same => rfl
  | refused => nomatch succeeded

/-- Texts that are read together, as documents that agree in what a class is made from, come to the
same. -/
theorem sameOutcome_of_readsAs
    (reads : Json.ReadsAs False DocumentAlike (Node.ofDocument firstText)
      (Node.ofDocument secondText)) (namespaceName fileName : String) (sink : Sink) :
    SameOutcome fileName firstText secondText (generateTo namespaceName fileName firstText sink)
      (generateTo namespaceName fileName secondText sink) := by
  generalize firstEq : Node.ofDocument firstText = firstReading at reads
  generalize secondEq : Node.ofDocument secondText = secondReading at reads
  cases reads with
  | ok alike =>
      rw [generateTo_eq_of_alike firstEq secondEq alike]
      exact .same _
  | refused problem path =>
      unfold generateTo ClassDef.ofText readDocument
      rw [firstEq, secondEq]
      exact .refused sink problem path
  | excused may => exact may.elim

end Output

end SchemaClasses
