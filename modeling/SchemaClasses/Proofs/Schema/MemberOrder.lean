import Mathlib.Data.List.Perm.Basic
import Mathlib.Logic.Relation
import SchemaClasses.Proofs.Schema.Contexts
import SchemaClasses.Proofs.Steps

/-!
# The order of keywords

An object that reads as a schema reads as the same one with its members in another order, and
without members whose keys are no keywords: every keyword is read into its own field, no keyword is
read twice, and what is skipped leaves no trace.  This goes for all objects in a document that stand
for schemas.
-/

namespace SchemaClasses

namespace Json

-- Equality of trees can be computed, so that the tree of a given text can be looked at.
deriving instance DecidableEq for Tree, Elements, Members

/-- The members of a whole object, all of whose keys can be read. -/
def Members.ofEntries : List (String × Tree) → Members
  | [] => .closed
  | (key, tree) :: rest => .member (.ok key) 0 tree 0 (ofEntries rest)

/-- A whole object reads as a plain value if the values of all its members do. -/
theorem exists_toEntries_ofEntries {depth : Nat} {members : List (String × Tree)}
    (read : ∀ member ∈ members, ∃ value, member.2.toValue depth = .ok value) :
    ∀ entries, ∃ result, (Members.ofEntries members).toEntries depth entries = .ok result := by
  induction members with
  | nil => exact fun entries => ⟨entries, rfl⟩
  | cons member rest ih =>
      intro entries
      obtain ⟨value, valueEq⟩ := read member List.mem_cons_self
      obtain ⟨result, resultEq⟩ := ih (fun other isMember => read other (.tail _ isMember))
        (insertSorted member.1 value entries)
      refine ⟨result, ?_⟩
      rw [Members.ofEntries, Members.toEntries, valueEq]
      exact resultEq

theorem toValue_of_toEntries_ofEntries {depth : Nat} {members : List (String × Tree)}
    {entries result : List (String × Value)}
    (read : (Members.ofEntries members).toEntries depth entries = .ok result) :
    ∀ member ∈ members, ∃ value, member.2.toValue depth = .ok value := by
  induction members generalizing entries with
  | nil => exact fun _ isMember => nomatch isMember
  | cons member rest ih =>
      rw [Members.ofEntries, Members.toEntries] at read
      obtain ⟨name, -, read⟩ := Steps.bind_eq_ok_iff.mp read
      obtain ⟨value, valueEq, read⟩ := Steps.bind_eq_ok_iff.mp read
      intro other isMember
      cases isMember with
      | head => exact ⟨value, Steps.mapError_eq_ok_iff.mp valueEq⟩
      | tail _ isMember => exact ih read other isMember

end Json

namespace Schema

open Json

/-- A node with one keyword taken from another node. -/
def Node.take (node other : Node) : Keyword → Node
  | .title => { node with title := other.title }
  | .description => { node with description := other.description }
  | .typeKeyword => { node with typeKeyword := other.typeKeyword }
  | .properties => { node with properties := other.properties }
  | .required => { node with required := other.required }
  | .items => { node with items := other.items }
  | .additional => { node with additional := other.additional }
  | .defaultKeyword => { node with defaultKeyword := other.defaultKeyword }
  | .reference => { node with reference := other.reference }
  | .enumeration => { node with enumeration := other.enumeration }
  | .constant => { node with constant := other.constant }
  | .allOf => { node with allOf := other.allOf }
  | .anyOf => { node with anyOf := other.anyOf }

/-- Keywords are taken in any order. -/
theorem Node.take_comm {first second : Keyword} (apart : first ≠ second) (node left right : Node) :
    (node.take left first).take right second = (node.take right second).take left first := by
  cases first <;> cases second <;> first | rfl | exact absurd rfl apart

/-- The value of a keyword is read into a node as it is read into an empty one. -/
theorem Node.assign_eq_ok_iff {node assigned : Node} {depth : Nat} {tree : Tree}
    {readings : NodeReadings} {keyword : Keyword} :
    node.assign depth tree readings keyword = .ok assigned ↔
      ∃ value, Node.empty.assign depth tree readings keyword = .ok value ∧
        node.take value keyword = assigned := by
  cases keyword <;>
    simp only [Node.assign, Node.take, Steps.bind_eq_ok_iff, Steps.pure_eq_ok_iff] <;>
    constructor
  all_goals first
    | rintro ⟨value, read, rfl⟩; exact ⟨_, ⟨value, read, rfl⟩, rfl⟩
    | rintro ⟨_, ⟨value, read, rfl⟩, rfl⟩; exact ⟨value, read, rfl⟩

theorem keys_putProperty_of_notMem {key : String} {node : Node} {properties : List (String × Node)}
    (isNew : key ∉ properties.map Prod.fst) :
    (putProperty key node properties).map Prod.fst = properties.map Prod.fst ++ [key] := by
  induction properties with
  | nil => rfl
  | cons property rest ih =>
      obtain ⟨other, old⟩ := property
      obtain ⟨apart, isNew⟩ := List.ne_and_not_mem_of_not_mem_cons isNew
      rw [putProperty, if_neg apart.symm, List.map_cons, ih isNew, List.map_cons, List.cons_append]

theorem keys_readPropertyMembers {depth : Nat} {properties result : List (String × Node)}
    {entries : List (String × Tree)}
    (distinct : (properties.map Prod.fst ++ entries.map Prod.fst).Nodup)
    (read : readPropertyMembers depth properties (.ofEntries entries) = .ok result) :
    result.map Prod.fst = properties.map Prod.fst ++ entries.map Prod.fst := by
  induction entries generalizing properties with
  | nil =>
      obtain rfl := Except.ok.inj read
      rw [List.map_nil, List.append_nil]
  | cons entry rest ih =>
      obtain ⟨key, tree⟩ := entry
      rw [Members.ofEntries, readPropertyMembers] at read
      obtain ⟨_, keyEq, read⟩ := Steps.bind_eq_ok_iff.mp read
      obtain rfl := Except.ok.inj keyEq
      obtain ⟨node, -, read⟩ := Steps.bind_eq_ok_iff.mp read
      rw [List.map_cons] at distinct ⊢
      have isNew : key ∉ properties.map Prod.fst := fun isOld =>
        (List.nodup_append.mp distinct).2.2 key isOld key List.mem_cons_self rfl
      have keys :
          (putProperty key node properties).map Prod.fst = properties.map Prod.fst ++ [key] :=
        keys_putProperty_of_notMem isNew
      rw [ih (keys ▸ by rwa [List.append_assoc]) read, keys, List.append_assoc]
      rfl

/-- The properties of a schema are in the order in which the text gives their keys. -/
theorem keys_readProperties {depth start : Nat} {entries : List (String × Tree)}
    {properties : List (String × Node)} (distinct : (entries.map Prod.fst).Nodup)
    (read : readProperties depth (.object start (.ofEntries entries)) = .ok properties) :
    properties.map Prod.fst = entries.map Prod.fst := by
  rw [readProperties] at read
  obtain ⟨inner, -, read⟩ := Steps.bind_eq_ok_iff.mp read
  have keys := keys_readPropertyMembers (by rwa [List.map_nil, List.nil_append]) read
  rwa [List.map_nil, List.nil_append] at keys

/-- The members of an object, read one by one: a keyword into its field, unless it has been seen,
and what is no keyword as a whole, without a trace. -/
inductive ReadsMembers (depth : Nat) :
    List Keyword → Node → List (String × Tree) → Node → Prop
  | nil (seen : List Keyword) (node : Node) : ReadsMembers depth seen node [] node
  | keyword {seen : List Keyword} {node value result : Node} {name : String} {tree : Tree}
      {keyword : Keyword} {rest : List (String × Tree)}
      (isKeyword : Keyword.ofName? name = some keyword) (unseen : keyword ∉ seen)
      (read : Node.empty.assign depth tree (.of depth tree) keyword = .ok value)
      (further : ReadsMembers depth (keyword :: seen) (node.take value keyword) rest result) :
      ReadsMembers depth seen node ((name, tree) :: rest) result
  | skipped {seen : List Keyword} {node result : Node} {name : String} {tree : Tree}
      {rest : List (String × Tree)} (noKeyword : Keyword.ofName? name = none)
      (isWhole : tree.skipFault? = none) (further : ReadsMembers depth seen node rest result) :
      ReadsMembers depth seen node ((name, tree) :: rest) result

theorem readMembers_ofEntries_iff {depth : Nat} {seen : List Keyword} {node result : Node}
    {entries : List (String × Tree)} :
    readMembers depth seen node (.ofEntries entries) = .ok result ↔
      ReadsMembers depth seen node entries result := by
  constructor
  · intro read
    induction entries generalizing seen node with
    | nil =>
        obtain rfl := Except.ok.inj read
        exact .nil seen node
    | cons entry rest ih =>
        obtain ⟨name, tree⟩ := entry
        rw [Members.ofEntries, readMembers] at read
        obtain ⟨_, nameEq, read⟩ := Steps.bind_eq_ok_iff.mp read
        obtain rfl := Except.ok.inj nameEq
        split at read
        · next noKeyword =>
            split at read
            · cases read
            · next isWhole => exact .skipped noKeyword isWhole (ih read)
        · next keyword isKeyword =>
            split at read
            · cases read
            · next unseen =>
                obtain ⟨assigned, assignedEq, read⟩ := Steps.bind_eq_ok_iff.mp read
                have placed := Steps.mapError_eq_ok_iff.mp (Steps.mapError_eq_ok_iff.mp assignedEq)
                obtain ⟨value, valueEq, rfl⟩ := Node.assign_eq_ok_iff.mp placed
                exact .keyword isKeyword unseen valueEq (ih read)
  · intro reads
    induction reads with
    | nil => rfl
    | @keyword seen node value result name tree keyword rest isKeyword unseen read _ ih =>
        have placed := Node.assign_eq_ok_iff.mpr ⟨value, read, (rfl : node.take value keyword = _)⟩
        rw [Members.ofEntries, readMembers]
        refine Steps.bind_eq_ok_iff.mpr ⟨name, rfl, ?_⟩
        simp only [isKeyword, if_neg unseen]
        exact Steps.bind_eq_ok_iff.mpr
          ⟨_, Steps.mapError_eq_ok_iff.mpr (Steps.mapError_eq_ok_iff.mpr placed), ih⟩
    | @skipped seen node result name tree rest noKeyword isWhole _ ih =>
        rw [Members.ofEntries, readMembers]
        refine Steps.bind_eq_ok_iff.mpr ⟨name, rfl, ?_⟩
        simp only [noKeyword, isWhole]
        exact ih

namespace ReadsMembers

variable {depth : Nat} {seen others : List Keyword} {node result : Node}
  {entries kept : List (String × Tree)}

/-- Only which keywords have been seen matters, and not in which order. -/
theorem of_mem_iff (reads : ReadsMembers depth seen node entries result)
    (same : ∀ keyword, keyword ∈ seen ↔ keyword ∈ others) :
    ReadsMembers depth others node entries result := by
  induction reads generalizing others with
  | nil => exact .nil _ _
  | keyword isKeyword unseen read _ ih =>
      refine .keyword isKeyword (fun isSeen => unseen ((same _).mpr isSeen)) read
        (ih fun other => ?_)
      rw [List.mem_cons, List.mem_cons, same]
  | skipped noKeyword isWhole _ ih => exact .skipped noKeyword isWhole (ih same)

theorem swap {first second : String × Tree}
    (reads : ReadsMembers depth seen node (first :: second :: entries) result) :
    ReadsMembers depth seen node (second :: first :: entries) result := by
  cases reads with
  | keyword isKeyword unseen read further =>
      cases further with
      | keyword isOther otherUnseen otherRead further =>
          obtain ⟨apart, otherUnseen⟩ := List.ne_and_not_mem_of_not_mem_cons otherUnseen
          refine .keyword isOther otherUnseen otherRead (.keyword isKeyword ?_ read ?_)
          · exact List.not_mem_cons_of_ne_of_not_mem apart.symm unseen
          · rw [Node.take_comm apart]
            exact further.of_mem_iff fun keyword => by
              rw [List.mem_cons, List.mem_cons, List.mem_cons, List.mem_cons]
              exact or_left_comm
      | skipped noKeyword isWhole further =>
          exact .skipped noKeyword isWhole (.keyword isKeyword unseen read further)
  | skipped noKeyword isWhole further =>
      cases further with
      | keyword isKeyword unseen read further =>
          exact .keyword isKeyword unseen read (.skipped noKeyword isWhole further)
      | skipped noOther otherIsWhole further =>
          exact .skipped noOther otherIsWhole (.skipped noKeyword isWhole further)

/-- Members are read in any order as the same schema. -/
theorem perm (permuted : entries.Perm kept) (reads : ReadsMembers depth seen node entries result) :
    ReadsMembers depth seen node kept result := by
  induction permuted generalizing seen node with
  | nil => exact reads
  | cons entry _ ih =>
      cases reads with
      | keyword isKeyword unseen read further => exact .keyword isKeyword unseen read (ih further)
      | skipped noKeyword isWhole further => exact .skipped noKeyword isWhole (ih further)
  | swap first second rest => exact reads.swap
  | trans _ _ ih again => exact again (ih reads)

end ReadsMembers

/-- Members are left out whose keys are no keywords. -/
inductive Thinned : List (String × Tree) → List (String × Tree) → Prop
  | nil : Thinned [] []
  | kept (member : String × Tree) {rest fewer : List (String × Tree)}
      (further : Thinned rest fewer) :
      Thinned (member :: rest) (member :: fewer)
  | leftOut {member : String × Tree} {rest fewer : List (String × Tree)}
      (noKeyword : Keyword.ofName? member.1 = none) (further : Thinned rest fewer) :
      Thinned (member :: rest) fewer

theorem Thinned.subset {members fewer : List (String × Tree)} (thinned : Thinned members fewer) :
    fewer ⊆ members := by
  induction thinned with
  | nil => exact List.Subset.refl _
  | kept member _ ih => exact List.cons_subset_cons member ih
  | leftOut _ _ ih => exact List.subset_cons_of_subset _ ih

/-- What is no keyword may be left out. -/
theorem ReadsMembers.thin {depth : Nat} {seen : List Keyword} {node result : Node}
    {members fewer : List (String × Tree)} (thinned : Thinned members fewer)
    (reads : ReadsMembers depth seen node members result) :
    ReadsMembers depth seen node fewer result := by
  induction thinned generalizing seen node with
  | nil => exact reads
  | kept member _ ih =>
      cases reads with
      | keyword isKeyword unseen read further => exact .keyword isKeyword unseen read (ih further)
      | skipped noKeyword isWhole further => exact .skipped noKeyword isWhole (ih further)
  | leftOut noKeyword _ ih =>
      cases reads with
      | keyword isKeyword => nomatch noKeyword.symm.trans isKeyword
      | skipped _ _ further => exact ih further

/-- The members of an object in any order, and without some whose keys are no keywords. -/
def Rearranged (first second : Members) : Prop :=
  ∃ members kept others, first = .ofEntries members ∧ second = .ofEntries others ∧
    Thinned members kept ∧ kept.Perm others

/-- Objects that stand for schemas are rearranged, and nothing else is replaced. -/
def rearrangement : Replacement where
  objects _ _ := Rearranged
  skipped _ _ _ := False

/-- An object that reads as a schema reads as the same schema when its members are rearranged. -/
theorem congruence_rearrangement : rearrangement.Congruence True (fun _ => Eq) where
  refl _ _ := rfl
  related _ _ _ := Node.eq_of_related
  plain := by
    rintro _ depth _ _ ⟨members, kept, others, rfl, rfl, thinned, permuted⟩
    refine .of_ok trivial fun value read => ?_
    have values := toValue_of_toEntries_ofEntries read
    have otherValues : ∀ member ∈ others, ∃ value, member.2.toValue depth = .ok value :=
      fun member isMember => values member (thinned.subset (permuted.mem_iff.mpr isMember))
    obtain ⟨result, resultEq⟩ := exists_toEntries_ofEntries otherValues []
    exact ⟨result, resultEq, trivial⟩
  reads := by
    rintro _ depth _ _ ⟨members, kept, others, rfl, rfl, thinned, permuted⟩
    refine .of_ok trivial fun node read => ⟨node, ?_, rfl⟩
    have reads := readMembers_ofEntries_iff.mp read
    exact readMembers_ofEntries_iff.mpr ((reads.thin thinned).perm permuted)
  skips := False.elim

/-- Trees of documents one after the other, in each of which objects of the one before are
rearranged that stand for schemas. -/
abbrev RearrangedDocuments : Tree → Tree → Prop :=
  Relation.ReflTransGen (rearrangement.InSchema false depthLimit)

/-- Trees of documents are read as the same schema when objects in them are rearranged. -/
theorem readNode_rearranged {first second : Tree} {node : Node}
    (rearranged : RearrangedDocuments first second) (read : readNode depthLimit first = .ok node) :
    readNode depthLimit second = .ok node := by
  induction rearranged with
  | refl => exact read
  | tail _ step ih =>
      have reads := congruence_rearrangement.readNode_inSchema step
      rw [ih] at reads
      obtain ⟨other, otherEq, rfl⟩ := reads.exists_of_ok
      exact otherEq

end Schema
end SchemaClasses
