import SchemaClasses.Proofs.Schema.ReadingPlaces

/-!
# Schemas in their contexts

Objects that stand for schemas in a document are replaced by others, at any depth and any number of
them at once, and so are values under keys that are no keywords.  If the objects of each pair read
as related schemas, then so do the documents, and if their readings are refused together, then so
are those of the documents.
-/

namespace SchemaClasses
namespace Schema

open Json

/-- What a tree reads as if a keyword holds schemas. -/
def NodeReadings.of (depth : Nat) (tree : Tree) : NodeReadings :=
  ⟨fun _ => readNode depth tree, fun _ => readNodes depth tree, fun _ => readProperties depth tree⟩

/-- What may take the place of what in a document. -/
structure Replacement where
  /-- Pairs of objects, by their members, where a schema is read to some depth.  The flag says
  whether the schema is a branch of `anyOf`. -/
  objects : Bool → Nat → Members → Members → Prop
  /-- Pairs of values under a key that is no keyword. -/
  skipped : Nat → Tree → Tree → Prop

namespace Replacement

mutual

/-- Two trees that are read as schemas are the same up to replaced objects. -/
inductive InSchema (replaced : Replacement) : Bool → Nat → Tree → Tree → Prop
  | same (isBranch : Bool) (depth : Nat) (tree : Tree) : InSchema replaced isBranch depth tree tree
  | here {isBranch : Bool} {depth : Nat} (start : Nat) {first second : Members}
      (pair : replaced.objects isBranch (depth - 1) first second) :
      InSchema replaced isBranch depth (.object start first) (.object start second)
  | object {isBranch : Bool} {depth : Nat} (start : Nat) {first second : Members}
      (members : InMembers replaced (depth - 1) first second) :
      InSchema replaced isBranch depth (.object start first) (.object start second)
  | array {isBranch : Bool} {depth : Nat} (start : Nat) {first second : Elements}
      (positions : InPositions replaced (depth - 1) Keyword.all first second) :
      InSchema replaced isBranch depth (.array start first) (.array start second)

/-- The members of two objects that are read as schemas. -/
inductive InMembers (replaced : Replacement) : Nat → Members → Members → Prop
  | closed (depth : Nat) : InMembers replaced depth .closed .closed
  | broken (depth : Nat) (breach : Breach) :
      InMembers replaced depth (.broken breach) (.broken breach)
  | keyAlone (depth : Nat) (key : Except Fault String) (keyLeave : Nat) (missing : Fault) :
      InMembers replaced depth (.keyAlone key keyLeave missing) (.keyAlone key keyLeave missing)
  | unchanged {depth : Nat} (key : Except Fault String) (keyLeave : Nat) (tree : Tree)
      (leave : Nat) {rest others : Members} (further : InMembers replaced depth rest others) :
      InMembers replaced depth (.member key keyLeave tree leave rest)
        (.member key keyLeave tree leave others)
  | skipped {depth : Nat} {name : String} (keyLeave : Nat) {first second : Tree} (leave : Nat)
      {rest others : Members} (noKeyword : Keyword.ofName? name = none)
      (pair : replaced.skipped depth first second)
      (further : InMembers replaced depth rest others) :
      InMembers replaced depth (.member (.ok name) keyLeave first leave rest)
        (.member (.ok name) keyLeave second leave others)
  | changed {depth : Nat} {name : String} {keyword : Keyword} (keyLeave : Nat)
      {first second : Tree} (leave : Nat) {rest others : Members}
      (isKeyword : Keyword.ofName? name = some keyword)
      (value : InValue replaced depth keyword first second)
      (further : InMembers replaced depth rest others) :
      InMembers replaced depth (.member (.ok name) keyLeave first leave rest)
        (.member (.ok name) keyLeave second leave others)

/-- The elements of two arrays that give schemas by the position of their keywords. -/
inductive InPositions (replaced : Replacement) : Nat → List Keyword → Elements → Elements → Prop
  | closed (depth : Nat) (keywords : List Keyword) :
      InPositions replaced depth keywords .closed .closed
  | broken (depth : Nat) (keywords : List Keyword) (breach : Breach) :
      InPositions replaced depth keywords (.broken breach) (.broken breach)
  /-- No keyword is left. -/
  | beyond (depth : Nat) (elements : Elements) : InPositions replaced depth [] elements elements
  | element {depth : Nat} {keyword : Keyword} {keywords : List Keyword} (start : Nat)
      {first second : Tree} (leave : Nat) {rest others : Elements}
      (value : InValue replaced depth keyword first second)
      (further : InPositions replaced depth keywords rest others) :
      InPositions replaced depth (keyword :: keywords) (.element start first leave rest)
        (.element start second leave others)

/-- The values of a keyword. -/
inductive InValue (replaced : Replacement) : Nat → Keyword → Tree → Tree → Prop
  | same (depth : Nat) (keyword : Keyword) (tree : Tree) :
      InValue replaced depth keyword tree tree
  | items {depth : Nat} {first second : Tree}
      (values : InSchema replaced false depth first second) :
      InValue replaced depth .items first second
  | additional {depth : Nat} {first second : Tree}
      (values : InSchema replaced false depth first second) :
      InValue replaced depth .additional first second
  | allOf {depth : Nat} (start : Nat) {first second : Elements}
      (parts : InElements replaced false (depth - 1) first second) :
      InValue replaced depth .allOf (.array start first) (.array start second)
  | anyOf {depth : Nat} (start : Nat) {first second : Elements}
      (branches : InElements replaced true (depth - 1) first second) :
      InValue replaced depth .anyOf (.array start first) (.array start second)
  | properties {depth : Nat} (start : Nat) {first second : Members}
      (members : InProperties replaced (depth - 1) first second) :
      InValue replaced depth .properties (.object start first) (.object start second)

/-- The elements of two arrays of schemas. -/
inductive InElements (replaced : Replacement) : Bool → Nat → Elements → Elements → Prop
  | closed (isBranch : Bool) (depth : Nat) : InElements replaced isBranch depth .closed .closed
  | broken (isBranch : Bool) (depth : Nat) (breach : Breach) :
      InElements replaced isBranch depth (.broken breach) (.broken breach)
  | element {isBranch : Bool} {depth : Nat} (start : Nat) {first second : Tree} (leave : Nat)
      {rest others : Elements} (value : InSchema replaced isBranch depth first second)
      (further : InElements replaced isBranch depth rest others) :
      InElements replaced isBranch depth (.element start first leave rest)
        (.element start second leave others)

/-- The members of two objects that give schemas by their keys. -/
inductive InProperties (replaced : Replacement) : Nat → Members → Members → Prop
  | closed (depth : Nat) : InProperties replaced depth .closed .closed
  | broken (depth : Nat) (breach : Breach) :
      InProperties replaced depth (.broken breach) (.broken breach)
  | keyAlone (depth : Nat) (key : Except Fault String) (keyLeave : Nat) (missing : Fault) :
      InProperties replaced depth (.keyAlone key keyLeave missing) (.keyAlone key keyLeave missing)
  | member {depth : Nat} (key : Except Fault String) (keyLeave : Nat) {first second : Tree}
      (leave : Nat) {rest others : Members} (value : InSchema replaced false depth first second)
      (further : InProperties replaced depth rest others) :
      InProperties replaced depth (.member key keyLeave first leave rest)
        (.member key keyLeave second leave others)

end

/-- Replaced objects are read together, as plain values and as schemas that are alike, and replaced
values under other keys are skipped, and read together as plain values. -/
structure Congruence (replaced : Replacement) (excused : Prop)
    (alike : Bool → Node → Node → Prop) : Prop where
  refl : ∀ isBranch node, alike isBranch node node
  /-- Schemas that hold schemas which are alike are alike themselves. -/
  related : ∀ isBranch {first second},
    Node.Related (alike false) (alike true) first second → alike isBranch first second
  plain : ∀ {isBranch depth first second}, replaced.objects isBranch depth first second →
    ReadsAs excused (fun _ _ => True) (first.toEntries depth []) (second.toEntries depth [])
  reads : ∀ {isBranch depth first second}, replaced.objects isBranch depth first second →
    ReadsAs excused (alike isBranch) (readMembers depth [] .empty first)
      (readMembers depth [] .empty second)
  skips : ∀ {depth first second}, replaced.skipped depth first second →
    first.skipFault? = none ∧ second.skipFault? = none ∧
      ReadsAs excused (fun _ _ => True) (first.toValue depth) (second.toValue depth)

variable {excused : Prop} {alike : Bool → Node → Node → Prop} {replaced : Replacement}

theorem InSchema.isNull_eq {isBranch : Bool} {depth : Nat} {first second : Tree}
    (inSchema : InSchema replaced isBranch depth first second) : isNull first = isNull second := by
  cases inSchema <;> rfl

theorem InSchema.permission?_eq {isBranch : Bool} {depth : Nat} {first second : Tree}
    (inSchema : InSchema replaced isBranch depth first second) :
    permission? first = permission? second := by
  cases inSchema <;> rfl

theorem readNodes_of_elements {alike : Node → Node → Prop} {depth : Nat} (start : Nat)
    {first second : Elements}
    (reads : ReadsAs excused (List.Forall₂ alike) (readNodeElements (depth - 1) 0 first)
      (readNodeElements (depth - 1) 0 second)) :
    ReadsAs excused (List.Forall₂ alike) (readNodes depth (.array start first))
      (readNodes depth (.array start second)) := by
  rw [readNodes, readNodes]
  exact .descend _ _ _ reads

theorem readProperties_of_members {alike : Node → Node → Prop} {depth : Nat} (start : Nat)
    {first second : Members}
    (reads : ReadsAs excused (List.Forall₂ (SameKey alike))
      (readPropertyMembers (depth - 1) [] first) (readPropertyMembers (depth - 1) [] second)) :
    ReadsAs excused (List.Forall₂ (SameKey alike)) (readProperties depth (.object start first))
      (readProperties depth (.object start second)) := by
  rw [readProperties, readProperties]
  exact .descend _ _ _ reads

namespace Congruence

mutual

/-- Documents with replaced objects are read together as plain values. -/
theorem toValue_inSchema (congruence : Congruence replaced excused alike)
    {isBranch : Bool} {depth : Nat} {first second : Tree} :
    InSchema replaced isBranch depth first second →
      ReadsAs excused (fun _ _ => True) (first.toValue depth) (second.toValue depth)
  | .same _ depth tree => .of_eq (fun _ => trivial) _
  | .here start pair => by
      rw [Tree.toValue, Tree.toValue]
      exact .descend _ _ _ ((congruence.plain pair).bind fun _ _ _ => .ok trivial)
  | .object start members => by
      rw [Tree.toValue, Tree.toValue]
      exact .descend _ _ _ ((congruence.toEntries_inMembers [] [] members).bind fun _ _ _ =>
        .ok trivial)
  | .array start positions => by
      rw [Tree.toValue, Tree.toValue]
      exact .descend _ _ _ ((congruence.toValues_inPositions 0 positions).bind fun _ _ _ =>
        .ok trivial)

theorem toEntries_inMembers (congruence : Congruence replaced excused alike)
    {depth : Nat} {first second : Members}
    (entries others : List (String × Value)) :
    InMembers replaced depth first second →
      ReadsAs excused (fun _ _ => True) (first.toEntries depth entries)
        (second.toEntries depth others)
  | .closed _ => .ok trivial
  | .broken _ _ => .refused rfl rfl
  | .keyAlone _ key _ _ => by
      rw [Members.toEntries, Members.toEntries]
      exact ReadsAs.bind_self fun _ _ => .refused rfl rfl
  | .unchanged _ _ _ _ further => by
      rw [Members.toEntries, Members.toEntries]
      exact ReadsAs.bind_self fun _ _ => ReadsAs.bind_self fun _ _ =>
        congruence.toEntries_inMembers _ _ further
  | .skipped _ _ _ pair further => by
      rw [Members.toEntries, Members.toEntries]
      refine ReadsAs.bind_self fun _ _ => ?_
      exact ((congruence.skips pair).2.2.under _).bind fun _ _ _ =>
        congruence.toEntries_inMembers _ _ further
  | .changed _ _ _ value further => by
      rw [Members.toEntries, Members.toEntries]
      refine ReadsAs.bind_self fun _ _ => ?_
      exact ((congruence.toValue_inValue value).under _).bind fun _ _ _ =>
        congruence.toEntries_inMembers _ _ further

theorem toValues_inPositions (congruence : Congruence replaced excused alike)
    {depth : Nat} {keywords : List Keyword} {first second : Elements}
    (position : Nat) :
    InPositions replaced depth keywords first second →
      ReadsAs excused (fun _ _ => True) (first.toValues depth position)
        (second.toValues depth position)
  | .closed _ _ => .ok trivial
  | .broken _ _ _ => .refused rfl rfl
  | .beyond _ _ => .of_eq (fun _ => trivial) _
  | .element _ _ value further => by
      rw [Elements.toValues, Elements.toValues]
      exact ((congruence.toValue_inValue value).under _).bind fun _ _ _ =>
        (congruence.toValues_inPositions (position + 1) further).bind fun _ _ _ => .ok trivial

theorem toValue_inValue (congruence : Congruence replaced excused alike)
    {depth : Nat} {keyword : Keyword} {first second : Tree} :
    InValue replaced depth keyword first second →
      ReadsAs excused (fun _ _ => True) (first.toValue depth) (second.toValue depth)
  | .same _ _ _ => .of_eq (fun _ => trivial) _
  | .items values => congruence.toValue_inSchema values
  | .additional values => congruence.toValue_inSchema values
  | .allOf _ parts => by
      rw [Tree.toValue, Tree.toValue]
      exact .descend _ _ _ ((congruence.toValues_inElements 0 parts).bind fun _ _ _ =>
        .ok trivial)
  | .anyOf _ branches => by
      rw [Tree.toValue, Tree.toValue]
      exact .descend _ _ _ ((congruence.toValues_inElements 0 branches).bind fun _ _ _ =>
        .ok trivial)
  | .properties _ members => by
      rw [Tree.toValue, Tree.toValue]
      exact .descend _ _ _ ((congruence.toEntries_inProperties [] [] members).bind fun _ _ _ =>
        .ok trivial)

theorem toValues_inElements (congruence : Congruence replaced excused alike)
    {isBranch : Bool} {depth : Nat} {first second : Elements}
    (position : Nat) :
    InElements replaced isBranch depth first second →
      ReadsAs excused (fun _ _ => True) (first.toValues depth position)
        (second.toValues depth position)
  | .closed _ _ => .ok trivial
  | .broken _ _ _ => .refused rfl rfl
  | .element _ _ value further => by
      rw [Elements.toValues, Elements.toValues]
      exact ((congruence.toValue_inSchema value).under _).bind fun _ _ _ =>
        (congruence.toValues_inElements (position + 1) further).bind fun _ _ _ => .ok trivial

theorem toEntries_inProperties (congruence : Congruence replaced excused alike)
    {depth : Nat} {first second : Members}
    (entries others : List (String × Value)) :
    InProperties replaced depth first second →
      ReadsAs excused (fun _ _ => True) (first.toEntries depth entries)
        (second.toEntries depth others)
  | .closed _ => .ok trivial
  | .broken _ _ => .refused rfl rfl
  | .keyAlone _ key _ _ => by
      rw [Members.toEntries, Members.toEntries]
      exact ReadsAs.bind_self fun _ _ => .refused rfl rfl
  | .member key _ _ value further => by
      rw [Members.toEntries, Members.toEntries]
      refine ReadsAs.bind_self fun _ _ => ?_
      exact ((congruence.toValue_inSchema value).under _).bind fun _ _ _ =>
        congruence.toEntries_inProperties _ _ further

end

theorem related_refl (congruence : Congruence replaced excused alike)
    (node : Node) : Node.Related (alike false) (alike true) node node :=
  .refl (congruence.refl false) (congruence.refl true) node

theorem assign_same (congruence : Congruence replaced excused alike) {node other : Node}
    (related : Node.Related (alike false) (alike true) node other) (depth : Nat) (tree : Tree)
    (keyword : Keyword) :
    ReadsAs excused (Node.Related (alike false) (alike true))
      (node.assign depth tree (.of depth tree) keyword)
      (other.assign depth tree (.of depth tree) keyword) :=
  Node.assign_related (congruence.refl false) (congruence.refl true) related _ _ _ _

mutual

/-- Documents with replaced objects are read together as schemas that are alike. -/
theorem readNode_inSchema (congruence : Congruence replaced excused alike)
    {isBranch : Bool} {depth : Nat} {first second : Tree} :
    InSchema replaced isBranch depth first second →
      ReadsAs excused (alike isBranch) (readNode depth first) (readNode depth second)
  | .same _ _ _ => .of_eq (congruence.refl isBranch) _
  | .here _ pair => by
      rw [readNode, readNode]
      exact .descend _ _ _ (congruence.reads pair)
  | .object _ members => by
      rw [readNode, readNode]
      have reads := congruence.readMembers_inMembers [] (congruence.related_refl .empty) members
      exact .descend _ _ _ (reads.mono fun _ _ => congruence.related isBranch)
  | .array _ positions => by
      rw [readNode, readNode]
      have reads :=
        congruence.readPositions_inPositions 0 (congruence.related_refl .empty) positions
      exact .descend _ _ _ (reads.mono fun _ _ => congruence.related isBranch)

theorem readMembers_inMembers (congruence : Congruence replaced excused alike)
    {depth : Nat} {first second : Members} (seen : List Keyword)
    {node other : Node} (related : Node.Related (alike false) (alike true) node other) :
    InMembers replaced depth first second →
      ReadsAs excused (Node.Related (alike false) (alike true)) (readMembers depth seen node first)
        (readMembers depth seen other second)
  | .closed _ => .ok related
  | .broken _ _ => .refused rfl rfl
  | .keyAlone _ key _ _ => by
      rw [readMembers, readMembers]
      refine ReadsAs.bind_self fun _ _ => ?_
      split
      · split <;> exact .refused rfl rfl
      · exact .refused rfl rfl
  | .unchanged key _ tree _ further => by
      rw [readMembers, readMembers]
      refine ReadsAs.bind_self fun _ _ => ?_
      split
      · split
        · exact .refused rfl rfl
        · exact congruence.readMembers_inMembers seen related further
      · next keyword _ =>
          split
          · exact .refused rfl rfl
          · have assigned := congruence.assign_same related depth tree keyword
            exact ((assigned.under _).leaving _ _).bind fun _ _ related =>
              congruence.readMembers_inMembers (keyword :: seen) related further
  | .skipped _ _ noKeyword pair further => by
      obtain ⟨isWhole, otherIsWhole, -⟩ := congruence.skips pair
      rw [readMembers, readMembers]
      refine ReadsAs.bind_self fun _ nameEq => ?_
      obtain rfl := Except.ok.inj nameEq
      simp only [noKeyword, isWhole, otherIsWhole]
      exact congruence.readMembers_inMembers seen related further
  | .changed _ _ isKeyword value further => by
      rw [readMembers, readMembers]
      refine ReadsAs.bind_self fun _ nameEq => ?_
      obtain rfl := Except.ok.inj nameEq
      rw [isKeyword]
      simp only
      split
      · exact .refused rfl rfl
      · have assigned := congruence.assign_inValue related value
        exact ((assigned.under _).leaving _ _).bind fun _ _ related =>
          congruence.readMembers_inMembers _ related further

theorem readPositions_inPositions (congruence : Congruence replaced excused alike)
    {depth : Nat} {keywords : List Keyword} {first second : Elements}
    (position : Nat) {node other : Node}
    (related : Node.Related (alike false) (alike true) node other) :
    InPositions replaced depth keywords first second →
      ReadsAs excused (Node.Related (alike false) (alike true))
        (readPositions depth keywords position node first)
        (readPositions depth keywords position other second)
  | .closed _ _ => .ok related
  | .broken _ keywords _ => by
      cases keywords <;> exact .refused rfl rfl
  | .beyond _ elements => by
      cases elements with
      | closed => exact .ok related
      | broken breach => exact .refused rfl rfl
      | element => exact .refused rfl rfl
  | .element _ _ value further => by
      rw [readPositions, readPositions]
      have assigned := congruence.assign_inValue related value
      exact ((assigned.under _).leaving _ _).bind fun _ _ related =>
        congruence.readPositions_inPositions (position + 1) related further

theorem assign_inValue (congruence : Congruence replaced excused alike)
    {depth : Nat} {keyword : Keyword} {first second : Tree} {node other : Node}
    (related : Node.Related (alike false) (alike true) node other) :
    InValue replaced depth keyword first second →
      ReadsAs excused (Node.Related (alike false) (alike true))
        (node.assign depth first (.of depth first) keyword)
        (other.assign depth second (.of depth second) keyword)
  | .same _ _ _ => congruence.assign_same related _ _ _
  | .items values => by
      obtain ⟨keyed, -, further, parts, branches⟩ := related
      exact (ReadsAs.optionalNode values.isNull_eq (congruence.readNode_inSchema values)).bind
        fun _ _ items => .ok (.intro keyed items further parts branches)
  | .additional values => by
      obtain ⟨keyed, items, -, parts, branches⟩ := related
      have plain := congruence.toValue_inSchema values
      have reads : ReadsAs excused (Option.Rel (Additional.Rel (alike false)))
          (optional (fun tree => readAdditional depth tree fun _ => readNode depth first) first)
          (optional (fun tree => readAdditional depth tree fun _ => readNode depth second)
            second) :=
        ReadsAs.optional values.isNull_eq
          (ReadsAs.additional values.permission?_eq plain (congruence.readNode_inSchema values))
      exact reads.bind fun _ _ further => .ok (.intro keyed items further parts branches)
  | .allOf start elements => by
      obtain ⟨keyed, items, further, -, branches⟩ := related
      have reads := readNodes_of_elements start (congruence.readNodeElements_inElements 0 elements)
      exact reads.bind fun _ _ parts => .ok (.intro keyed items further parts branches)
  | .anyOf start elements => by
      obtain ⟨keyed, items, further, parts, -⟩ := related
      have reads := readNodes_of_elements start (congruence.readNodeElements_inElements 0 elements)
      exact reads.bind fun _ _ branches => .ok (.intro keyed items further parts branches)
  | .properties start members => by
      obtain ⟨-, items, further, parts, branches⟩ := related
      have reads :=
        readProperties_of_members start (congruence.readPropertyMembers_inProperties .nil members)
      exact reads.bind fun _ _ keyed => .ok (.intro keyed items further parts branches)

theorem readNodeElements_inElements (congruence : Congruence replaced excused alike)
    {isBranch : Bool} {depth : Nat} {first second : Elements}
    (position : Nat) :
    InElements replaced isBranch depth first second →
      ReadsAs excused (List.Forall₂ (alike isBranch)) (readNodeElements depth position first)
        (readNodeElements depth position second)
  | .closed _ _ => .ok .nil
  | .broken _ _ _ => .refused rfl rfl
  | .element _ _ value further => by
      rw [readNodeElements, readNodeElements]
      exact ((congruence.readNode_inSchema value).under _).bind fun _ _ holds =>
        (congruence.readNodeElements_inElements (position + 1) further).bind fun _ _ rest =>
          .ok (.cons holds rest)

theorem readPropertyMembers_inProperties (congruence : Congruence replaced excused alike)
    {depth : Nat} {first second : Members}
    {properties others : List (String × Node)}
    (keyed : List.Forall₂ (SameKey (alike false)) properties others) :
    InProperties replaced depth first second →
      ReadsAs excused (List.Forall₂ (SameKey (alike false)))
        (readPropertyMembers depth properties first) (readPropertyMembers depth others second)
  | .closed _ => .ok keyed
  | .broken _ _ => .refused rfl rfl
  | .keyAlone _ key _ _ => by
      rw [readPropertyMembers, readPropertyMembers]
      exact ReadsAs.bind_self fun _ _ => .refused rfl rfl
  | .member key _ _ value further => by
      rw [readPropertyMembers, readPropertyMembers]
      refine ReadsAs.bind_self fun name _ => ?_
      exact ((congruence.readNode_inSchema value).under _).bind fun _ _ holds =>
        congruence.readPropertyMembers_inProperties (putProperty_related keyed name holds) further

end

/-- Texts whose documents are the same up to replaced objects, wherever their parts stand, are read
together. -/
theorem ofDocument_inSchema (congruence : Congruence replaced excused alike) {first second : String}
    (inSchema : InSchema replaced false depthLimit (lay first).1.unplaced (lay second).1.unplaced) :
    ReadsAs excused (alike false) (Node.ofDocument first) (Node.ofDocument second) :=
  SameReading.trans_readsAs (Node.sameReading_ofDocument first).symm
    (congruence.readNode_inSchema inSchema) (Node.sameReading_ofDocument second)

end Congruence
end Replacement
end Schema
end SchemaClasses
