import SchemaClasses.Proofs.Json.Scanning

/-!
# Layout of a text

A value is laid out from the characters that it takes.  An array and an object end with their
closing bracket, so that they are laid out alike whatever follows them, with any fuel that is enough
for what they take.
-/

namespace SchemaClasses
namespace Json

variable {α : Type} {layer : Nat → Cursor → Laid α} {extra fuel offset : Nat}
  {follows : List Char → Prop} {cursor next landed : Cursor} {part : α} {taken : List Char}
  {tree : Tree} {elements : Elements} {members : Members}

/-- A part of a text that takes some characters, and is laid out alike before any other text of
which `follows` holds.  For every character three units of fuel are enough. -/
structure Spans (layer : Nat → Cursor → Laid α) (extra : Nat) (follows : List Char → Prop)
    (cursor : Cursor) (part : α) (next : Cursor) (taken : List Char) : Prop where
  restEq : cursor.rest = taken ++ next.rest
  again : ∀ fuel rest, 3 * taken.length + extra ≤ fuel → follows rest →
    layer fuel ⟨taken ++ rest, cursor.offset⟩ = (part, .ok ⟨rest, next.offset⟩)

/-- A part of a text is some of its characters, and more than none. -/
def Takes (layer : Nat → Cursor → Laid α) (extra : Nat) (follows : List Char → Prop)
    (cursor : Cursor) (part : α) (next : Cursor) : Prop :=
  ∃ taken, taken ≠ [] ∧ Spans layer extra follows cursor part next taken

/-- A part that is laid out alike whatever follows it. -/
abbrev Closes (layer : Nat → Cursor → Laid α) (extra : Nat) (cursor : Cursor) (part : α)
    (next : Cursor) : Prop :=
  Takes layer extra (fun _ => True) cursor part next

theorem head?_append_of_ne_nil {text : List Char} (notNil : text ≠ []) (first second : List Char) :
    (text ++ first).head? = (text ++ second).head? := by
  obtain ⟨c, others, rfl⟩ := List.exists_cons_of_ne_nil notNil
  rfl

/-- Before a part there may be spaces, which a layer skips first. -/
theorem takes_of_skipSpaces (notNil : taken ≠ [])
    (skipEq : cursor.skipSpaces = ⟨taken ++ next.rest, offset⟩)
    (again : ∀ fuel rest (other : Cursor), 3 * taken.length + extra ≤ fuel + 1 → follows rest →
      other.skipSpaces = ⟨taken ++ rest, offset⟩ →
        layer (fuel + 1) other = (part, .ok ⟨rest, next.offset⟩)) :
    Takes layer extra follows cursor part next := by
  obtain ⟨spaces, restEq, skipAgain⟩ := exists_skipSpaces cursor
  rw [skipEq] at restEq skipAgain
  refine ⟨spaces ++ taken, by simp [notNil], by rw [restEq, List.append_assoc], ?_⟩
  intro fuel rest enough followed
  have takenLength := List.length_pos_of_ne_nil notNil
  rw [List.length_append] at enough
  cases fuel with
  | zero => omega
  | succ fuel =>
      refine again fuel rest _ (by omega) followed ?_
      rw [List.append_assoc]
      exact skipAgain (taken ++ rest) (head?_append_of_ne_nil notNil rest next.rest)

/-- Behind a separator there may be spaces once more. -/
theorem takes_of_separator {separator : Char} {text : List Char} {place : Nat}
    (notNil : taken ≠ []) (skipEq : cursor.skipSpaces = ⟨separator :: text, offset⟩)
    (landedEq : (Cursor.mk text (offset + 1)).skipSpaces = ⟨taken ++ next.rest, place⟩)
    (again : ∀ fuel rest others (other : Cursor), 3 * taken.length + extra ≤ fuel →
      follows rest → other.skipSpaces = ⟨separator :: others, offset⟩ →
      (Cursor.mk others (offset + 1)).skipSpaces = ⟨taken ++ rest, place⟩ →
        layer (fuel + 1) other = (part, .ok ⟨rest, next.offset⟩)) :
    Takes layer extra follows cursor part next := by
  obtain ⟨spaces, textEq, skipAgain⟩ := exists_skipSpaces ⟨text, offset + 1⟩
  rw [landedEq] at textEq skipAgain
  obtain rfl : text = spaces ++ (taken ++ next.rest) := textEq
  have wholeEq : cursor.skipSpaces = ⟨separator :: (spaces ++ taken) ++ next.rest, offset⟩ := by
    rw [skipEq, List.cons_append, List.append_assoc]
  refine takes_of_skipSpaces (List.cons_ne_nil separator (spaces ++ taken)) wholeEq ?_
  intro fuel rest other enough followed otherEq
  rw [List.cons_append, List.append_assoc] at otherEq
  rw [List.length_cons, List.length_append] at enough
  exact again fuel rest _ other (by omega) followed otherEq
    (skipAgain (taken ++ rest) (head?_append_of_ne_nil notNil rest next.rest))

/-- A layer that goes on where the spaces end closes if the layer there does. -/
theorem closes_of_landed {inner : Nat → Cursor → Laid α}
    (closes : Closes inner extra cursor.skipSpaces part next)
    (dispatch : ∀ c others, cursor.skipSpaces = ⟨c :: others, cursor.skipSpaces.offset⟩ →
      ∀ fuel rest place (other : Cursor), other.skipSpaces = ⟨c :: rest, place⟩ →
        layer (fuel + 1) other = inner fuel ⟨c :: rest, place⟩) :
    Closes layer (extra + 1) cursor part next := by
  obtain ⟨taken, notNil, restEq, again⟩ := closes
  obtain ⟨c, others, rfl⟩ := List.exists_cons_of_ne_nil notNil
  have skipEq : cursor.skipSpaces = ⟨c :: others ++ next.rest, cursor.skipSpaces.offset⟩ := by
    rw [← restEq]
  refine takes_of_skipSpaces notNil skipEq ?_
  intro fuel rest other enough _ otherEq
  rw [dispatch c _ skipEq fuel _ _ other otherEq]
  exact again fuel rest (by omega) trivial

theorem literal_eq_ok {letters text : List Char}
    (scanned : Cursor.literal letters ⟨text, offset⟩ = .ok next) :
    text = letters ++ next.rest ∧
      ∀ rest, Cursor.literal letters ⟨letters ++ rest, offset⟩ = .ok ⟨rest, next.offset⟩ := by
  induction letters generalizing text offset with
  | nil =>
      obtain rfl := Except.ok.inj scanned
      exact ⟨rfl, fun rest => rfl⟩
  | cons letter letters ih =>
      cases text with
      | nil => nomatch scanned
      | cons c text =>
          rw [Cursor.literal] at scanned
          split at scanned
          · next isLetter =>
              subst isLetter
              obtain ⟨restEq, again⟩ := ih scanned
              refine ⟨congrArg (c :: ·) restEq, fun rest => ?_⟩
              rw [List.cons_append, Cursor.literal, if_pos rfl]
              exact again rest
          · nomatch scanned

namespace Tree

/-- Whether a tree is an array or an object. -/
def isNested : Tree → Bool
  | .array _ _ => true
  | .object _ _ => true
  | _ => false

/-- What may come behind a tree in the place of `next`. -/
def MayFollow (tree : Tree) (next : Cursor) (rest : List Char) : Prop :=
  tree.isNested = true ∨ rest.head? = next.rest.head?

theorem layLiteral_eq_ok {letters : List Char} {literal : Nat → Tree}
    (laid : layLiteral letters literal cursor = (tree, .ok next)) :
    Cursor.literal letters cursor = .ok next ∧ tree = literal next.offset := by
  unfold layLiteral at laid
  split at laid
  · next after literalEq =>
      obtain ⟨rfl, sameNext⟩ := Prod.mk.inj laid
      obtain rfl := Except.ok.inj sameNext
      exact ⟨literalEq, rfl⟩
  · nomatch (Prod.mk.inj laid).2

theorem layString_eq_ok_iff {text : List Char} {value : Except Fault String} :
    layString ⟨text, offset⟩ = .ok (value, next) ↔
      skipString offset text = .ok next ∧ value = (readString offset text).map Prod.fst := by
  unfold layString
  cases skipString offset text <;> cases readString offset text <;>
    simp [Except.map, and_comm, eq_comm]

theorem layString_eq_ok {text : List Char} {value : Except Fault String}
    (laid : layString ⟨text, offset⟩ = .ok (value, next)) :
    ∃ taken, text = taken ++ next.rest ∧ taken ≠ [] ∧
      ∀ rest, layString ⟨taken ++ rest, offset⟩ = .ok (value, ⟨rest, next.offset⟩) := by
  obtain ⟨skipped, rfl⟩ := layString_eq_ok_iff.mp laid
  obtain ⟨taken, rfl, body⟩ := exists_stringBody skipped
  refine ⟨taken, rfl, ?_, fun rest => ?_⟩
  · rintro rfl
    nomatch body
  · exact layString_eq_ok_iff.mpr ⟨body.skip rest, body.read_map [] next.rest rest⟩

theorem layNumber_eq_ok {text : List Char}
    (laid : layNumber ⟨text, offset⟩ = (tree, .ok next)) :
    ∃ taken, text = taken ++ next.rest ∧ taken ≠ [] ∧ tree.isNested = false ∧
      ∀ rest : List Char, rest.head? = next.rest.head? →
        layNumber ⟨taken ++ rest, offset⟩ = (tree, .ok ⟨rest, next.offset⟩) := by
  unfold layNumber at laid
  split at laid
  · next numeral after scanEq =>
      obtain ⟨rfl, sameNext⟩ := Prod.mk.inj laid
      obtain rfl := Except.ok.inj sameNext
      obtain ⟨taken, restEq, again⟩ := Numeral.scan_looksAhead _ _ _ scanEq
      refine ⟨taken, restEq, ?_, rfl, fun rest headEq => by rw [layNumber, again rest headEq]⟩
      rintro rfl
      have shortens := Numeral.scan_shortens scanEq
      rw [restEq] at shortens
      exact absurd shortens (Nat.lt_irrefl _)
  · nomatch (Prod.mk.inj laid).2

end Tree

theorem layTree_of_number {c : Char} {rest : List Char} (isNumber : c = '-' ∨ c.isDigit = true)
    (skipEq : cursor.skipSpaces = ⟨c :: rest, offset⟩) :
    layTree (fuel + 1) cursor = Tree.layNumber ⟨c :: rest, offset⟩ := by
  have noNumbers : ∀ letter ∈ ['n', 't', 'f', '"', '[', '\x7b'],
      ¬(letter = '-' ∨ letter.isDigit = true) := by simp
  have otherwise : ∀ letter ∈ ['n', 't', 'f', '"', '[', '\x7b'], c ≠ letter := by
    rintro letter member rfl
    exact noNumbers c member isNumber
  simp only [List.forall_mem_cons] at otherwise
  rw [layTree, skipEq]
  simp [otherwise, isNumber]

/-- What follows an element, with the offset at which the array would be left before it. -/
def layMoreElementsLeaving (fuel : Nat) (cursor : Cursor) : Laid (Nat × Elements) :=
  ((cursor.leaveArray, (layMoreElements fuel cursor).1), (layMoreElements fuel cursor).2)

/-- What follows a member, with the offset at which the object would be left before it. -/
def layMoreMembersLeaving (fuel : Nat) (cursor : Cursor) : Laid (Nat × Members) :=
  ((cursor.leaveObject, (layMoreMembers fuel cursor).1), (layMoreMembers fuel cursor).2)

theorem layFirstElement_of_ne {c : Char} {rest : List Char}
    (skipEq : cursor.skipSpaces = ⟨c :: rest, offset⟩) (notClosed : c ≠ ']') :
    layFirstElement (fuel + 1) cursor = layElement fuel ⟨c :: rest, offset⟩ := by
  rw [layFirstElement, skipEq]
  simp [notClosed]

theorem layMoreElements_of_comma {c : Char} {text rest : List Char} {place : Nat}
    (skipEq : cursor.skipSpaces = ⟨',' :: text, offset⟩)
    (landedEq : (Cursor.mk text (offset + 1)).skipSpaces = ⟨c :: rest, place⟩)
    (notClosed : c ≠ ']') :
    layMoreElements (fuel + 1) cursor = layElement fuel ⟨c :: rest, place⟩ := by
  rw [layMoreElements, skipEq]
  simp [landedEq, notClosed]

theorem leaveArray_of_comma {text : List Char}
    (skipEq : cursor.skipSpaces = ⟨',' :: text, offset⟩) :
    cursor.leaveArray = (Cursor.mk text (offset + 1)).skipSpaces.offset := by
  rw [Cursor.leaveArray, skipEq]
  rfl

theorem layFirstMember_of_ne {c : Char} {rest : List Char}
    (skipEq : cursor.skipSpaces = ⟨c :: rest, offset⟩) (notClosed : c ≠ '\x7d') :
    layFirstMember (fuel + 1) cursor = layMember fuel false ⟨c :: rest, offset⟩ := by
  rw [layFirstMember, skipEq]
  simp [notClosed]

theorem leaveObject_of_skipSpaces {c : Char} {rest : List Char}
    (skipEq : cursor.skipSpaces = ⟨c :: rest, offset⟩) (notClosed : c ≠ '\x7d') :
    cursor.leaveObject = offset := by
  rw [Cursor.leaveObject, skipEq]
  simp [notClosed]

theorem layMember_eq {afterComma : Bool} {text rest : List Char} {key : Except Fault String}
    {afterKey afterValue : Cursor} {place : Nat} {value : Tree}
    (keyEq : Tree.layString ⟨text, offset + 1⟩ = .ok (key, afterKey))
    (colonEq : afterKey.skipSpaces = ⟨':' :: rest, place⟩)
    (valueEq : layTree fuel ⟨rest, place + 1⟩ = (value, .ok afterValue)) :
    layMember (fuel + 1) afterComma ⟨'"' :: text, offset⟩ =
      (.member key place value (layMoreMembersLeaving fuel afterValue).1.1
        (layMoreMembersLeaving fuel afterValue).1.2,
        (layMoreMembersLeaving fuel afterValue).2) := by
  have leaveEq := leaveObject_of_skipSpaces colonEq (by decide)
  rw [layMember]
  simp only [keyEq, leaveEq, colonEq, valueEq]
  rfl

theorem takes_of_literal {c : Char} {letters rest : List Char} {literal : Nat → Tree}
    (skipEq : cursor.skipSpaces = ⟨c :: rest, offset⟩)
    (laid : Tree.layLiteral letters literal ⟨rest, offset + 1⟩ = (tree, .ok next))
    (dispatch : ∀ fuel others (other : Cursor), other.skipSpaces = ⟨c :: others, offset⟩ →
      layTree (fuel + 1) other = Tree.layLiteral letters literal ⟨others, offset + 1⟩) :
    Takes layTree 0 (tree.MayFollow next) cursor tree next := by
  obtain ⟨scanned, rfl⟩ := Tree.layLiteral_eq_ok laid
  obtain ⟨rfl, again⟩ := literal_eq_ok scanned
  refine takes_of_skipSpaces (List.cons_ne_nil c letters) skipEq ?_
  intro fuel rest other _ _ otherEq
  rw [dispatch fuel (letters ++ rest) other otherEq, Tree.layLiteral, again rest]

/-- An array or an object is an opening bracket and what closes behind it. -/
theorem takes_of_opening {inner : Nat → Cursor → Laid α} {wrap : α → Tree} {c : Char}
    {rest : List Char} (skipEq : cursor.skipSpaces = ⟨c :: rest, offset⟩)
    (closes : Closes inner 1 ⟨rest, offset + 1⟩ part next)
    (dispatch : ∀ fuel others (other : Cursor), other.skipSpaces = ⟨c :: others, offset⟩ →
      layTree (fuel + 1) other =
        (wrap (inner fuel ⟨others, offset + 1⟩).1, (inner fuel ⟨others, offset + 1⟩).2)) :
    Takes layTree 0 follows cursor (wrap part) next := by
  obtain ⟨taken, -, restEq, again⟩ := closes
  obtain rfl : rest = taken ++ next.rest := restEq
  refine takes_of_skipSpaces (List.cons_ne_nil c taken) skipEq ?_
  intro fuel rest other enough _ otherEq
  rw [List.length_cons] at enough
  rw [dispatch fuel _ other otherEq]
  exact congrArg (fun laid : Laid α => (wrap laid.1, laid.2)) (again fuel rest (by omega) trivial)

/-- With the given fuel, whatever is laid out depends on what it takes. -/
structure LaysLocally (fuel : Nat) : Prop where
  tree : ∀ cursor tree next, layTree fuel cursor = (tree, .ok next) →
    Takes layTree 0 (tree.MayFollow next) cursor tree next
  firstElement : ∀ cursor elements next, layFirstElement fuel cursor = (elements, .ok next) →
    Closes layFirstElement 1 cursor elements next
  element : ∀ cursor elements next, layElement fuel cursor = (elements, .ok next) →
    Closes layElement 0 cursor elements next
  moreElements : ∀ cursor elements next, layMoreElements fuel cursor = (elements, .ok next) →
    Closes layMoreElementsLeaving 0 cursor (cursor.leaveArray, elements) next
  firstMember : ∀ cursor members next, layFirstMember fuel cursor = (members, .ok next) →
    Closes layFirstMember 1 cursor members next
  member : ∀ afterComma cursor members next,
    layMember fuel afterComma cursor = (members, .ok next) →
      Closes (fun fuel => layMember fuel afterComma) 0 cursor members next
  moreMembers : ∀ cursor members next, layMoreMembers fuel cursor = (members, .ok next) →
    Closes layMoreMembersLeaving 0 cursor (cursor.leaveObject, members) next

namespace LaysLocally

theorem treeStep (fuelLocal : LaysLocally fuel)
    (laid : layTree (fuel + 1) cursor = (tree, .ok next)) :
    Takes layTree 0 (tree.MayFollow next) cursor tree next := by
  rw [layTree] at laid
  split at laid
  · nomatch (Prod.mk.inj laid).2
  · next skipEq =>
      refine takes_of_literal skipEq laid fun fuel others other otherEq => ?_
      rw [layTree, otherEq]
      rfl
  · next skipEq =>
      refine takes_of_literal skipEq laid fun fuel others other otherEq => ?_
      rw [layTree, otherEq]
      rfl
  · next skipEq =>
      refine takes_of_literal skipEq laid fun fuel others other otherEq => ?_
      rw [layTree, otherEq]
      rfl
  · next rest offset skipEq =>
      split at laid
      · next text after stringEq =>
          obtain ⟨rfl, sameNext⟩ := Prod.mk.inj laid
          obtain rfl := Except.ok.inj sameNext
          obtain ⟨taken, rfl, -, again⟩ := Tree.layString_eq_ok stringEq
          refine takes_of_skipSpaces (List.cons_ne_nil '"' taken) skipEq ?_
          intro fuel rest other _ _ otherEq
          rw [layTree, otherEq]
          simp only [List.cons_append, again rest]
      · nomatch (Prod.mk.inj laid).2
  · next rest offset skipEq =>
      obtain ⟨rfl, closed⟩ := Prod.mk.inj laid
      refine takes_of_opening skipEq (fuelLocal.firstElement _ _ _ (Prod.ext rfl closed)) ?_
      intro fuel others other otherEq
      rw [layTree, otherEq]
      rfl
  · next rest offset skipEq =>
      obtain ⟨rfl, closed⟩ := Prod.mk.inj laid
      refine takes_of_opening skipEq (fuelLocal.firstMember _ _ _ (Prod.ext rfl closed)) ?_
      intro fuel others other otherEq
      rw [layTree, otherEq]
      rfl
  · next c rest offset _ _ _ _ _ _ skipEq =>
      split at laid
      · next isNumber =>
          obtain ⟨taken, textEq, notNil, isScalar, again⟩ := Tree.layNumber_eq_ok laid
          refine takes_of_skipSpaces notNil (textEq ▸ skipEq) ?_
          intro fuel rest other _ followed otherEq
          obtain ⟨c, others, rfl⟩ := List.exists_cons_of_ne_nil notNil
          obtain ⟨rfl, -⟩ := List.cons.inj textEq
          rw [layTree_of_number isNumber otherEq]
          exact again rest (followed.resolve_left (by simp [isScalar]))
      · nomatch (Prod.mk.inj laid).2

theorem firstElementStep (fuelLocal : LaysLocally fuel)
    (laid : layFirstElement (fuel + 1) cursor = (elements, .ok next)) :
    Closes layFirstElement 1 cursor elements next := by
  rw [layFirstElement] at laid
  split at laid
  · nomatch (Prod.mk.inj laid).2
  · next rest offset skipEq =>
      obtain ⟨rfl, sameNext⟩ := Prod.mk.inj laid
      obtain rfl := Except.ok.inj sameNext
      refine takes_of_skipSpaces (List.cons_ne_nil ']' []) skipEq ?_
      intro fuel rest other _ _ otherEq
      rw [layFirstElement, otherEq]
      rfl
  · next landed notEnd notClosed =>
      refine closes_of_landed (fuelLocal.element _ _ _ laid) ?_
      intro c others skipEq fuel rest place other otherEq
      refine layFirstElement_of_ne otherEq ?_
      rintro rfl
      exact notClosed _ _ skipEq

theorem elementStep (fuelLocal : LaysLocally fuel)
    (laid : layElement (fuel + 1) cursor = (elements, .ok next)) :
    Closes layElement 0 cursor elements next := by
  rw [layElement] at laid
  split at laid
  · nomatch (Prod.mk.inj laid).2
  · next value afterValue valueEq =>
      obtain ⟨rfl, restLaid⟩ := Prod.mk.inj laid
      obtain ⟨first, firstNotNil, firstRestEq, firstAgain⟩ := fuelLocal.tree _ _ _ valueEq
      obtain ⟨more, moreNotNil, moreRestEq, moreAgain⟩ :=
        fuelLocal.moreElements _ _ _ (Prod.ext rfl restLaid)
      refine ⟨first ++ more, by simp [firstNotNil], ?_, ?_⟩
      · rw [firstRestEq, moreRestEq, List.append_assoc]
      · intro fuel rest enough _
        have firstLength := List.length_pos_of_ne_nil firstNotNil
        have moreLength := List.length_pos_of_ne_nil moreNotNil
        rw [List.length_append] at enough
        cases fuel with
        | zero => omega
        | succ fuel =>
            -- What follows the value is not empty, so that the value ends at the same character.
            have headEq : (more ++ rest).head? = afterValue.rest.head? := by
              rw [moreRestEq]
              exact head?_append_of_ne_nil moreNotNil rest next.rest
            have valueAgain := firstAgain fuel (more ++ rest) (by omega) (Or.inr headEq)
            obtain ⟨sameParts, sameNext⟩ := Prod.mk.inj (moreAgain fuel rest (by omega) trivial)
            obtain ⟨sameLeave, sameElements⟩ := Prod.mk.inj sameParts
            rw [List.append_assoc, layElement, valueAgain]
            simp only [sameLeave, sameElements, sameNext]

theorem moreElementsStep (fuelLocal : LaysLocally fuel)
    (laid : layMoreElements (fuel + 1) cursor = (elements, .ok next)) :
    Closes layMoreElementsLeaving 0 cursor (cursor.leaveArray, elements) next := by
  rw [layMoreElements] at laid
  split at laid
  · next rest offset skipEq =>
      obtain ⟨rfl, sameNext⟩ := Prod.mk.inj laid
      obtain rfl := Except.ok.inj sameNext
      have leaveEq : ∀ {other : Cursor} {others : List Char},
          other.skipSpaces = ⟨']' :: others, offset⟩ → other.leaveArray = offset + 1 := by
        intro other others otherEq
        rw [Cursor.leaveArray, otherEq]
        rfl
      refine takes_of_skipSpaces (List.cons_ne_nil ']' []) skipEq ?_
      intro fuel rest other _ _ otherEq
      rw [layMoreElementsLeaving, layMoreElements, otherEq, leaveEq otherEq, leaveEq skipEq]
      rfl
  · next text offset skipEq =>
      split at laid
      · nomatch (Prod.mk.inj laid).2
      · nomatch (Prod.mk.inj laid).2
      · next landed notEnd notClosed =>
          obtain ⟨taken, notNil, restEq, again⟩ := fuelLocal.element _ _ _ laid
          obtain ⟨c, others, rfl⟩ := List.exists_cons_of_ne_nil notNil
          have landedEq : (Cursor.mk text (offset + 1)).skipSpaces =
              ⟨c :: others ++ next.rest, (Cursor.mk text (offset + 1)).skipSpaces.offset⟩ := by
            rw [← restEq]
          have isElement : c ≠ ']' := by
            rintro rfl
            exact notClosed _ _ landedEq
          rw [leaveArray_of_comma skipEq]
          refine takes_of_separator notNil skipEq landedEq ?_
          intro fuel rest text other enough _ otherEq textEq
          rw [layMoreElementsLeaving, leaveArray_of_comma otherEq, textEq,
            layMoreElements_of_comma otherEq textEq isElement]
          exact congrArg (fun laid : Laid Elements => ((_, laid.1), laid.2))
            (again fuel rest enough trivial)
  · nomatch (Prod.mk.inj laid).2

theorem firstMemberStep (fuelLocal : LaysLocally fuel)
    (laid : layFirstMember (fuel + 1) cursor = (members, .ok next)) :
    Closes layFirstMember 1 cursor members next := by
  rw [layFirstMember] at laid
  split at laid
  · next rest offset skipEq =>
      obtain ⟨rfl, sameNext⟩ := Prod.mk.inj laid
      obtain rfl := Except.ok.inj sameNext
      refine takes_of_skipSpaces (List.cons_ne_nil '\x7d' []) skipEq ?_
      intro fuel rest other _ _ otherEq
      rw [layFirstMember, otherEq]
      rfl
  · next landed notClosed =>
      refine closes_of_landed (fuelLocal.member _ _ _ _ laid) ?_
      intro c others skipEq fuel rest place other otherEq
      refine layFirstMember_of_ne otherEq ?_
      rintro rfl
      exact notClosed _ _ skipEq

theorem memberStep (fuelLocal : LaysLocally fuel) {afterComma : Bool}
    (laid : layMember (fuel + 1) afterComma cursor = (members, .ok next)) :
    Closes (fun fuel => layMember fuel afterComma) 0 cursor members next := by
  have whole := laid
  unfold layMember at laid
  split at laid
  · next text offset =>
      split at laid
      · nomatch (Prod.mk.inj laid).2
      · next key afterKey keyEq =>
          split at laid
          · next rest place colonEq =>
              split at laid
              · nomatch (Prod.mk.inj laid).2
              · next value afterValue valueEq =>
                  rw [layMember_eq keyEq colonEq valueEq] at whole
                  obtain ⟨rfl, restLaid⟩ := Prod.mk.inj whole
                  obtain ⟨name, rfl, -, nameAgain⟩ := Tree.layString_eq_ok keyEq
                  obtain ⟨spaces, spacesEq, spacesAgain⟩ := exists_skipSpaces afterKey
                  obtain ⟨first, firstNotNil, firstRestEq, firstAgain⟩ :=
                    fuelLocal.tree _ _ _ valueEq
                  obtain ⟨more, moreNotNil, moreRestEq, moreAgain⟩ :=
                    fuelLocal.moreMembers _ _ _ (Prod.ext rfl restLaid)
                  rw [colonEq] at spacesEq spacesAgain
                  obtain rfl : rest = first ++ afterValue.rest := firstRestEq
                  refine ⟨'"' :: (name ++ (spaces ++ ':' :: (first ++ more))),
                    List.cons_ne_nil _ _, by simp [spacesEq, moreRestEq], ?_⟩
                  intro fuel rest enough _
                  simp only [List.length_cons, List.length_append] at enough
                  cases fuel with
                  | zero => omega
                  | succ fuel =>
                      have headEq : (more ++ rest).head? = afterValue.rest.head? := by
                        rw [moreRestEq]
                        exact head?_append_of_ne_nil moreNotNil rest next.rest
                      have keyAgain := nameAgain (spaces ++ ':' :: (first ++ (more ++ rest)))
                      have colonAgain := spacesAgain (':' :: (first ++ (more ++ rest))) rfl
                      have valueAgain := firstAgain fuel (more ++ rest) (by omega) (Or.inr headEq)
                      simp only [List.cons_append, List.append_assoc]
                      rw [layMember_eq keyAgain colonAgain valueAgain,
                        moreAgain fuel rest (by omega) trivial]
                      rfl
          · nomatch (Prod.mk.inj laid).2
  · nomatch (Prod.mk.inj laid).2

theorem moreMembersStep (fuelLocal : LaysLocally fuel)
    (laid : layMoreMembers (fuel + 1) cursor = (members, .ok next)) :
    Closes layMoreMembersLeaving 0 cursor (cursor.leaveObject, members) next := by
  rw [layMoreMembers] at laid
  split at laid
  · next rest offset skipEq =>
      obtain ⟨rfl, sameNext⟩ := Prod.mk.inj laid
      obtain rfl := Except.ok.inj sameNext
      have leaveEq : ∀ {other : Cursor} {others : List Char},
          other.skipSpaces = ⟨'\x7d' :: others, offset⟩ → other.leaveObject = offset + 1 := by
        intro other others otherEq
        rw [Cursor.leaveObject, otherEq]
        rfl
      refine takes_of_skipSpaces (List.cons_ne_nil '\x7d' []) skipEq ?_
      intro fuel rest other _ _ otherEq
      rw [layMoreMembersLeaving, layMoreMembers, otherEq, leaveEq otherEq, leaveEq skipEq]
      rfl
  · next text offset skipEq =>
      obtain ⟨taken, notNil, restEq, again⟩ := fuelLocal.member _ _ _ _ laid
      have landedEq : (Cursor.mk text (offset + 1)).skipSpaces =
          ⟨taken ++ next.rest, (Cursor.mk text (offset + 1)).skipSpaces.offset⟩ := by
        rw [← restEq]
      rw [leaveObject_of_skipSpaces skipEq (by decide)]
      refine takes_of_separator notNil skipEq landedEq ?_
      intro fuel rest text other enough _ otherEq textEq
      rw [layMoreMembersLeaving, leaveObject_of_skipSpaces otherEq (by decide), layMoreMembers,
        otherEq]
      simp only
      rw [textEq]
      exact congrArg (fun laid : Laid Members => ((_, laid.1), laid.2))
        (again fuel rest enough trivial)
  · nomatch (Prod.mk.inj laid).2

end LaysLocally

/-- Whatever is laid out depends on what it takes, by induction on the fuel. -/
theorem laysLocally (fuel : Nat) : LaysLocally fuel := by
  induction fuel with
  | zero =>
      constructor
      all_goals
        intros
        next laid => nomatch (Prod.mk.inj laid).2
  | succ fuel ih =>
      exact {
        tree := fun _ _ _ laid => ih.treeStep laid
        firstElement := fun _ _ _ laid => ih.firstElementStep laid
        element := fun _ _ _ laid => ih.elementStep laid
        moreElements := fun _ _ _ laid => ih.moreElementsStep laid
        firstMember := fun _ _ _ laid => ih.firstMemberStep laid
        member := fun _ _ _ _ laid => ih.memberStep laid
        moreMembers := fun _ _ _ laid => ih.moreMembersStep laid }

/-- An array or an object at the start of a text takes some of it, and is laid out alike at the
start of every other text that begins with the same characters. -/
theorem exists_taken_of_lay {text : String} (laid : lay text = (tree, .ok next))
    (nested : tree.isNested = true) :
    ∃ taken : String, text = taken ++ String.ofList next.rest ∧
      ∀ rest : String, lay (taken ++ rest) = (tree, .ok ⟨rest.toList, next.offset⟩) := by
  obtain ⟨taken, -, restEq, again⟩ := (laysLocally _).tree _ _ _ laid
  refine ⟨String.ofList taken, String.toList_injective ?_, fun rest => ?_⟩
  · rw [String.toList_append, String.toList_ofList, String.toList_ofList]
    exact restEq
  · have startEq : Cursor.start (String.ofList taken ++ rest) = ⟨taken ++ rest.toList, 0⟩ := by
      rw [Cursor.start, String.toList_append, String.toList_ofList]
    unfold lay
    rw [startEq]
    refine again _ rest.toList ?_ (Or.inl nested)
    simp only [List.length_append]
    omega

end Json
end SchemaClasses
