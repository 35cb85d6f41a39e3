import SchemaClasses.Json.Number
import SchemaClasses.Json.Strings

/-!
# Trees of JSON text

A text is first laid out as a tree: which values it holds, and where they start and end.  A tree is
not yet read.  Its numbers and strings carry the fault that reading them would meet, and a text that
stops being JSON gives a tree that breaks off there.  So one tree serves a reader, who meets the
faults one by one in the order of the text, and a skipper, who meets fewer of them.
-/

namespace SchemaClasses
namespace Json

mutual

/-- A value in a text.  `stop` is the offset after it. -/
inductive Tree where
  | null (stop : Nat)
  | boolean (value : Bool) (stop : Nat)
  | number (value : Except Fault Number) (stop : Nat)
  | string (value : Except Fault String) (stop : Nat)
  | array (start : Nat) (elements : Elements)
  | object (start : Nat) (members : Members)
  | broken (breach : Breach)

/-- The elements of an array.  `leave` is where a fault is reported that shows only when the array
is left after the element. -/
inductive Elements where
  | closed
  | broken (breach : Breach)
  | element (start : Nat) (value : Tree) (leave : Nat) (rest : Elements)

/-- The members of an object.  `keyLeave` and `leave` are where a fault is reported that shows only
when the object is left after the key and after the value.  A key may stand alone because no colon
follows it. -/
inductive Members where
  | closed
  | broken (breach : Breach)
  | keyAlone (key : Except Fault String) (keyLeave : Nat) (missing : Fault)
  | member (key : Except Fault String) (keyLeave : Nat) (value : Tree) (leave : Nat)
      (rest : Members)

end

/-- A part of a text with the cursor after it, unless the text breaks off inside it. -/
abbrev Laid (α : Type) := α × Except Breach Cursor

namespace Tree

def brokenOff (breach : Breach) : Laid Tree :=
  (.broken breach, .error breach)

/-- A literal whose first letter has been seen. -/
def layLiteral (letters : List Char) (tree : Nat → Tree) (cursor : Cursor) : Laid Tree :=
  match cursor.literal letters with
  | .ok next => (tree next.offset, .ok next)
  | .error fault => brokenOff ⟨fault, fault⟩

/-- A number, from its sign on. -/
def layNumber (cursor : Cursor) : Laid Tree :=
  match Numeral.scan cursor with
  | .ok (numeral, next) => (.number (numeral.value next.offset) next.offset, .ok next)
  | .error breach => brokenOff breach

/-- The key or value in a string, from after its opening quote on. -/
def layString (cursor : Cursor) : Except Breach (Except Fault String × Cursor) :=
  match skipString cursor.offset cursor.rest, readString cursor.offset cursor.rest with
  | .ok next, .ok (text, _) => .ok (.ok text, next)
  | .ok next, .error fault => .ok (.error fault, next)
  | .error skipping, .error reading => .error ⟨reading, skipping⟩
  | .error skipping, .ok _ => .error ⟨skipping, skipping⟩

end Tree

namespace Members

/-- The breach where a key is wanted, after a comma or directly after the opening brace.  A skipper
knows no trailing comma, and takes the end for the end of the object. -/
def keyBreach (afterComma : Bool) (cursor : Cursor) : Breach :=
  match cursor.rest with
  | [] => ⟨⟨if afterComma then .endInValue else .endInObject, cursor.offset⟩,
      ⟨.endInObject, cursor.offset⟩⟩
  | c :: _ =>
      ⟨⟨if afterComma ∧ c = '}' then .trailingComma else .keyNotString, cursor.peekOffset⟩,
        ⟨.keyNotString, cursor.peekOffset⟩⟩

/-- The fault where a colon is wanted. -/
def colonFault (cursor : Cursor) : Fault :=
  if cursor.rest.isEmpty then ⟨.endInObject, cursor.offset⟩ else ⟨.noColon, cursor.peekOffset⟩

/-- The breach where a comma or the closing brace is wanted. -/
def commaBreach (cursor : Cursor) : Breach :=
  if cursor.rest.isEmpty then .plain .endInObject cursor.offset
  else .plain .noObjectComma cursor.peekOffset

end Members

namespace Elements

/-- The breach where a comma or the closing bracket is wanted. -/
def commaBreach (cursor : Cursor) : Breach :=
  if cursor.rest.isEmpty then .plain .endInArray cursor.offset
  else .plain .noArrayComma cursor.peekOffset

end Elements

mutual

/-- The value at a cursor.  The first argument bounds the nesting and the number of parts. -/
def layTree : Nat → Cursor → Laid Tree
  | 0, cursor => Tree.brokenOff (.plain .noValue cursor.offset)
  | fuel + 1, cursor =>
      match cursor.skipSpaces with
      | ⟨[], offset⟩ => Tree.brokenOff (.plain .endInValue offset)
      | ⟨'n' :: rest, offset⟩ => Tree.layLiteral ['u', 'l', 'l'] .null ⟨rest, offset + 1⟩
      | ⟨'t' :: rest, offset⟩ =>
          Tree.layLiteral ['r', 'u', 'e'] (.boolean true) ⟨rest, offset + 1⟩
      | ⟨'f' :: rest, offset⟩ =>
          Tree.layLiteral ['a', 'l', 's', 'e'] (.boolean false) ⟨rest, offset + 1⟩
      | ⟨'"' :: rest, offset⟩ =>
          match Tree.layString ⟨rest, offset + 1⟩ with
          | .ok (text, next) => (.string text next.offset, .ok next)
          | .error breach => Tree.brokenOff breach
      | ⟨'[' :: rest, offset⟩ =>
          let (elements, next) := layFirstElement fuel ⟨rest, offset + 1⟩
          (.array offset elements, next)
      | ⟨'{' :: rest, offset⟩ =>
          let (members, next) := layFirstMember fuel ⟨rest, offset + 1⟩
          (.object offset members, next)
      | ⟨c :: rest, offset⟩ =>
          if c = '-' ∨ c.isDigit then Tree.layNumber ⟨c :: rest, offset⟩
          else Tree.brokenOff (.plain .noValue (offset + 1))

/-- The elements after an opening bracket. -/
def layFirstElement : Nat → Cursor → Laid Elements
  | 0, cursor => (.broken (.plain .noValue cursor.offset), .error (.plain .noValue cursor.offset))
  | fuel + 1, cursor =>
      match cursor.skipSpaces with
      | ⟨[], offset⟩ => (.broken (.plain .endInArray offset), .error (.plain .endInArray offset))
      | ⟨']' :: rest, offset⟩ => (.closed, .ok ⟨rest, offset + 1⟩)
      | next => layElement fuel next

/-- An element and those after it, from the first byte of the element on. -/
def layElement : Nat → Cursor → Laid Elements
  | 0, cursor => (.broken (.plain .noValue cursor.offset), .error (.plain .noValue cursor.offset))
  | fuel + 1, cursor =>
      match layTree fuel cursor with
      | (value, .error breach) =>
          (.element cursor.offset value cursor.offset (.broken breach), .error breach)
      | (value, .ok afterValue) =>
          let (rest, next) := layMoreElements fuel afterValue
          (.element cursor.offset value afterValue.leaveArray rest, next)

/-- What follows an element. -/
def layMoreElements : Nat → Cursor → Laid Elements
  | 0, cursor => (.broken (.plain .noValue cursor.offset), .error (.plain .noValue cursor.offset))
  | fuel + 1, cursor =>
      match cursor.skipSpaces with
      | ⟨']' :: rest, offset⟩ => (.closed, .ok ⟨rest, offset + 1⟩)
      | ⟨',' :: rest, offset⟩ =>
          match (Cursor.mk rest (offset + 1)).skipSpaces with
          | ⟨[], offset⟩ =>
              (.broken (.plain .endInValue offset), .error (.plain .endInValue offset))
          | ⟨']' :: _, offset⟩ =>
              let breach : Breach := ⟨⟨.trailingComma, offset + 1⟩, ⟨.noValue, offset + 1⟩⟩
              (.broken breach, .error breach)
          | next => layElement fuel next
      | next => (.broken (Elements.commaBreach next), .error (Elements.commaBreach next))

/-- The members after an opening brace. -/
def layFirstMember : Nat → Cursor → Laid Members
  | 0, cursor => (.broken (.plain .noValue cursor.offset), .error (.plain .noValue cursor.offset))
  | fuel + 1, cursor =>
      match cursor.skipSpaces with
      | ⟨'}' :: rest, offset⟩ => (.closed, .ok ⟨rest, offset + 1⟩)
      | next => layMember fuel false next

/-- A member and those after it, from where its key is wanted. -/
def layMember : Nat → Bool → Cursor → Laid Members
  | 0, _, cursor =>
      (.broken (.plain .noValue cursor.offset), .error (.plain .noValue cursor.offset))
  | fuel + 1, afterComma, cursor =>
      match cursor with
      | ⟨'"' :: rest, offset⟩ =>
          match Tree.layString ⟨rest, offset + 1⟩ with
          | .error breach => (.broken breach, .error breach)
          | .ok (key, afterKey) =>
              match afterKey.skipSpaces with
              | ⟨':' :: rest, offset⟩ =>
                  match layTree fuel ⟨rest, offset + 1⟩ with
                  | (value, .error breach) =>
                      (.member key afterKey.leaveObject value offset (.broken breach),
                        .error breach)
                  | (value, .ok afterValue) =>
                      let (rest, next) := layMoreMembers fuel afterValue
                      (.member key afterKey.leaveObject value afterValue.leaveObject rest, next)
              | next =>
                  let missing := Members.colonFault next
                  (.keyAlone key afterKey.leaveObject missing, .error ⟨missing, missing⟩)
      | cursor =>
          let breach := Members.keyBreach afterComma cursor
          (.broken breach, .error breach)

/-- What follows a member. -/
def layMoreMembers : Nat → Cursor → Laid Members
  | 0, cursor => (.broken (.plain .noValue cursor.offset), .error (.plain .noValue cursor.offset))
  | fuel + 1, cursor =>
      match cursor.skipSpaces with
      | ⟨'}' :: rest, offset⟩ => (.closed, .ok ⟨rest, offset + 1⟩)
      | ⟨',' :: rest, offset⟩ => layMember fuel true (Cursor.mk rest (offset + 1)).skipSpaces
      | next => (.broken (Members.commaBreach next), .error (Members.commaBreach next))

end

/-- The value at the start of a text, and the cursor after it.  At most three parts begin at any one
character of the text. -/
def lay (text : String) : Laid Tree :=
  let cursor := Cursor.start text
  layTree (3 * cursor.rest.length + 4) cursor

mutual

/-- The first fault that shows when a value is skipped. -/
def Tree.skipFault? : Tree → Option Fault
  | .null _ => none
  | .boolean _ _ => none
  | .number _ _ => none
  | .string _ _ => none
  | .array _ elements => elements.skipFault?
  | .object _ members => members.skipFault?
  | .broken breach => some breach.skipping

def Elements.skipFault? : Elements → Option Fault
  | .closed => none
  | .broken breach => some breach.skipping
  | .element _ value _ rest => value.skipFault?.or rest.skipFault?

def Members.skipFault? : Members → Option Fault
  | .closed => none
  | .broken breach => some breach.skipping
  | .keyAlone _ _ missing => some missing
  | .member _ _ value _ rest => value.skipFault?.or rest.skipFault?

end

end Json
end SchemaClasses
