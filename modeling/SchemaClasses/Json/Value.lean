import SchemaClasses.Entries
import SchemaClasses.Json.Refusal

/-!
# JSON values

A value read from a tree.  The members of an object are kept in the order of their keys, and of a
repeated key the last value counts.
-/

namespace SchemaClasses
namespace Json

inductive Value where
  | null
  | boolean (value : Bool)
  | number (value : Number)
  | string (value : String)
  | array (elements : List Value)
  | object (members : List (String × Value))

mutual

/-- The value of a tree, read to the given depth. -/
def Tree.toValue (depth : Nat) : Tree → Reading Value
  | .null _ => .ok .null
  | .boolean value _ => .ok (.boolean value)
  | .number value _ => (Reading.ofPart value).map .number
  | .string text _ => (Reading.ofPart text).map .string
  | .array start elements => do
      let inner ← descend depth start
      return .array (← elements.toValues inner 0)
  | .object start members => do
      let inner ← descend depth start
      return .object (← members.toEntries inner [])
  | .broken breach => .ofFault breach.reading

/-- The values of the elements from the given position on. -/
def Elements.toValues (depth position : Nat) : Elements → Reading (List Value)
  | .closed => .ok []
  | .broken breach => .ofFault breach.reading
  | .element _ tree _ rest => do
      let value ← (tree.toValue depth).under (.index position)
      return value :: (← rest.toValues depth (position + 1))

/-- The members in the order of their keys, added to those already read. -/
def Members.toEntries (depth : Nat) (entries : List (String × Value)) :
    Members → Reading (List (String × Value))
  | .closed => .ok entries
  | .broken breach => (Reading.ofFault breach.reading).under .unknown
  | .keyAlone key _ missing => do
      let _ ← (Reading.ofPart key).under .unknown
      .ofFault missing
  | .member key _ tree _ rest => do
      let name ← (Reading.ofPart key).under .unknown
      let value ← (tree.toValue depth).under (.key name)
      rest.toEntries depth (insertSorted name value entries)

end

/-- Reads a whole text with `read`, after which nothing but spaces may follow. -/
def readWhole {α : Type} (read : Tree → Reading α) (text : String) : Reading α := do
  let (tree, next) := lay text
  let value ← read tree
  match next with
  | .error _ => return value
  | .ok next =>
      match next.skipSpaces with
      | ⟨[], _⟩ => return value
      | ⟨_ :: _, offset⟩ => .ofFault ⟨.trailingCharacters, offset + 1⟩

namespace Value

def ofText (text : String) : Reading Value :=
  readWhole (Tree.toValue depthLimit) text

def isNull : Value → Bool
  | .null => true
  | _ => false

def asString? : Value → Option String
  | .string text => some text
  | _ => none

def asBoolean? : Value → Option Bool
  | .boolean value => some value
  | _ => none

def asNumber? : Value → Option Number
  | .number value => some value
  | _ => none

def asArray? : Value → Option (List Value)
  | .array elements => some elements
  | _ => none

mutual

/-- The JSON text of a value, without spaces. -/
def text : Value → String
  | .null => "null"
  | .boolean value => if value then "true" else "false"
  | .number value => value.text
  | .string text => quote text
  | .array elements => "[" ++ elementsText elements ++ "]"
  | .object members => "\x7b" ++ membersText members ++ "\x7d"

def elementsText : List Value → String
  | [] => ""
  | [value] => value.text
  | value :: next :: rest => value.text ++ "," ++ elementsText (next :: rest)

def membersText : List (String × Value) → String
  | [] => ""
  | [(key, value)] => quote key ++ ":" ++ value.text
  | (key, value) :: next :: rest =>
      quote key ++ ":" ++ value.text ++ "," ++ membersText (next :: rest)

end

end Value
end Json
end SchemaClasses
