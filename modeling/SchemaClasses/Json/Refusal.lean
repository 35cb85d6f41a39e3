import SchemaClasses.Json.Tree
import SchemaClasses.Text.Quoted

/-!
# Refusals

Why data is not read from a tree, and where.  A refusal names the path to the value that was being
read, in keys and indices, and the offset in the text.  Some problems have no offset of their own;
they get one when the enclosing value is left.
-/

namespace SchemaClasses
namespace Json

/-- A step from a value to one inside it. -/
inductive Segment where
  | key (name : String)
  | index (position : Nat)
  /-- A key that has not been read. -/
  | unknown
  deriving DecidableEq, Repr

/-- The kinds of values that a message names, with what it shows of them. -/
inductive Found where
  | null
  | boolean (value : Bool)
  | integer (text : String)
  | float (text : String)
  | string (text : String)
  | sequence
  | map
  deriving DecidableEq, Repr

def Found.text : Found → String
  | .null => "null"
  | .boolean value => s!"boolean `{value}`"
  | .integer text => s!"integer `{text}`"
  | .float text => s!"floating point `{text}`"
  | .string text => s!"string {Text.quoted text}"
  | .sequence => "sequence"
  | .map => "map"

/-- Why data is not read. -/
inductive Problem where
  | fault (cause : Cause)
  | mistyped (found : Found) (expected : String)
  /-- The value has none of the forms that a choice of forms allows. -/
  | noForm (choice : String)
  | repeatedKey (name : String)
  deriving DecidableEq, Repr

def Problem.message : Problem → String
  | .fault cause => cause.message
  | .mistyped found expected => s!"invalid type: {found.text}, expected {expected}"
  | .noForm choice => s!"data did not match any variant of untagged enum {choice}"
  | .repeatedKey name => s!"duplicate field `{name}`"

/-- A problem with the path to it and its offset, if it has one yet. -/
structure Refusal where
  problem : Problem
  path : List Segment
  offset : Option Nat
  deriving DecidableEq, Repr

abbrev Reading := Except Refusal

namespace Refusal

def ofFault (fault : Fault) : Refusal :=
  ⟨.fault fault.cause, [], some fault.offset⟩

/-- The refusal as it shows one step further out. -/
def under (segment : Segment) (refusal : Refusal) : Refusal :=
  { refusal with path := segment :: refusal.path }

/-- The refusal with an offset, which is the given one if it had none. -/
def leaving (offset : Nat) (refusal : Refusal) : Refusal :=
  { refusal with offset := some (refusal.offset.getD offset) }

/-- The text of a path, in which the root is a single point. -/
def pathText : List Segment → String
  | [] => "."
  | path => go true path
where
  go (first : Bool) : List Segment → String
    | [] => ""
    | .index position :: rest => s!"[{position}]" ++ go false rest
    | .key name :: rest => (if first then "" else ".") ++ name ++ go false rest
    | .unknown :: rest => (if first then "" else ".") ++ "?" ++ go false rest

/-- The message of a refusal with its place in the text. -/
def message (text : String) (refusal : Refusal) : String :=
  let (line, column) := position text (refusal.offset.getD 0)
  s!"{refusal.problem.message} at line {line} column {column}"

/-- The message of a refusal with its path and its place in the text. -/
def locatedMessage (text : String) (refusal : Refusal) : String :=
  s!"at `{pathText refusal.path}`: {refusal.message text}"

end Refusal

/-- Continues one step further in. -/
def Reading.under {α : Type} (segment : Segment) (reading : Reading α) : Reading α :=
  reading.mapError (Refusal.under segment)

/-- Gives a refusal without an offset the one at which the enclosing value is left. -/
def Reading.leaving {α : Type} (offset : Nat) (reading : Reading α) : Reading α :=
  reading.mapError (Refusal.leaving offset)

def Reading.ofFault {α : Type} (fault : Fault) : Reading α :=
  .error (Refusal.ofFault fault)

/-- A part of the text that may carry a fault. -/
def Reading.ofPart {α : Type} (part : Except Fault α) : Reading α :=
  part.mapError Refusal.ofFault

/-- The refusal of a tree that is not of the expected type; a fault in it goes first. -/
def Tree.mistyped (expected : String) : Tree → Refusal
  | .null stop => ⟨.mistyped .null expected, [], some stop⟩
  | .boolean value stop => ⟨.mistyped (.boolean value) expected, [], some stop⟩
  | .number (.ok (.integer value _)) stop =>
      ⟨.mistyped (.integer (toString value)) expected, [], some stop⟩
  | .number (.ok (.float value)) stop =>
      ⟨.mistyped (.float (Number.float value).text) expected, [], some stop⟩
  | .number (.error fault) _ => .ofFault fault
  | .string (.ok text) stop => ⟨.mistyped (.string text) expected, [], some stop⟩
  | .string (.error fault) _ => .ofFault fault
  | .array start _ => ⟨.mistyped .sequence expected, [], some start⟩
  | .object start _ => ⟨.mistyped .map expected, [], some start⟩
  | .broken breach => .ofFault breach.reading

/-- Values nest at most this deep, less one. -/
def depthLimit : Nat := 128

/-- The depth that is left inside an array or object which starts at the given offset. -/
def descend (depth : Nat) (start : Nat) : Reading Nat :=
  if depth ≤ 1 then .ofFault ⟨.tooDeep, start + 1⟩ else .ok (depth - 1)

end Json
end SchemaClasses
