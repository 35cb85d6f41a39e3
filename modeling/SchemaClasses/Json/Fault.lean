/-!
# Faults of JSON text

Why a text is not JSON, and where.  A place is a number of bytes from the start of the text; it may
lie inside a character, since the byte that gives a fault away need not be the last of its
character.
-/

namespace SchemaClasses
namespace Json

/-- The ways in which a text fails to be JSON that can be read. -/
inductive Cause where
  | endInValue
  | endInObject
  | endInArray
  | endInString
  | noValue
  | badLiteral
  | noColon
  | noObjectComma
  | noArrayComma
  | trailingComma
  | keyNotString
  | trailingCharacters
  | badNumber
  | numberOutOfRange
  | badEscape
  | loneSurrogate
  | unfinishedPair
  | controlCharacter
  | tooDeep
  deriving DecidableEq, Repr

def Cause.message : Cause → String
  | .endInValue => "EOF while parsing a value"
  | .endInObject => "EOF while parsing an object"
  | .endInArray => "EOF while parsing a list"
  | .endInString => "EOF while parsing a string"
  | .noValue => "expected value"
  | .badLiteral => "expected ident"
  | .noColon => "expected `:`"
  | .noObjectComma => "expected `,` or `\x7d`"
  | .noArrayComma => "expected `,` or `]`"
  | .trailingComma => "trailing comma"
  | .keyNotString => "key must be a string"
  | .trailingCharacters => "trailing characters"
  | .badNumber => "invalid number"
  | .numberOutOfRange => "number out of range"
  | .badEscape => "invalid escape"
  | .loneSurrogate => "lone leading surrogate in hex escape"
  | .unfinishedPair => "unexpected end of hex escape"
  | .controlCharacter => "control character (\\u0000-\\u001F) found while parsing a string"
  | .tooDeep => "recursion limit exceeded"

/-- A cause and the number of bytes before the place where it shows. -/
structure Fault where
  cause : Cause
  offset : Nat
  deriving DecidableEq, Repr

/-- A place where the text stops being JSON, as it shows to a reader that wants the value and to one
that only skips it. -/
structure Breach where
  reading : Fault
  skipping : Fault
  deriving DecidableEq, Repr

/-- A breach that shows to both readers alike. -/
def Breach.plain (cause : Cause) (offset : Nat) : Breach :=
  ⟨⟨cause, offset⟩, ⟨cause, offset⟩⟩

/-- The rest of a text and the number of bytes before it. -/
structure Cursor where
  rest : List Char
  offset : Nat
  deriving DecidableEq, Repr

namespace Cursor

def start (text : String) : Cursor :=
  ⟨text.toList, 0⟩

/-- The offset after the next byte, or the end. -/
def peekOffset (cursor : Cursor) : Nat :=
  if cursor.rest.isEmpty then cursor.offset else cursor.offset + 1

def isSpace (c : Char) : Bool :=
  c = ' ' || c = '\n' || c = '\t' || c = '\r'

/-- The cursor after any spaces. -/
def afterSpaces (offset : Nat) : List Char → Cursor
  | [] => ⟨[], offset⟩
  | c :: rest => if isSpace c then afterSpaces (offset + 1) rest else ⟨c :: rest, offset⟩

def skipSpaces (cursor : Cursor) : Cursor :=
  afterSpaces cursor.offset cursor.rest

/-- The cursor after the remaining letters of a literal, all of which are ASCII. -/
def literal : List Char → Cursor → Except Fault Cursor
  | [], cursor => .ok cursor
  | _ :: _, ⟨[], offset⟩ => .error ⟨.endInValue, offset⟩
  | letter :: letters, ⟨c :: rest, offset⟩ =>
      if c = letter then literal letters ⟨rest, offset + 1⟩
      else .error ⟨.badLiteral, offset + 1⟩

/-- Where a fault is reported that shows only when an object is left: after its closing brace, or
before whatever else follows. -/
def leaveObject (cursor : Cursor) : Nat :=
  match cursor.skipSpaces with
  | ⟨'}' :: _, offset⟩ => offset + 1
  | ⟨_, offset⟩ => offset

/-- Where a fault is reported that shows only when an array is left: after its closing bracket,
after a comma and the spaces behind it, or before whatever else follows. -/
def leaveArray (cursor : Cursor) : Nat :=
  match cursor.skipSpaces with
  | ⟨']' :: _, offset⟩ => offset + 1
  | ⟨',' :: rest, offset⟩ => (afterSpaces (offset + 1) rest).offset
  | ⟨_, offset⟩ => offset

end Cursor

/-- The line of an offset, counted from one, and its distance in bytes from the start of the
line. -/
def positionFrom (offset : Nat) (here line lineStart : Nat) : List Char → Nat × Nat
  | [] => (line, offset - lineStart)
  | c :: rest =>
      if offset ≤ here then (line, offset - lineStart)
      else if c = '\n' then positionFrom offset (here + 1) (line + 1) (here + 1) rest
      else positionFrom offset (here + c.utf8Size) line lineStart rest

def position (text : String) (offset : Nat) : Nat × Nat :=
  positionFrom offset 0 1 0 text.toList

end Json
end SchemaClasses
