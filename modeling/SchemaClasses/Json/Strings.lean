import SchemaClasses.Json.Fault

/-!
# Strings of JSON

A string is read from the character after its opening quote.  A reader decodes the escapes and
checks that surrogates come in pairs; a skipper checks only that the escapes are well formed.  The
four places of a `\u` escape are counted in bytes, so that characters beyond ASCII among them count
by their size.
-/

namespace SchemaClasses
namespace Json

/-- The value of a hexadecimal digit. -/
def hexDigit? (c : Char) : Option Nat :=
  if c.isDigit then some (c.toNat - '0'.toNat)
  else if 'a' ≤ c ∧ c ≤ 'f' then some (c.toNat - 'a'.toNat + 10)
  else if 'A' ≤ c ∧ c ≤ 'F' then some (c.toNat - 'A'.toNat + 10)
  else none

/-- The value of four hexadecimal digits. -/
def hexValue? (a b c d : Char) : Option Nat := do
  let a ← hexDigit? a
  let b ← hexDigit? b
  let c ← hexDigit? c
  let d ← hexDigit? d
  return ((a * 16 + b) * 16 + c) * 16 + d

def byteLength (text : List Char) : Nat :=
  text.foldr (fun c size => c.utf8Size + size) 0

/-- The fault of a `\u` escape without four hexadecimal digits, from the offset where they start. -/
def hexFault (offset : Nat) (rest : List Char) : Fault :=
  if byteLength rest < 4 then ⟨.endInString, offset + byteLength rest⟩
  else ⟨.badEscape, offset + 4⟩

/-- The character that a one-letter escape stands for. -/
def simpleEscape? : Char → Option Char
  | '"' => some '"'
  | '\\' => some '\\'
  | '/' => some '/'
  | 'b' => some '\x08'
  | 'f' => some '\x0c'
  | 'n' => some '\n'
  | 'r' => some '\r'
  | 't' => some '\t'
  | _ => none

def isControl (c : Char) : Bool :=
  c.toNat < 0x20

/-- The cursor after the closing quote. -/
def skipString (offset : Nat) : List Char → Except Fault Cursor
  | [] => .error ⟨.endInString, offset⟩
  | '"' :: rest => .ok ⟨rest, offset + 1⟩
  | ['\\'] => .error ⟨.endInString, offset + 1⟩
  | '\\' :: 'u' :: a :: b :: c :: d :: rest =>
      if (hexValue? a b c d).isSome then skipString (offset + 6) rest
      else .error (hexFault (offset + 2) (a :: b :: c :: d :: rest))
  | '\\' :: 'u' :: rest => .error (hexFault (offset + 2) rest)
  | '\\' :: escape :: rest =>
      if (simpleEscape? escape).isSome then skipString (offset + 2) rest
      else .error ⟨.badEscape, offset + 2⟩
  | c :: rest =>
      if isControl c then .error ⟨.controlCharacter, offset⟩
      else skipString (offset + c.utf8Size) rest

def isHighSurrogate (code : Nat) : Bool :=
  0xD800 ≤ code && code ≤ 0xDBFF

def isLowSurrogate (code : Nat) : Bool :=
  0xDC00 ≤ code && code ≤ 0xDFFF

/-- The code point of a pair of surrogates. -/
def pairValue (high low : Nat) : Nat :=
  0x10000 + (high - 0xD800) * 0x400 + (low - 0xDC00)

/-- The fault after a high surrogate that no second escape follows. -/
def pairFault (offset : Nat) : List Char → Fault
  | [] => ⟨.endInString, offset⟩
  | ['\\'] => ⟨.endInString, offset + 1⟩
  | '\\' :: 'u' :: rest => hexFault (offset + 2) rest
  | '\\' :: _ :: _ => ⟨.unfinishedPair, offset + 2⟩
  | _ :: _ => ⟨.unfinishedPair, offset + 1⟩

/-- The text of a string, where `text` has been read backwards, and the cursor after the closing
quote. -/
def readStringAfter (text : List Char) (offset : Nat) :
    List Char → Except Fault (String × Cursor)
  | [] => .error ⟨.endInString, offset⟩
  | '"' :: rest => .ok (String.ofList text.reverse, ⟨rest, offset + 1⟩)
  | ['\\'] => .error ⟨.endInString, offset + 1⟩
  | '\\' :: 'u' :: a :: b :: c :: d :: rest =>
      match hexValue? a b c d with
      | none => .error (hexFault (offset + 2) (a :: b :: c :: d :: rest))
      | some code =>
          if isLowSurrogate code then .error ⟨.loneSurrogate, offset + 6⟩
          else if isHighSurrogate code then
            match rest with
            | '\\' :: 'u' :: e :: f :: g :: h :: after =>
                match hexValue? e f g h with
                | none => .error (hexFault (offset + 8) (e :: f :: g :: h :: after))
                | some low =>
                    if isLowSurrogate low then
                      readStringAfter (Char.ofNat (pairValue code low) :: text) (offset + 12) after
                    else .error ⟨.loneSurrogate, offset + 12⟩
            | _ => .error (pairFault (offset + 6) rest)
          else readStringAfter (Char.ofNat code :: text) (offset + 6) rest
  | '\\' :: 'u' :: rest => .error (hexFault (offset + 2) rest)
  | '\\' :: escape :: rest =>
      match simpleEscape? escape with
      | some c => readStringAfter (c :: text) (offset + 2) rest
      | none => .error ⟨.badEscape, offset + 2⟩
  | c :: rest =>
      if isControl c then .error ⟨.controlCharacter, offset + 1⟩
      else readStringAfter (c :: text) (offset + c.utf8Size) rest

def readString (offset : Nat) (rest : List Char) : Except Fault (String × Cursor) :=
  readStringAfter [] offset rest

/-- The characters that stand for one character in JSON text. -/
def escapeCharacter (c : Char) : List Char :=
  match c with
  | '"' => ['\\', '"']
  | '\\' => ['\\', '\\']
  | '\n' => ['\\', 'n']
  | '\r' => ['\\', 'r']
  | '\t' => ['\\', 't']
  | '\x08' => ['\\', 'b']
  | '\x0c' => ['\\', 'f']
  | c =>
      if isControl c then
        ['\\', 'u', '0', '0', Nat.digitChar (c.toNat / 16), Nat.digitChar (c.toNat % 16)]
      else [c]

/-- The JSON text of a string. -/
def quote (text : String) : String :=
  String.ofList ('"' :: text.toList.flatMap escapeCharacter ++ ['"'])

end Json
end SchemaClasses
