import SchemaClasses.Text.CodeSet

/-!
# Blank characters and lines

Blank are the characters with the Unicode property White_Space.  Trimming removes them from the ends
of a text, and a text falls into lines at its line feeds.
-/

namespace SchemaClasses
namespace Text

/-- The edges of the property White_Space. -/
def blankEdges : List Nat := [
  0x9, 0xE, 0x20, 0x21, 0x85, 0x86, 0xA0, 0xA1, 0x1680, 0x1681, 0x2000, 0x200B, 0x2028, 0x202A,
  0x202F, 0x2030, 0x205F, 0x2060, 0x3000, 0x3001]

def isBlank (c : Char) : Bool :=
  inside blankEdges c.toNat

/-- A text without the blanks at its end. -/
def trimEnd : List Char → List Char
  | [] => []
  | c :: rest =>
      match trimEnd rest with
      | [] => if isBlank c then [] else [c]
      | kept => c :: kept

/-- A text without the blanks at its start and its end. -/
def trim (text : List Char) : List Char :=
  trimEnd (text.dropWhile isBlank)

/-- A line that a line feed ended, without the carriage return just before the line feed. -/
def dropReturn (line : List Char) : List Char :=
  if line.getLast? = some '\r' then line.dropLast else line

/-- The lines after `line` has been read backwards since the last line feed.  A text that ends with
a line feed has no further empty line. -/
def linesAfter (line : List Char) : List Char → List (List Char)
  | [] => if line.isEmpty then [] else [line.reverse]
  | c :: rest =>
      if c = '\n' then dropReturn line.reverse :: linesAfter [] rest
      else linesAfter (c :: line) rest

/-- The lines of a text. -/
def lines (text : List Char) : List (List Char) :=
  linesAfter [] text

/-- The trimmed text, unless nothing is left of it. -/
def trimmed? (text : String) : Option String :=
  match trim text.toList with
  | [] => none
  | kept => some (String.ofList kept)

end Text
end SchemaClasses
