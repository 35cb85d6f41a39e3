import SchemaClasses.Text.Blank

/-!
# Escaped texts of C#

Texts inside string literals, where five characters are escaped, and inside documentation comments,
where the three characters of markup become entities.
-/

namespace SchemaClasses
namespace CSharp

/-- The characters that stand for one character of a string literal. -/
def escapeCharacter : Char → List Char
  | '\\' => ['\\', '\\']
  | '"' => ['\\', '"']
  | '\n' => ['\\', 'n']
  | '\r' => ['\\', 'r']
  | '\t' => ['\\', 't']
  | c => [c]

def escape (text : List Char) : List Char :=
  text.flatMap escapeCharacter

/-- A string literal. -/
def stringLiteral (text : String) : String :=
  String.ofList ('"' :: escape text.toList ++ ['"'])

/-- The characters that stand for one character of a documentation comment. -/
def entityCharacter : Char → List Char
  | '&' => "&amp;".toList
  | '<' => "&lt;".toList
  | '>' => "&gt;".toList
  | c => [c]

def entities (text : List Char) : List Char :=
  text.flatMap entityCharacter

end CSharp
end SchemaClasses
