import SchemaClasses.Naming.Words
import SchemaClasses.Text.FinalSigma

/-!
# Names of classes and members

Every identifier of the generated code comes from a title, a file name or a property key through one
of these functions, so that one schema always gives the same names.
-/

namespace SchemaClasses
namespace Naming

open Text

/-- The words of a title, which spaces separate. -/
def titleWords (title : List Char) : List (List Char) :=
  fields (· = ' ') title

/-- A text with its first character in upper case and the others as they are. -/
def upperFirst : List Char → List Char
  | [] => []
  | c :: rest => upperChar c ++ rest

/-- A text with its first character in lower case and the others as they are. -/
def lowerFirst : List Char → List Char
  | [] => []
  | c :: rest => lowerChar c ++ rest

/-- The class name of a title: each word is lowered, then its first character is raised, and the
words are joined without separators. -/
def className (title : String) : String :=
  String.ofList ((titleWords title.toList).flatMap fun word => upperFirst (lower word))

/-- The public member name of a property key. -/
def publicName (key : String) : String :=
  String.ofList (joinCapitalized key.toList)

/-- Whether a public name can name a member: it starts with an alphabetic character or an
underscore. -/
def isMemberName (name : String) : Bool :=
  match name.toList with
  | [] => false
  | c :: _ => isAlphabetic c || c = '_'

/-- The name of the private field behind a public member. -/
def backingName (name : String) : String :=
  "m_" ++ String.ofList (lowerFirst name.toList)

/-- The name of the method that tells whether a public member is written to JSON. -/
def predicateName (name : String) : String :=
  "ShouldSerialize" ++ name

/-- A text without the given ending, if it has it. -/
def dropEnding? (ending text : List Char) : Option (List Char) :=
  if ending.isSuffixOf text then some (text.take (text.length - ending.length)) else none

/-- The class name of a document without a title, from its file name without the schema ending. -/
def classNameOfFile (fileName : String) : String :=
  let stem :=
    (dropEnding? ".schema.json".toList fileName.toList).getD <|
      (dropEnding? ".json".toList fileName.toList).getD fileName.toList
  String.ofList (joinCapitalized stem)

end Naming
end SchemaClasses
