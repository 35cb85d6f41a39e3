import SchemaClasses.Text.Alphabetic
import SchemaClasses.Text.Fields
import SchemaClasses.Text.LetterCase
import SchemaClasses.Text.Numeric

/-!
# Words of a key

A key such as `byte_offset`, `byteOffset` or `BYTE-OFFSET` is a list of words.  Words end at every
character that is neither alphabetic nor numeric, and inside a piece between such characters they
end where the case turns: after a small letter before a capital, and before the last capital of a
run that a small letter follows.
-/

namespace SchemaClasses
namespace Naming

open Text

def isWordCharacter (c : Char) : Bool :=
  isAlphabetic c || isNumeric c

/-- The pieces of a text between the characters that belong to no word. -/
def pieces (text : List Char) : List (List Char) :=
  fields (fun c => !isWordCharacter c) text

/-- The case of the last cased letter since the last word boundary. -/
inductive CaseMode where
  | fresh
  | small
  | capital
  deriving DecidableEq

/-- The mode once `c` has been read without a boundary. -/
def CaseMode.after (mode : CaseMode) (c : Char) : CaseMode :=
  if isLowercase c then .small
  else if isUppercase c then .capital
  else mode

/-- The words of a piece from its case alone, where `word` has been read backwards since the last
boundary. -/
def humpsAfter (mode : CaseMode) (word : List Char) : List Char → List (List Char)
  | [] => []
  | [c] => [(c :: word).reverse]
  | c :: next :: rest =>
      if mode.after c = .small ∧ isUppercase next then
        (c :: word).reverse :: humpsAfter .fresh [] (next :: rest)
      else if mode = .capital ∧ isUppercase c ∧ isLowercase next then
        word.reverse :: humpsAfter .fresh [c] (next :: rest)
      else
        humpsAfter (mode.after c) (c :: word) (next :: rest)

def humps (piece : List Char) : List (List Char) :=
  humpsAfter .fresh [] piece

/-- The words of a text, in order. -/
def words (text : List Char) : List (List Char) :=
  (pieces text).flatMap humps

/-- The lower case of the letters after a word's first; a sigma is final only at the very end. -/
def lowerTail : List Char → List Char
  | [] => []
  | [c] => if c = 'Σ' then ['ς'] else lowerChar c
  | c :: next :: rest => lowerChar c ++ lowerTail (next :: rest)

/-- A word with its first letter in upper case and the others in lower case. -/
def capitalize : List Char → List Char
  | [] => []
  | c :: rest => upperChar c ++ lowerTail rest

/-- The capitalized words of a text, joined without separators. -/
def joinCapitalized (text : List Char) : List Char :=
  (words text).flatMap capitalize

end Naming
end SchemaClasses
