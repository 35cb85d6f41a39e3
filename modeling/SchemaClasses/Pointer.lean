/-!
# Pointers into a document

A pointer lists the segments on the way from the root of a JSON document to one of its nodes.  Its
text (RFC 6901) writes a slash before every segment, with `~` as `~0` and `/` as `~1` inside one, so
that the root has the empty text.
-/

namespace SchemaClasses

structure Pointer where
  /-- The keys and indices from the root downwards. -/
  segments : List String
  deriving DecidableEq, Repr

namespace Pointer

def root : Pointer := ⟨[]⟩

/-- The pointer one segment deeper. -/
def child (pointer : Pointer) (segment : String) : Pointer :=
  ⟨pointer.segments ++ [segment]⟩

/-- The pointer two segments deeper. -/
def join (pointer : Pointer) (first second : String) : Pointer :=
  (pointer.child first).child second

def escapeCharacter : Char → List Char
  | '~' => ['~', '0']
  | '/' => ['~', '1']
  | c => [c]

def escape (segment : List Char) : List Char :=
  segment.flatMap escapeCharacter

/-- The characters of a pointer's text. -/
def characters (segments : List String) : List Char :=
  segments.flatMap fun segment => '/' :: escape segment.toList

def text (pointer : Pointer) : String :=
  String.ofList (characters pointer.segments)

/-- The text shown to a reader, in which the root is a single slash. -/
def display (pointer : Pointer) : String :=
  if pointer.segments.isEmpty then "/" else pointer.text

end Pointer
end SchemaClasses
