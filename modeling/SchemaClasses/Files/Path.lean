import SchemaClasses.Text.Fields

/-!
# Paths

A path is a text of names between slashes, absolute if it starts with one.
-/

namespace SchemaClasses
namespace Path

def isAbsolute (path : String) : Bool :=
  path.toList.head? = some '/'

/-- Whether a path ends with a slash, so that it can only name a directory. -/
def isClosed (path : String) : Bool :=
  path.toList.getLast? = some '/'

/-- The names between the slashes of a path. -/
def names (path : String) : List String :=
  (Text.fields (· = '/') path.toList).map String.ofList

/-- The absolute path with the given names. -/
def absolute (names : List String) : String :=
  "/" ++ "/".intercalate names

/-- The path of a file in a directory.  An absolute file stands for itself. -/
def join (directory file : String) : String :=
  if isAbsolute file then file
  else if directory.isEmpty || isClosed directory then directory ++ file
  else directory ++ "/" ++ file

/-- The last name of an absolute path, which the root does not have. -/
def fileName? (path : String) : Option String :=
  (names path).getLast?

/-- The directory that the last name of an absolute path is in. -/
def parent (path : String) : String :=
  absolute (names path).dropLast

/-- The names of a path that count: all but the points which name the directory reached so far, save
one at the start of a relative path. -/
def significantNames (path : String) : List String :=
  let all := names path
  if isAbsolute path then all.filter (· ≠ ".")
  else all.take 1 ++ (all.drop 1).filter (· ≠ ".")

/-- The paths of the directories around the last name of a path, from the inside outwards, which
stop short of the root and of the working directory. -/
def ancestors (path : String) : List String :=
  let outer := (significantNames path).dropLast
  (List.range outer.length).map fun dropped =>
    let kept := "/".intercalate (outer.take (outer.length - dropped))
    if isAbsolute path then "/" ++ kept else kept

end Path
end SchemaClasses
