import SchemaClasses.Files.Disk

/-!
# Trees of files

The files and directories of a machine as a value.  Every item has the names on the way to it from
the root, which is a directory that is always there.
-/

namespace SchemaClasses

inductive FileItem where
  | file (content : ByteArray)
  | directory

-- The instance for contents is named, since there may be other ones.
instance : DecidableEq FileItem
  | .file content, .file other =>
      match ByteArray.instDecidableEq content other with
      | .isTrue same => .isTrue (congrArg FileItem.file same)
      | .isFalse different => .isFalse fun same => different (FileItem.file.inj same)
  | .directory, .directory => .isTrue rfl
  | .file _, .directory => .isFalse nofun
  | .directory, .file _ => .isFalse nofun

structure FileTree where
  items : List (List String × FileItem)

namespace FileTree

def empty : FileTree := ⟨[]⟩

/-- The item at a location, if there is one. -/
def item? (tree : FileTree) (location : List String) : Option FileItem :=
  match location with
  | [] => some .directory
  | _ :: _ => tree.items.lookup location

/-- Puts an item in the place of an earlier one, or at the end. -/
def putItem (location : List String) (item : FileItem) :
    List (List String × FileItem) → List (List String × FileItem)
  | [] => [(location, item)]
  | (other, old) :: rest =>
      if other = location then (location, item) :: rest
      else (other, old) :: putItem location item rest

def put (tree : FileTree) (location : List String) (item : FileItem) : FileTree :=
  ⟨putItem location item tree.items⟩

/-- The greatest number of bytes in a name, and in a path. -/
def nameLimit : Nat := 255

def pathLimit : Nat := 4095

/-- The location that names lead to from a location, each of which exists. -/
def walk (tree : FileTree) (location : List String) :
    List String → Except SystemError (List String)
  | [] => .ok location
  | name :: names =>
      match tree.item? location with
      | none => .error .notFound
      | some (.file _) => .error .notDirectory
      | some .directory =>
          if name = "." then walk tree location names
          else if name = ".." then walk tree location.dropLast names
          else if nameLimit < name.utf8ByteSize then .error .nameTooLong
          else
            match tree.item? (location ++ [name]) with
            | none => .error .notFound
            | some _ => walk tree (location ++ [name]) names

/-- Where a path starts and the names in it, unless no path can be like it. -/
def splitPath (working : List String) (path : String) :
    Except SystemError (List String × List String) :=
  if path.toList.contains '\x00' then .error .nulInName
  else if path.isEmpty then .error .notFound
  else .ok (if Path.isAbsolute path then [] else working, Path.names path)

/-- The same for a path that is used as a whole, which has a limited length. -/
def openPath (working : List String) (path : String) :
    Except SystemError (List String × List String) := do
  let parts ← splitPath working path
  if pathLimit < path.utf8ByteSize then .error .nameTooLong else .ok parts

/-- The location that the names in a path lead to.  A slash at the end of the path asks for a
directory. -/
def follow (tree : FileTree) (path : String) (start names : List String) :
    Except SystemError (List String) :=
  tree.walk start (if Path.isClosed path then names ++ ["."] else names)

/-- The location of an existing item. -/
def locate (tree : FileTree) (working : List String) (path : String) :
    Except SystemError (List String) := do
  let (start, names) ← openPath working path
  tree.follow path start names

/-- The location of an existing item whose path is followed name by name, so that it may have any
length. -/
def resolve (tree : FileTree) (working : List String) (path : String) :
    Except SystemError (List String) := do
  let (start, names) ← splitPath working path
  tree.follow path start names

/-- The location that the last name of a path gives to a new item, whose directory exists. -/
def locateNew (tree : FileTree) (start : List String) (names : List String) (last : String) :
    Except SystemError (List String) := do
  let directory ← tree.walk start names
  match tree.item? directory with
  | some .directory =>
      if nameLimit < last.utf8ByteSize then .error .nameTooLong
      else .ok (directory ++ [last])
  | _ => .error .notDirectory

def isDirectory (tree : FileTree) (working : List String) (path : String) : Bool :=
  match tree.locate working path with
  | .ok location => tree.item? location = some .directory
  | .error _ => false

/-- The tree with one more directory. -/
def createDirectory (tree : FileTree) (working : List String) (path : String) :
    Except SystemError FileTree := do
  let (start, names) ← openPath working path
  match names.getLast? with
  | none => .error .fileExists
  | some last =>
      let location ← tree.locateNew start names.dropLast last
      if last = "." ∨ last = ".." then .error .fileExists
      else
        match tree.item? location with
        | some _ => .error .fileExists
        | none => .ok (tree.put location .directory)

/-- The tree with a file of the given content. -/
def writeFile (tree : FileTree) (working : List String) (path : String) (content : ByteArray) :
    Except SystemError FileTree := do
  let (start, names) ← openPath working path
  match names.getLast? with
  | none => .error .isDirectory
  | some last =>
      let location ← tree.locateNew start names.dropLast last
      if Path.isClosed path ∨ last = "." ∨ last = ".." then .error .isDirectory
      else
        match tree.item? location with
        | some .directory => .error .isDirectory
        | _ => .ok (tree.put location (.file content))

/-- The text of a file. -/
def readText (tree : FileTree) (working : List String) (path : String) :
    Except SystemError String := do
  let location ← tree.locate working path
  match tree.item? location with
  | some (.file content) =>
      match String.fromUTF8? content with
      | some text => .ok text
      | none => .error .notText
  | _ => .error .isDirectory

/-- The name of an item that is in a directory itself. -/
def nameIn? (directory location : List String) : Option String :=
  match location.getLast? with
  | some name => if location.dropLast = directory then some name else none
  | none => none

/-- The names of the items in a directory. -/
def fileNames (tree : FileTree) (working : List String) (path : String) :
    Except SystemError (List String) := do
  let location ← tree.locate working path
  match tree.item? location with
  | some .directory => .ok (tree.items.filterMap fun (place, _) => nameIn? location place)
  | _ => .error .notDirectory

/-- The items that are in `after` and not, or not with the same content, in `before`. -/
def changes (before after : FileTree) : List (List String × FileItem) :=
  after.items.filter fun (location, item) => before.item? location ≠ some item

/-- An operation that gives the changed tree, or leaves the tree as it is. -/
def change (operation : FileTree → Except SystemError FileTree) :
    StateM FileTree (Except SystemError Unit) := fun tree =>
  match operation tree with
  | .ok changed => (.ok (), changed)
  | .error error => (.error error, tree)

/-- The disk of a tree that is passed along, in which relative paths start at `working`. -/
def disk (working : List String) : Disk (StateM FileTree) where
  canonicalPath path := fun tree => ((tree.resolve working path).map Path.absolute, tree)
  readText path := fun tree => (tree.readText working path, tree)
  fileNames path := fun tree => (tree.fileNames working path, tree)
  isDirectory path := fun tree => (tree.isDirectory working path, tree)
  createDirectory path := change fun tree => tree.createDirectory working path
  writeText path text := change fun tree => tree.writeFile working path text.toUTF8

end FileTree
end SchemaClasses
