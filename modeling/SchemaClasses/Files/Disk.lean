import SchemaClasses.Files.Path
import SchemaClasses.Files.SystemError

/-!
# Disks

The operations on files that a run uses, in any monad: the files of the machine, or a tree of files
that is passed along as a value.
-/

namespace SchemaClasses

structure Disk (m : Type → Type) where
  /-- The absolute path of an existing file or directory. -/
  canonicalPath : String → m (Except SystemError String)
  /-- The text of a file. -/
  readText : String → m (Except SystemError String)
  /-- The names of all files and directories in a directory. -/
  fileNames : String → m (Except SystemError (List String))
  isDirectory : String → m Bool
  /-- Creates a directory, whose own directory exists. -/
  createDirectory : String → m (Except SystemError Unit)
  /-- Creates a file with a text, or replaces the text of an existing file. -/
  writeText : String → String → m (Except SystemError Unit)

namespace Disk

variable {m : Type → Type} [Monad m]

/-- The outcome of creating a directory that may have been there before. -/
def acceptExisting (disk : Disk m) (path : String) (error : SystemError) :
    m (Except SystemError Unit) := do
  if error = .fileExists then
    if ← disk.isDirectory path then return .ok () else return .error error
  else return .error error

/-- Creates the first of some directories, each of which lies in the next one, after those of the
others that are missing. -/
def createChain (disk : Disk m) : List String → m (Except SystemError Unit)
  | [] => return .ok ()
  | path :: outer => do
      match ← disk.createDirectory path with
      | .ok _ => return .ok ()
      | .error .notFound =>
          match ← createChain disk outer with
          | .error error => return .error error
          | .ok _ =>
              match ← disk.createDirectory path with
              | .ok _ => return .ok ()
              | .error error => acceptExisting disk path error
      | .error error => acceptExisting disk path error

/-- Creates a directory, with the directories around it, if it is missing. -/
def createDirectories (disk : Disk m) (path : String) : m (Except SystemError Unit) :=
  if path.isEmpty then return .ok ()
  else disk.createChain (path :: Path.ancestors path)

end Disk
end SchemaClasses
