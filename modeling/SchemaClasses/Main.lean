import SchemaClasses.Program

/-!
# The command line program

The disk of the machine, and the program on it.
-/

namespace SchemaClasses

/-- The number that the operating system gives an error, if it has one. -/
def errorNumber? : IO.Error → Option Nat
  | .alreadyExists _ number _ => some number.toNat
  | .noFileOrDirectory _ number _ => some number.toNat
  | .inappropriateType _ number _ => some number.toNat
  | .invalidArgument _ number _ => some number.toNat
  | .resourceExhausted _ number _ => some number.toNat
  | .noSuchThing _ number _ => some number.toNat
  | .permissionDenied _ number _ => some number.toNat
  | .otherError number _ => some number.toNat
  | _ => none

def systemError (error : IO.Error) : SystemError :=
  match errorNumber? error with
  | some 2 => .notFound
  | some 17 => .fileExists
  | some 20 => .notDirectory
  | some 21 => .isDirectory
  | some 36 => .nameTooLong
  | _ => .other (toString error)

/-- Runs an action on a path, whose errors become values. -/
def onPath {α : Type} (path : String) (action : IO α) : IO (Except SystemError α) := do
  if path.toList.contains '\x00' then return .error .nulInName
  else if path.isEmpty then return .error .notFound
  else
    try return .ok (← action)
    catch error => return .error (systemError error)

/-- The files of the machine. -/
def machineDisk : Disk IO where
  canonicalPath path := onPath path do return (← IO.FS.realPath path).toString
  readText path := do
    match ← onPath path (IO.FS.readBinFile path) with
    | .error error => return .error error
    | .ok content =>
        match String.fromUTF8? content with
        | some text => return .ok text
        | none => return .error .notText
  fileNames path := onPath path do
    let entries ← (← IO.FS.realPath path).readDir
    return (entries.map (·.fileName)).toList
  isDirectory path := do
    match ← onPath path (do (← IO.FS.realPath path).isDir) with
    | .ok answer => return answer
    | .error _ => return false
  createDirectory path := onPath path (IO.FS.createDir path)
  writeText path text := onPath path (IO.FS.writeFile path text)

end SchemaClasses

def main (arguments : List String) : IO UInt32 := do
  let ending ← SchemaClasses.perform SchemaClasses.machineDisk arguments
  match ending.complaint with
  | some complaint => IO.eprintln complaint
  | none => pure ()
  return ending.status.toUInt32
