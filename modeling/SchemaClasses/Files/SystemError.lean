/-!
# Errors of the file system

The reasons for which a file or directory cannot be found, read, created or opened, with the texts
that the operating system has for them.
-/

namespace SchemaClasses

inductive SystemError where
  | notFound
  | fileExists
  | notDirectory
  | isDirectory
  | nameTooLong
  /-- A path with the character that ends one. -/
  | nulInName
  /-- A file whose bytes are not text. -/
  | notText
  /-- Any other reason, in the words of the system. -/
  | other (text : String)
  deriving DecidableEq, Repr

def SystemError.message : SystemError → String
  | .notFound => "No such file or directory (os error 2)"
  | .fileExists => "File exists (os error 17)"
  | .notDirectory => "Not a directory (os error 20)"
  | .isDirectory => "Is a directory (os error 21)"
  | .nameTooLong => "File name too long (os error 36)"
  | .nulInName => "file name contained an unexpected NUL byte"
  | .notText => "stream did not contain valid UTF-8"
  | .other text => text

end SchemaClasses
