import SchemaClasses.Files.SystemError
import SchemaClasses.Json.Refusal
import SchemaClasses.Member.Unsupported

/-!
# Failures of a run

Every failure ends the run at once.
-/

namespace SchemaClasses

/-- Why a schema file is not loaded. -/
inductive LoadProblem where
  | system (error : SystemError)
  /-- The path names the root directory, which has no name of its own. -/
  | noFileName
  /-- The text of the file does not read as a schema. -/
  | refused (text : String) (refusal : Json.Refusal)

def LoadProblem.message : LoadProblem → String
  | .system error => error.message
  | .noFileName => "path has no file name"
  | .refused text refusal => refusal.locatedMessage text

/-- Where two things have the same name. -/
inductive NameScope where
  | members (className fileName : String)
  | classes (firstFile secondFile : String)
  deriving DecidableEq, Repr

def NameScope.text : NameScope → String
  | .members className fileName => s!"class {className} ({fileName})"
  | .classes firstFile secondFile => s!"generation run ({firstFile} and {secondFile})"

/-- Why nothing can be written. -/
inductive WriteProblem where
  | system (error : SystemError)
  /-- The writer takes no more bytes. -/
  | full
  deriving DecidableEq, Repr

def WriteProblem.message : WriteProblem → String
  | .system error => error.message
  | .full => "failed to write whole buffer"

inductive Failure where
  | load (path : String) (problem : LoadProblem)
  | rootNotObject (document : String)
  | unsupported (document : String) (source : Unsupported)
  | collision (scope : NameScope) (name : String)
  | write (problem : WriteProblem)

def Failure.message : Failure → String
  | .load path problem => s!"failed to load schema {path}: {problem.message}"
  | .rootNotObject document => s!"{document}: root schema must have type \"object\""
  | .unsupported document source => s!"{document}: {source.message}"
  | .collision scope name =>
      s!"naming collision in {scope.text}: `{name}` is generated more than once"
  | .write problem => problem.message

end SchemaClasses
