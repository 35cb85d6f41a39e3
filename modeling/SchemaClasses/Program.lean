import SchemaClasses.CommandLine
import SchemaClasses.Run

/-!
# The program

From arguments to the end of the program: the status it ends with, and what it complains of.
-/

namespace SchemaClasses

/-- How the program ends. -/
structure Ending where
  status : Nat
  complaint : Option String
  deriving DecidableEq, Repr

/-- Does what the arguments ask for on a disk.  The status tells a failed run from arguments that
are not understood. -/
def perform {m : Type → Type} [Monad m] (disk : Disk m) (arguments : List String) : m Ending :=
  match CommandLine.request arguments with
  | .information => return ⟨0, none⟩
  | .misuse => return ⟨2, none⟩
  | .run options => do
      match ← (generate disk options.namespaceName options.rootSchema options.output).run with
      | .ok _ => return ⟨0, none⟩
      | .error failure => return ⟨1, some ("Error: " ++ failure.message)⟩

end SchemaClasses
