import SchemaClasses.Classes.Basic

/-!
# Command lines

What the arguments of the program ask for.  A setting is given once, with its value attached or as
the next argument, and nothing but settings is accepted.
-/

namespace SchemaClasses
namespace CommandLine

/-- The settings of a run. -/
structure Options where
  rootSchema : String
  output : String
  namespaceName : String
  deriving DecidableEq, Repr

/-- What the program is asked to do. -/
inductive Request where
  | run (options : Options)
  /-- To show its help or its version. -/
  | information
  /-- The arguments are not understood. -/
  | misuse
  deriving DecidableEq, Repr

inductive Setting where
  | rootSchema
  | output
  | namespaceName
  deriving DecidableEq, Repr

/-- The setting with a long name. -/
def Setting.ofName? (name : List Char) : Option Setting :=
  if name = "root-schema".toList then some .rootSchema
  else if name = "output".toList then some .output
  else if name = "namespace".toList then some .namespaceName
  else none

/-- The values given so far. -/
structure Given where
  rootSchema : Option String
  output : Option String
  namespaceName : Option String

namespace Given

def nothing : Given := ⟨none, none, none⟩

/-- Takes a value, unless the setting has one already.  Paths are not empty. -/
def take? (given : Given) (setting : Setting) (value : String) : Option Given :=
  match setting with
  | .rootSchema =>
      if given.rootSchema.isSome || value.isEmpty then none
      else some { given with rootSchema := some value }
  | .output =>
      if given.output.isSome || value.isEmpty then none
      else some { given with output := some value }
  | .namespaceName =>
      if given.namespaceName.isSome then none
      else some { given with namespaceName := some value }

def defaultRootSchema : String := "../glTF/specification/2.0/schema/glTF.schema.json"

def defaultOutput : String := "../glTFLoader/Schema"

/-- The settings with the defaults of those that were not given. -/
def options (given : Given) : Options where
  rootSchema := given.rootSchema.getD defaultRootSchema
  output := given.output.getD defaultOutput
  namespaceName := given.namespaceName.getD defaultNamespace

end Given

/-- One argument by itself. -/
inductive Argument where
  /-- The end of the settings. -/
  | ending
  | information
  /-- A setting whose value is the next argument. -/
  | awaiting (setting : Setting)
  | assigned (setting : Setting) (value : String)
  | unknown
  deriving DecidableEq, Repr

namespace Argument

/-- The argument after two dashes. -/
def ofLong (text : List Char) : Argument :=
  let name := text.takeWhile (· ≠ '=')
  match text.dropWhile (· ≠ '=') with
  | [] =>
      if name = "help".toList ∨ name = "version".toList then .information
      else
        match Setting.ofName? name with
        | some setting => .awaiting setting
        | none => .unknown
  | _ :: value =>
      match Setting.ofName? name with
      | some setting => .assigned setting (String.ofList value)
      | none => .unknown

/-- The argument after one dash. -/
def ofShort : List Char → Argument
  | 'h' :: _ => .information
  | 'V' :: _ => .information
  | ['o'] => .awaiting .output
  | 'o' :: '=' :: value => .assigned .output (String.ofList value)
  | 'o' :: value => .assigned .output (String.ofList value)
  | _ => .unknown

def ofText (text : String) : Argument :=
  match text.toList with
  | ['-', '-'] => .ending
  | '-' :: '-' :: rest => ofLong rest
  | '-' :: rest => ofShort rest
  | _ => .unknown

end Argument

/-- Whether an argument can be the value of the setting before it: a dash starts a value only by
itself. -/
def isValue (text : String) : Bool :=
  text = "-" || text.toList.head? ≠ some '-'

/-- What the remaining arguments ask for after some values have been given.  The first argument that
is not understood, or asks for information, decides. -/
def requestAfter (given : Given) : List String → Request
  | [] => .run given.options
  | text :: rest =>
      match Argument.ofText text with
      | .information => .information
      | .unknown => .misuse
      | .ending => if rest.isEmpty then .run given.options else .misuse
      | .assigned setting value =>
          match given.take? setting value with
          | some taken => requestAfter taken rest
          | none => .misuse
      | .awaiting setting =>
          match rest with
          | [] => .misuse
          | value :: rest =>
              if isValue value then
                match given.take? setting value with
                | some taken => requestAfter taken rest
                | none => .misuse
              else .misuse

/-- What the arguments ask for. -/
def request (arguments : List String) : Request :=
  requestAfter .nothing arguments

end CommandLine
end SchemaClasses
