import SchemaClasses.CSharp.Source
import SchemaClasses.Schema.Reading
import SchemaClasses.Sink

/-!
# Generation from one document

The class of one schema text, written to a sink.
-/

namespace SchemaClasses

/-- The document in the text of a schema file; the path only names the file in failures. -/
def readDocument (path text : String) : Except Failure Schema.Node :=
  (Schema.Node.ofDocument text).mapError fun refusal => .load path (.refused text refusal)

/-- The class of a schema text whose document is object-typed. -/
def ClassDef.ofText (namespaceName fileName text : String) : Except Failure ClassDef := do
  let document ← readDocument fileName text
  if document.isObjectTyped then ClassDef.ofDocument namespaceName fileName document
  else .error (.rootNotObject fileName)

/-- Writes the class of a schema text to a sink. -/
def generateTo (namespaceName fileName text : String) (sink : Sink) :
    Except Failure Unit × Sink :=
  match ClassDef.ofText namespaceName fileName text with
  | .error failure => (.error failure, sink)
  | .ok classDef =>
      let (result, written) := sink.writeAll (CSharp.pieces classDef)
      (result.mapError .write, written)

end SchemaClasses
