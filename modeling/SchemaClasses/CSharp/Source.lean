import SchemaClasses.Classes.Basic
import SchemaClasses.CSharp.Expression

/-!
# Source files of C#

A class as a complete source file, line by line.
-/

namespace SchemaClasses
namespace CSharp

def indent : String := "    "

def memberIndent : String := indent ++ indent

def bodyIndent : String := indent ++ indent ++ indent

def headerRule : String :=
  "//" ++ String.ofList (List.replicate 78 '-')

/-- A documentation comment with one line for each line of the text. -/
def summaryLines (margin text : String) : List String :=
  (margin ++ "/// <summary>") ::
    ((Text.lines text.toList).map fun line =>
      margin ++ "/// " ++ String.ofList (entities (Text.trimEnd line))) ++
    [margin ++ "/// </summary>"]

/-- A documentation comment, if there is a text for it. -/
def optionalSummary (margin : String) : Option String → List String
  | some text => summaryLines margin text
  | none => []

/-- The declaration of the private field of a property. -/
def fieldLine (property : Property) : String :=
  let declared := s!"{memberIndent}private {typeText property.descriptor.target} " ++
    property.backingName
  match property.descriptor.initial with
  | some literal => declared ++ " = " ++ literalText property.descriptor.target literal ++ ";"
  | none => declared ++ ";"

/-- The method that tells whether a member of the given type is written. -/
def predicateLines (target : Target) (predicate : Predicate) : List String :=
  [ "",
    s!"{memberIndent}public bool {predicate.name}() \x7b",
    s!"{bodyIndent}return {conditionText target predicate.condition};",
    s!"{memberIndent}\x7d" ]

/-- The field, the accessor and the predicates of a property. -/
def propertyLines (property : Property) : List String :=
  let descriptor := property.descriptor
  [""] ++
    summaryLines memberIndent s!"Backing field for {property.name}." ++
    [fieldLine property, ""] ++
    optionalSummary memberIndent property.doc ++
    descriptor.attributes.map (fun hint => memberIndent ++ attributeText hint) ++
    [ s!"{memberIndent}public {typeText descriptor.target} {property.name} \x7b",
      s!"{bodyIndent}get \x7b",
      s!"{bodyIndent}{indent}return this.{property.backingName};",
      s!"{bodyIndent}\x7d",
      s!"{bodyIndent}set \x7b",
      s!"{bodyIndent}{indent}this.{property.backingName} = value;",
      s!"{bodyIndent}\x7d",
      s!"{memberIndent}\x7d" ] ++
    descriptor.predicates.flatMap (predicateLines descriptor.target)

/-- The lines of the source file of a class. -/
def classLines (classDef : ClassDef) : List String :=
  [ headerRule,
    "// <auto-generated>",
    s!"//     Generated by json-schema-cs from {classDef.sourceFile}. Do not edit manually.",
    "// </auto-generated>",
    headerRule,
    "",
    s!"namespace {classDef.namespaceName} \x7b",
    s!"{indent}using System.Linq;",
    s!"{indent}using System.Runtime.Serialization;",
    "",
    "" ] ++
    optionalSummary indent classDef.description ++
    [s!"{indent}public class {classDef.name} \x7b"] ++
    classDef.properties.flatMap propertyLines ++
    [s!"{indent}\x7d", "\x7d"]

/-- The pieces in which a class is written, one for each line. -/
def pieces (classDef : ClassDef) : List String :=
  (classLines classDef).map (· ++ "\n")

/-- The text of the source file of a class. -/
def source (classDef : ClassDef) : String :=
  String.join (pieces classDef)

/-- The name of the source file of a class. -/
def fileName (classDef : ClassDef) : String :=
  classDef.name ++ ".cs"

end CSharp
end SchemaClasses
