import SchemaClasses.CSharp.Escape
import SchemaClasses.Member.Target

/-!
# Types and expressions of C#

How types, default literals and serialization conditions are spelled.
-/

namespace SchemaClasses
namespace CSharp

def scalarKeyword : ScalarKind → String
  | .string => "string"
  | .integer => "int"
  | .number => "float"
  | .boolean => "bool"
  | .any => "object"

/-- The spelling of a type. -/
def typeText : Target → String
  | .scalar kind => scalarKeyword kind
  | .array { target, .. } => typeText target ++ "[]"
  | .dictionary value =>
      "System.Collections.Generic.Dictionary<string, " ++ typeText value ++ ">"
  | .object className => className

/-- The type of the elements of a sequence which initializes a member of the given type. -/
def elementOf : Target → Target
  | .array element => element.target
  | _ => .scalar .any

/-- An array without elements.  The outermost rank of an array of arrays takes the size, as in
`new float[0][]`. -/
def emptyArray (element : Target) : String :=
  let spelled := (typeText element).toList
  let base := spelled.takeWhile (· != '[')
  let ranks := spelled.dropWhile (· != '[')
  "new " ++ String.ofList base ++ "[0]" ++ String.ofList ranks

/-- An array of the given expressions. -/
def arrayText (element : Target) (elements : List String) : String :=
  if elements.isEmpty then emptyArray element
  else "new " ++ typeText element ++ "[] \x7b " ++ ", ".intercalate elements ++ " \x7d"

mutual

/-- The expression for a literal that initializes a member of the given type. -/
def literalText (target : Target) : Literal → String
  | .string text => stringLiteral text
  | .integer value => toString value
  | .number value => Binary64.plainLayout.text value ++ "F"
  | .boolean value => if value then "true" else "false"
  | .sequence elements =>
      arrayText (elementOf target) (literalTexts (elementOf target) elements)

/-- The expressions for the elements of a sequence. -/
def literalTexts (element : Target) : List Literal → List String
  | [] => []
  | literal :: rest => literalText element literal :: literalTexts element rest

end

/-- The expression for a sequence with elements of the given type. -/
def sequenceText (element : Target) (elements : List Literal) : String :=
  arrayText element (literalTexts element elements)

/-- The expression for a condition on a field of the given type. -/
def conditionText (target : Target) : Condition → String
  | .notNull field => s!"(this.{field} != null)"
  | .sequenceDiffers field defaults =>
      let sequence := sequenceText (elementOf target) defaults
      s!"((this.{field} != null) && (this.{field}.Length > 0) && " ++
        s!"(this.{field}.SequenceEqual({sequence}) == false))"

def attributeText : Attribute → String
  | .required => "[Newtonsoft.Json.JsonRequiredAttribute()]"
  | .wireName key => s!"[Newtonsoft.Json.JsonPropertyAttribute({stringLiteral key})]"

end CSharp
end SchemaClasses
