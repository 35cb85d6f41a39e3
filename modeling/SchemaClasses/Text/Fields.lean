/-!
# Fields between separators

A text falls into fields at its separators.  Separators that stand next to each other, or at an end,
give no empty fields.
-/

namespace SchemaClasses
namespace Text

/-- The fields of a text, where `field` has been read backwards since the last separator. -/
def fieldsAfter (isSeparator : Char → Bool) (field : List Char) : List Char → List (List Char)
  | [] => if field.isEmpty then [] else [field.reverse]
  | c :: rest =>
      if isSeparator c then
        if field.isEmpty then fieldsAfter isSeparator [] rest
        else field.reverse :: fieldsAfter isSeparator [] rest
      else fieldsAfter isSeparator (c :: field) rest

/-- The non-empty fields of a text. -/
def fields (isSeparator : Char → Bool) (text : List Char) : List (List Char) :=
  fieldsAfter isSeparator [] text

end Text
end SchemaClasses
