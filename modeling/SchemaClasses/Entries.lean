/-!
# Entries sorted by key

A map from texts as the list of its pairs, in the order of the keys.  Texts are ordered by their
code points, which is also the order of their bytes.
-/

namespace SchemaClasses

/-- Puts a pair at the place of its key in a sorted list, instead of any pair with that key. -/
def insertSorted {α : Type} (key : String) (value : α) :
    List (String × α) → List (String × α)
  | [] => [(key, value)]
  | (other, old) :: rest =>
      if key < other then (key, value) :: (other, old) :: rest
      else if key = other then (key, value) :: rest
      else (other, old) :: insertSorted key value rest

end SchemaClasses
