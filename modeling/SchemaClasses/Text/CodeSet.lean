/-!
# Sets of code points

A set of numbers is given by the increasing list of its edges: it begins at the first edge, ends
before the second, begins again at the third, and so on.  A last edge without a partner begins a run
that never ends.
-/

namespace SchemaClasses
namespace Text

/-- Membership in the set with the given edges. -/
def inside : List Nat → Nat → Bool
  | [], _ => false
  | [start], code => start ≤ code
  | start :: stop :: rest, code =>
      if code < start then false
      else if code < stop then true
      else inside rest code

end Text
end SchemaClasses
