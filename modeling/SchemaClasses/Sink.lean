import SchemaClasses.Failure

/-!
# Sinks

A sink takes the bytes of a text, all of them or only up to a limit.  A text that does not fit is
taken as far as it fits.
-/

namespace SchemaClasses

structure Sink where
  /-- How many bytes the sink takes in all, if there is a limit. -/
  limit : Option Nat
  taken : Array UInt8

namespace Sink

def empty (limit : Option Nat) : Sink :=
  ⟨limit, #[]⟩

/-- The bytes that a sink has taken. -/
def written (sink : Sink) : List UInt8 :=
  sink.taken.toList

/-- The bytes of a text. -/
def bytes (text : String) : List UInt8 :=
  text.toUTF8.data.toList

/-- The sink after a text, and whether it took the whole text. -/
def write (sink : Sink) (text : String) : Except WriteProblem Unit × Sink :=
  let incoming := bytes text
  match sink.limit with
  | none => (.ok (), { sink with taken := sink.taken ++ incoming })
  | some limit =>
      let free := limit - sink.taken.size
      let grown := { sink with taken := sink.taken ++ incoming.take free }
      if incoming.length ≤ free then (.ok (), grown) else (.error .full, grown)

/-- The sink after texts one by one, up to the first that it does not take whole. -/
def writeAll (sink : Sink) : List String → Except WriteProblem Unit × Sink
  | [] => (.ok (), sink)
  | text :: rest =>
      match sink.write text with
      | (.ok _, grown) => grown.writeAll rest
      | (.error problem, grown) => (.error problem, grown)

end Sink
end SchemaClasses
