import SchemaClasses.Json.Refusal

/-!
# Related readings

Two readings of different trees may give related data.  Refusals are compared without their offsets:
by what is wrong and by the path to it.
-/

namespace SchemaClasses
namespace Json

variable {α β γ δ : Type}

/-- One reading gives what the other one gives, up to `related`, or both are refused for the same
reason at the same path.  If refusals are `excused`, nothing is asked of the second reading where
the first one is refused. -/
inductive ReadsAs (excused : Prop) (related : α → β → Prop) : Reading α → Reading β → Prop
  | ok {value : α} {other : β} (holds : related value other) :
      ReadsAs excused related (.ok value) (.ok other)
  | refused {refusal other : Refusal} (problem : refusal.problem = other.problem)
      (path : refusal.path = other.path) : ReadsAs excused related (.error refusal) (.error other)
  | excused (may : excused) (refusal : Refusal) (other : Reading β) :
      ReadsAs excused related (.error refusal) other

/-- Two readings give the same, or are refused for the same reason at the same path. -/
abbrev SameReading : Reading α → Reading α → Prop :=
  ReadsAs False Eq

namespace ReadsAs

variable {excused : Prop} {related : α → β → Prop} {implied : γ → δ → Prop}
  {first : Reading α} {second : Reading β}

theorem of_eq {related : α → α → Prop} (self : ∀ value, related value value) (reading : Reading α) :
    ReadsAs excused related reading reading := by
  cases reading with
  | ok value => exact .ok (self value)
  | error refusal => exact .refused rfl rfl

theorem mono {implied : α → β → Prop} (reads : ReadsAs excused related first second)
    (implies : ∀ value other, related value other → implied value other) :
    ReadsAs excused implied first second := by
  cases reads with
  | ok holds => exact .ok (implies _ _ holds)
  | refused problem path => exact .refused problem path
  | excused may => exact .excused may _ _

theorem bind (reads : ReadsAs excused related first second) {next : α → Reading γ}
    {other : β → Reading δ}
    (further : ∀ value given, related value given →
      ReadsAs excused implied (next value) (other given)) :
    ReadsAs excused implied (first >>= next) (second >>= other) := by
  cases reads with
  | ok holds => exact further _ _ holds
  | refused problem path => exact .refused problem path
  | excused may => exact .excused may _ _

/-- What follows one reading is related if it is related for whatever is read. -/
theorem bind_self {reading : Reading α} {next : α → Reading γ} {other : α → Reading δ}
    (further : ∀ value, reading = .ok value → ReadsAs excused implied (next value) (other value)) :
    ReadsAs excused implied (reading >>= next) (reading >>= other) := by
  cases reading with
  | ok value => exact further value rfl
  | error refusal => exact .refused rfl rfl

theorem map {change : α → γ} {otherChange : β → δ}
    (reads : ReadsAs excused (fun value other => implied (change value) (otherChange other))
      first second) :
    ReadsAs excused implied (first.map change) (second.map otherChange) := by
  cases reads with
  | ok holds => exact .ok holds
  | refused problem path => exact .refused problem path
  | excused may => exact .excused may _ _

theorem under (reads : ReadsAs excused related first second) (segment : Segment) :
    ReadsAs excused related (first.under segment) (second.under segment) := by
  cases reads with
  | ok holds => exact .ok holds
  | refused problem path => exact .refused problem (congrArg (segment :: ·) path)
  | excused may => exact .excused may _ _

theorem leaving (reads : ReadsAs excused related first second) (offset otherOffset : Nat) :
    ReadsAs excused related (first.leaving offset) (second.leaving otherOffset) := by
  cases reads with
  | ok holds => exact .ok holds
  | refused problem path => exact .refused problem path
  | excused may => exact .excused may _ _

/-- Where refusals are excused, only what is read needs to be read again. -/
theorem of_ok (may : excused)
    (reads : ∀ value, first = .ok value → ∃ other, second = .ok other ∧ related value other) :
    ReadsAs excused related first second := by
  cases first with
  | ok value =>
      obtain ⟨other, rfl, holds⟩ := reads value rfl
      exact .ok holds
  | error refusal => exact .excused may _ _

theorem exists_of_ok {value : α} (reads : ReadsAs excused related (.ok value) second) :
    ∃ other, second = .ok other ∧ related value other := by
  cases reads with
  | ok holds => exact ⟨_, rfl, holds⟩

end ReadsAs

namespace SameReading

theorem refl (reading : Reading α) : SameReading reading reading :=
  .of_eq (fun _ => rfl) reading

theorem symm {first second : Reading α} (same : SameReading first second) :
    SameReading second first := by
  cases same with
  | ok holds => exact .ok holds.symm
  | refused problem path => exact .refused problem.symm path.symm
  | excused may => exact may.elim

theorem bind {first second : Reading α} (same : SameReading first second)
    {next other : α → Reading β} (further : ∀ value, SameReading (next value) (other value)) :
    SameReading (first >>= next) (second >>= other) :=
  ReadsAs.bind same fun value _ valueEq => valueEq ▸ further value

theorem map {first second : Reading α} (same : SameReading first second) (change : α → β) :
    SameReading (first.map change) (second.map change) :=
  ReadsAs.map (ReadsAs.mono same fun _ _ => congrArg change)

theorem ofFault {fault other : Fault} (cause : fault.cause = other.cause) :
    SameReading (Reading.ofFault (α := α) fault) (.ofFault other) :=
  .refused (congrArg Problem.fault cause) rfl

/-- What is read in the same way can stand for each other on either side. -/
theorem trans_readsAs {excused : Prop} {related : α → β → Prop} {first other : Reading α}
    {second further : Reading β} (left : SameReading first other)
    (reads : ReadsAs excused related other further) (right : SameReading further second) :
    ReadsAs excused related first second := by
  cases left with
  | ok sameValue =>
      obtain rfl := sameValue
      cases reads with
      | ok holds =>
          cases right with
          | ok otherValue => exact .ok (otherValue ▸ holds)
  | refused problem path =>
      cases reads with
      | refused middle middlePath =>
          cases right with
          | refused last lastPath =>
              exact .refused ((problem.trans middle).trans last)
                ((path.trans middlePath).trans lastPath)
          | excused may => exact may.elim
      | excused may => exact .excused may _ _
  | excused may => exact may.elim

end SameReading

/-- The depth inside a container does not depend on where the container starts. -/
theorem ReadsAs.descend {excused : Prop} {related : α → β → Prop} (depth start otherStart : Nat)
    {next : Nat → Reading α} {other : Nat → Reading β}
    (further : ReadsAs excused related (next (depth - 1)) (other (depth - 1))) :
    ReadsAs excused related (descend depth start >>= next)
      (descend depth otherStart >>= other) := by
  unfold Json.descend
  split
  · exact .refused rfl rfl
  · exact further

end Json
end SchemaClasses
