/-!
# Double precision numbers

A finite number of the format binary64 is a sign and a whole number of units of `2 ^ (-1074)`, the
least positive magnitude.  Not every count of units is a magnitude: it has at most 53 significant
bits, and it stays below `2 ^ 1024`.  Rounding goes to the nearest magnitude, and from half way to
the one with the even significand.
-/

namespace SchemaClasses
namespace Binary64

/-- The units of `2 ^ (-1074)` in one. -/
def unitsPerOne : Nat := 1 <<< 1074

/-- The least count of units beyond the finite magnitudes, which stands for `2 ^ 1024`. -/
def unitsLimit : Nat := 1 <<< 2098

/-- Counts of units that are magnitudes. -/
def Representable (units : Nat) : Prop :=
  units < unitsLimit ∧
    ∃ significand exponent : Nat, significand < 1 <<< 53 ∧ units = significand <<< exponent

/-- A finite magnitude. -/
structure Magnitude where
  units : Nat
  representable : Representable units
  deriving DecidableEq

/-- A finite number; the two zeros are different numbers. -/
structure Finite where
  negative : Bool
  magnitude : Magnitude
  deriving DecidableEq

/-- The quotient rounded to the nearest natural number, from half way to the even one. -/
def roundDiv (numerator denominator : Nat) : Nat :=
  let quotient := numerator / denominator
  let twice := 2 * (numerator % denominator)
  if denominator < twice ∨ (denominator = twice ∧ quotient % 2 = 1) then quotient + 1
  else quotient

theorem roundDiv_le (numerator denominator : Nat) :
    roundDiv numerator denominator ≤ numerator / denominator + 1 := by
  simp only [roundDiv]
  split <;> omega

/-- The power of two, in units, that the last significant bit of a quotient stands for. -/
def shiftFor (units : Nat) : Nat := units.log2 - 52

theorem div_shiftFor_lt (units : Nat) : units / (1 <<< shiftFor units) < 1 <<< 53 := by
  rw [Nat.one_shiftLeft, Nat.one_shiftLeft, Nat.div_lt_iff_lt_mul (Nat.two_pow_pos _),
    ← Nat.pow_add]
  exact Nat.lt_of_lt_of_le Nat.lt_log2_self
    (Nat.pow_le_pow_right (by decide) (by simp only [shiftFor]; omega))

/-- The units of `numerator / denominator` rounded to 53 significant bits. -/
def roundedUnits (numerator denominator : Nat) : Nat :=
  -- The constant stands first: a product by a literal on the right unfolds for every unit of it.
  let scaled := unitsPerOne * numerator
  let shift := shiftFor (scaled / denominator)
  roundDiv scaled (denominator <<< shift) <<< shift

theorem roundedUnits_significand (numerator denominator : Nat) :
    ∃ significand exponent : Nat,
      significand < 1 <<< 53 ∧ roundedUnits numerator denominator = significand <<< exponent := by
  let scaled := unitsPerOne * numerator
  let shift := shiftFor (scaled / denominator)
  have quotientLt : scaled / (denominator <<< shift) < 1 <<< 53 := by
    have shifted := div_shiftFor_lt (scaled / denominator)
    rwa [Nat.div_div_eq_div_mul, Nat.one_shiftLeft, ← Nat.shiftLeft_eq] at shifted
  have roundedLe := roundDiv_le scaled (denominator <<< shift)
  by_cases carried : roundDiv scaled (denominator <<< shift) = 1 <<< 53
  · refine ⟨1 <<< 52, shift + 1, by decide, ?_⟩
    change roundDiv scaled (denominator <<< shift) <<< shift = _
    have doubled : 2 * 1 <<< 52 = 1 <<< 53 := by decide
    rw [carried, Nat.shiftLeft_succ_inside (1 <<< 52), doubled]
  · exact ⟨roundDiv scaled (denominator <<< shift), shift, by omega, rfl⟩

/-- The magnitude nearest to `numerator / denominator`, unless that is `2 ^ 1024` or more. -/
def nearest? (numerator denominator : Nat) : Option Magnitude :=
  if finite : roundedUnits numerator denominator < unitsLimit then
    some ⟨_, finite, roundedUnits_significand numerator denominator⟩
  else none

/-- The magnitude zero. -/
def Magnitude.zero : Magnitude :=
  ⟨0, by decide +kernel, 0, 0, by decide, rfl⟩

end Binary64

/-- A number of the format binary64. -/
inductive Binary64 where
  | finite (value : Binary64.Finite)
  | infinite (negative : Bool)
  | nan
  deriving DecidableEq

namespace Binary64

/-- The number nearest to a quotient with the given sign, infinite from `2 ^ 1024` on. -/
def ofRatio (negative : Bool) (numerator denominator : Nat) : Binary64 :=
  match nearest? numerator denominator with
  | some magnitude => .finite ⟨negative, magnitude⟩
  | none => .infinite negative

/-- The number nearest to `digits * 10 ^ exponent` with the given sign. -/
def ofDecimal (negative : Bool) (digits : Nat) (exponent : Int) : Binary64 :=
  if exponent < 0 then ofRatio negative digits (Nat.pow 10 exponent.natAbs)
  else ofRatio negative (digits * Nat.pow 10 exponent.natAbs) 1

/-- The number nearest to an integer; zero has the positive sign. -/
def ofInt (n : Int) : Binary64 :=
  ofRatio (n < 0) n.natAbs 1

/-- The product of two magnitudes, rounded. -/
def Magnitude.mul? (a b : Magnitude) : Option Magnitude :=
  nearest? (a.units * b.units) (unitsPerOne * unitsPerOne)

/-- The quotient of two magnitudes, rounded; the divisor is not zero. -/
def Magnitude.div? (a b : Magnitude) : Option Magnitude :=
  nearest? a.units b.units

end Binary64
end SchemaClasses
