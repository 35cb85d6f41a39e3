import Mathlib.Algebra.Group.Nat.Defs
import SchemaClasses.Binary64.Basic

/-!
# Integers as doubles

An integer below `2 ^ 53` in magnitude is a double, and no greater integer is rounded to less than
that.  An integer is therefore never rounded past one that is a double.
-/

namespace SchemaClasses
namespace Binary64

theorem unitsPerOne_eq : unitsPerOne = 2 ^ 1074 :=
  Nat.one_shiftLeft 1074

theorem unitsLimit_eq : unitsLimit = 2 ^ 2098 :=
  Nat.one_shiftLeft 2098

/-- The units of a quotient of an integer by one, with its shifts as powers. -/
theorem roundedUnits_one (n : Nat) :
    roundedUnits n 1 =
      roundDiv (n * unitsPerOne) (2 ^ shiftFor (n * unitsPerOne)) *
        2 ^ shiftFor (n * unitsPerOne) := by
  simp only [roundedUnits, Nat.div_one, Nat.shiftLeft_eq, Nat.one_mul,
    Nat.mul_comm unitsPerOne]

theorem two_pow_mul_unitsPerOne (exponent : Nat) :
    2 ^ exponent * unitsPerOne = 2 ^ (exponent + 1074) := by
  rw [unitsPerOne_eq, ← Nat.pow_add]

theorem unitsPerOne_pos : 0 < unitsPerOne := by
  rw [unitsPerOne_eq]
  exact Nat.two_pow_pos _

theorem div_le_roundDiv (numerator denominator : Nat) :
    numerator / denominator ≤ roundDiv numerator denominator := by
  simp only [roundDiv]
  split <;> omega

theorem roundDiv_mul_self {denominator : Nat} (positive : 0 < denominator) (quotient : Nat) :
    roundDiv (quotient * denominator) denominator = quotient := by
  have exact : quotient * denominator / denominator = quotient :=
    Nat.mul_div_cancel quotient positive
  have noRest : quotient * denominator % denominator = 0 :=
    Nat.mul_mod_left quotient denominator
  simp only [roundDiv, exact, noRest]
  rw [if_neg]
  omega

/-- Below `2 ^ 53` nothing is rounded. -/
theorem roundedUnits_of_lt {n : Nat} (small : n < 2 ^ 53) :
    roundedUnits n 1 = n * unitsPerOne := by
  have scaledLog : (n * unitsPerOne).log2 < 53 + 1074 := by
    by_cases isZero : n * unitsPerOne = 0
    · rw [isZero]
      decide
    · rw [Nat.log2_lt isZero, ← two_pow_mul_unitsPerOne 53]
      exact Nat.mul_lt_mul_of_pos_right small unitsPerOne_pos
  have shiftLe : shiftFor (n * unitsPerOne) ≤ 1074 := by
    simp only [shiftFor]
    omega
  rw [roundedUnits_one]
  generalize shiftFor (n * unitsPerOne) = shift at shiftLe ⊢
  have split : unitsPerOne = 2 ^ (1074 - shift) * 2 ^ shift := by
    rw [← Nat.pow_add, Nat.sub_add_cancel shiftLe, unitsPerOne_eq]
  have scaledEq : n * unitsPerOne = n * 2 ^ (1074 - shift) * 2 ^ shift := by
    rw [Nat.mul_assoc, ← split]
  rw [scaledEq, roundDiv_mul_self (Nat.two_pow_pos shift)]

/-- From `2 ^ 53` on nothing is rounded to less than that. -/
theorem le_roundedUnits_of_ge {n : Nat} (large : 2 ^ 53 ≤ n) :
    2 ^ 53 * unitsPerOne ≤ roundedUnits n 1 := by
  have notZero : n * unitsPerOne ≠ 0 := by
    have positive : 0 < n * unitsPerOne :=
      Nat.mul_pos (Nat.lt_of_lt_of_le (by decide) large) unitsPerOne_pos
    omega
  have limitEq := two_pow_mul_unitsPerOne 53
  have scaledGe : 2 ^ (53 + 1074) ≤ n * unitsPerOne := by
    rw [← limitEq]
    exact Nat.mul_le_mul_right _ large
  have logGe : 53 + 1074 ≤ (n * unitsPerOne).log2 := (Nat.le_log2 notZero).mpr scaledGe
  have powerLe : 2 ^ (n * unitsPerOne).log2 ≤ n * unitsPerOne := Nat.log2_self_le notZero
  have logEq : (n * unitsPerOne).log2 = 52 + shiftFor (n * unitsPerOne) := by
    simp only [shiftFor]
    omega
  rw [roundedUnits_one, limitEq]
  generalize n * unitsPerOne = scaled at logGe powerLe logEq
  generalize shiftFor scaled = shift at logEq
  have quotientGe : 2 ^ 52 ≤ scaled / 2 ^ shift := by
    rw [Nat.le_div_iff_mul_le (Nat.two_pow_pos shift), ← Nat.pow_add, ← logEq]
    exact powerLe
  calc
    2 ^ (53 + 1074) ≤ 2 ^ scaled.log2 := Nat.pow_le_pow_right (by decide) logGe
    _ = 2 ^ 52 * 2 ^ shift := by rw [logEq, Nat.pow_add]
    _ ≤ roundDiv scaled (2 ^ shift) * 2 ^ shift :=
      Nat.mul_le_mul_right _ (Nat.le_trans quotientGe (div_le_roundDiv _ _))

/-- Rounding never passes an integer that is a double. -/
theorem le_roundedUnits {n bound : Nat} (boundLe : bound ≤ 2 ^ 53) (le : bound ≤ n) :
    bound * unitsPerOne ≤ roundedUnits n 1 := by
  by_cases small : n < 2 ^ 53
  · rw [roundedUnits_of_lt small]
    exact Nat.mul_le_mul_right _ le
  · have scaledLe : bound * unitsPerOne ≤ 2 ^ 53 * unitsPerOne :=
      Nat.mul_le_mul_right _ boundLe
    exact Nat.le_trans scaledLe (le_roundedUnits_of_ge (Nat.le_of_not_lt small))

/-- A finite double in units of `2 ^ (-1074)`, with its sign. -/
def Finite.units (value : Finite) : Int :=
  if value.negative then -(value.magnitude.units : Int) else value.magnitude.units

theorem Magnitude.eq_of_units {first second : Magnitude} (unitsEq : first.units = second.units) :
    first = second := by
  obtain ⟨units, representable⟩ := first
  obtain ⟨others, _⟩ := second
  obtain rfl : units = others := unitsEq
  rfl

/-- Finite doubles are the same number exactly if they have one value and are not the two zeros. -/
theorem Finite.eq_iff {first second : Finite} :
    first = second ↔ first.units = second.units ∧
      ¬(first.units = 0 ∧ second.units = 0 ∧ first.negative ≠ second.negative) := by
  constructor
  · rintro rfl
    exact ⟨rfl, fun opposite => opposite.2.2 rfl⟩
  · rintro ⟨unitsEq, notOpposite⟩
    obtain ⟨negative, magnitude⟩ := first
    obtain ⟨otherNegative, other⟩ := second
    simp only [Finite.units] at unitsEq notOpposite
    have signEq : negative = otherNegative := by
      cases negative <;> cases otherNegative <;>
        simp only [Bool.false_eq_true, if_true, if_false, ne_eq, reduceCtorEq, not_false_eq_true,
          and_true] at unitsEq notOpposite ⊢ <;> omega
    have magnitudeEq : magnitude = other := by
      apply Magnitude.eq_of_units
      subst signEq
      split at unitsEq <;> omega
    rw [signEq, magnitudeEq]

theorem units_of_nearest? {numerator denominator : Nat} {magnitude : Magnitude}
    (nearestEq : nearest? numerator denominator = some magnitude) :
    magnitude.units = roundedUnits numerator denominator := by
  unfold nearest? at nearestEq
  split at nearestEq
  · exact congrArg Magnitude.units (Option.some.inj nearestEq).symm
  · nomatch nearestEq

theorem exists_nearest?_of_lt {numerator denominator : Nat}
    (finite : roundedUnits numerator denominator < unitsLimit) :
    ∃ magnitude, nearest? numerator denominator = some magnitude := by
  unfold nearest?
  rw [dif_pos finite]
  exact ⟨_, rfl⟩

/-- A quotient is rounded to a finite double by rounding its magnitude. -/
theorem ofRatio_eq_finite_iff {negative : Bool} {numerator denominator : Nat} {value : Finite} :
    ofRatio negative numerator denominator = .finite value ↔
      value.negative = negative ∧ nearest? numerator denominator = some value.magnitude := by
  unfold ofRatio
  cases nearest? numerator denominator with
  | none => simp
  | some magnitude =>
      obtain ⟨sign, other⟩ := value
      simp only [finite.injEq, Finite.mk.injEq, Option.some.injEq, @eq_comm _ sign]

theorem roundedUnits_lt_unitsLimit {n : Nat} (small : n < 2 ^ 53) :
    roundedUnits n 1 < unitsLimit := by
  have withinLimit : 2 ^ 53 * unitsPerOne ≤ unitsLimit := by
    rw [two_pow_mul_unitsPerOne, unitsLimit_eq]
    exact Nat.pow_le_pow_right (by decide) (by decide)
  rw [roundedUnits_of_lt small]
  exact Nat.lt_of_lt_of_le (Nat.mul_lt_mul_of_pos_right small unitsPerOne_pos) withinLimit

/-- Integers below `2 ^ 53` in magnitude are doubles of the same value. -/
theorem ofInt_of_natAbs_lt {n : Int} (small : n.natAbs < 2 ^ 53) :
    ∃ value : Finite, ofInt n = .finite value ∧ value.negative = decide (n < 0) ∧
      value.units = n * unitsPerOne := by
  obtain ⟨magnitude, nearestEq⟩ := exists_nearest?_of_lt (roundedUnits_lt_unitsLimit small)
  have unitsEq := units_of_nearest? nearestEq
  rw [roundedUnits_of_lt small] at unitsEq
  refine ⟨⟨decide (n < 0), magnitude⟩, ofRatio_eq_finite_iff.mpr ⟨rfl, nearestEq⟩, rfl, ?_⟩
  simp only [Finite.units, unitsEq]
  generalize unitsPerOne = unit
  by_cases isNegative : n < 0
  · have absEq : (n.natAbs : Int) = -n := by omega
    simp only [isNegative, decide_true, if_true]
    rw [Int.natCast_mul, absEq, Int.neg_mul, Int.neg_neg]
  · have absEq : (n.natAbs : Int) = n := by omega
    simp only [isNegative, decide_false, Bool.false_eq_true, if_false]
    rw [Int.natCast_mul, absEq]

/-- An integer that does not fit 32 bits has another value, also as a double, than all that do. -/
theorem units_ofInt_ne {outside inside : Int} {value : Finite}
    (ofIntEq : ofInt outside = .finite value)
    (beyond : ¬(-2147483648 ≤ outside ∧ outside < 2147483648))
    (fits : -2147483648 ≤ inside ∧ inside < 2147483648) :
    value.units ≠ inside * unitsPerOne := by
  obtain ⟨signEq, nearestEq⟩ := ofRatio_eq_finite_iff.mp ofIntEq
  have unitsEq := units_of_nearest? nearestEq
  have unitPos := unitsPerOne_pos
  simp only [Finite.units, signEq, unitsEq]
  by_cases isNegative : outside < 0
  · have bound : 2147483649 * unitsPerOne ≤ roundedUnits outside.natAbs 1 :=
      le_roundedUnits (by decide) (by omega)
    simp only [isNegative, decide_true, if_true]
    generalize roundedUnits outside.natAbs 1 = rounded at bound ⊢
    generalize unitsPerOne = unit at bound unitPos ⊢
    have below : -2147483649 * (unit : Int) < inside * unit :=
      Int.mul_lt_mul_of_pos_right (by omega) (by omega)
    rw [Int.neg_mul] at below
    omega
  · have bound : 2147483648 * unitsPerOne ≤ roundedUnits outside.natAbs 1 :=
      le_roundedUnits (by decide) (by omega)
    simp only [isNegative, decide_false, Bool.false_eq_true, if_false]
    generalize roundedUnits outside.natAbs 1 = rounded at bound ⊢
    generalize unitsPerOne = unit at bound unitPos ⊢
    have above : inside * unit < 2147483648 * (unit : Int) :=
      Int.mul_lt_mul_of_pos_right (by omega) (by omega)
    omega

end Binary64
end SchemaClasses
