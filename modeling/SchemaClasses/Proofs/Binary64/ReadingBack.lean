import Mathlib.Algebra.Field.Rat
import Mathlib.Tactic.FieldSimp
import Mathlib.Tactic.Ring
import SchemaClasses.Binary64.Layout
import SchemaClasses.Proofs.Binary64.Integers

/-!
# Reading doubles back

Rounding a quotient depends on its value alone and leaves magnitudes as they are.  The decimal that
a double is written with is therefore rounded to that double again, also after zeros at its end have
been taken away.
-/

namespace SchemaClasses

/-- The rational number that a decimal stands for. -/
def Decimal.toRat (decimal : Decimal) : ℚ :=
  decimal.digits * 10 ^ decimal.exponent

namespace Binary64

section Rounding

variable {factor numerator denominator otherNumerator otherDenominator units : Nat}

theorem roundDiv_mul_left (factorPos : 0 < factor) (numerator denominator : Nat) :
    roundDiv (factor * numerator) (factor * denominator) = roundDiv numerator denominator := by
  have twiceEq : 2 * (factor * (numerator % denominator)) =
      factor * (2 * (numerator % denominator)) := Nat.mul_left_comm _ _ _
  simp only [roundDiv, Nat.mul_div_mul_left _ _ factorPos, Nat.mul_mod_mul_left, twiceEq,
    Nat.mul_lt_mul_left factorPos, Nat.mul_right_inj (Nat.ne_of_gt factorPos)]

theorem roundedUnits_mul_left (factorPos : 0 < factor) (numerator denominator : Nat) :
    roundedUnits (factor * numerator) (factor * denominator) =
      roundedUnits numerator denominator := by
  have scaledEq : unitsPerOne * (factor * numerator) = factor * (unitsPerOne * numerator) :=
    Nat.mul_left_comm _ _ _
  simp only [roundedUnits, scaledEq, Nat.mul_div_mul_left _ _ factorPos, Nat.shiftLeft_eq,
    Nat.mul_assoc factor, roundDiv_mul_left factorPos]

/-- What a quotient is rounded to depends on its value alone. -/
theorem roundedUnits_eq_of_div_eq (denominatorPos : 0 < denominator)
    (otherPos : 0 < otherDenominator)
    (same : (numerator : ℚ) / denominator = otherNumerator / otherDenominator) :
    roundedUnits numerator denominator = roundedUnits otherNumerator otherDenominator := by
  rw [div_eq_div_iff (Nat.cast_ne_zero.mpr denominatorPos.ne') (Nat.cast_ne_zero.mpr otherPos.ne')]
    at same
  have crossEq : numerator * otherDenominator = otherNumerator * denominator := by
    exact_mod_cast same
  calc
    roundedUnits numerator denominator =
        roundedUnits (otherDenominator * numerator) (otherDenominator * denominator) :=
      (roundedUnits_mul_left otherPos _ _).symm
    _ = roundedUnits (denominator * otherNumerator) (denominator * otherDenominator) := by
      rw [Nat.mul_comm otherDenominator numerator, crossEq, Nat.mul_comm otherNumerator,
        Nat.mul_comm otherDenominator]
    _ = roundedUnits otherNumerator otherDenominator := roundedUnits_mul_left denominatorPos _ _

/-- A magnitude has no more bits than a quotient is rounded to. -/
theorem exists_units_eq (representable : Representable units) :
    ∃ significand, units = significand * 2 ^ shiftFor units := by
  obtain ⟨-, significand, exponent, small, unitsEq⟩ := representable
  rw [Nat.shiftLeft_eq] at unitsEq
  have shiftLe : shiftFor units ≤ exponent := by
    by_cases isZero : units = 0
    · rw [isZero]
      exact Nat.zero_le _
    · have unitsLt : units < 2 ^ (53 + exponent) := by
        rw [unitsEq, Nat.pow_add]
        exact Nat.mul_lt_mul_of_pos_right small (Nat.two_pow_pos exponent)
      have logLt := (Nat.log2_lt isZero).mpr unitsLt
      simp only [shiftFor]
      omega
  refine ⟨significand * 2 ^ (exponent - shiftFor units), ?_⟩
  rw [Nat.mul_assoc, ← Nat.pow_add, Nat.sub_add_cancel shiftLe, unitsEq]

/-- Magnitudes are not rounded. -/
theorem roundedUnits_of_exact (denominatorPos : 0 < denominator)
    (representable : Representable units)
    (exact : unitsPerOne * numerator = units * denominator) :
    roundedUnits numerator denominator = units := by
  obtain ⟨significand, unitsEq⟩ := exists_units_eq representable
  simp only [roundedUnits, exact, Nat.mul_div_cancel _ denominatorPos, Nat.shiftLeft_eq]
  generalize shiftFor units = shift at unitsEq
  have scaledEq : units * denominator = significand * (denominator * 2 ^ shift) := by
    rw [unitsEq, Nat.mul_assoc, Nat.mul_comm (2 ^ shift)]
  rw [scaledEq, roundDiv_mul_self (Nat.mul_pos denominatorPos (Nat.two_pow_pos shift)), ← unitsEq]

theorem nearest?_eq_some_iff {magnitude : Magnitude} :
    nearest? numerator denominator = some magnitude ↔
      roundedUnits numerator denominator = magnitude.units := by
  constructor
  · exact fun nearestEq => (units_of_nearest? nearestEq).symm
  · intro unitsEq
    have finite : roundedUnits numerator denominator < unitsLimit :=
      unitsEq ▸ magnitude.representable.1
    unfold nearest?
    rw [dif_pos finite, Option.some.injEq]
    exact Magnitude.eq_of_units unitsEq

end Rounding

end Binary64

namespace Decimal

theorem ratio_pos (decimal : Decimal) : 0 < decimal.ratio.2 := by
  unfold ratio
  split
  · exact Nat.pow_pos (by decide)
  · exact Nat.one_pos

theorem ratio_eq_toRat (decimal : Decimal) :
    (decimal.ratio.1 : ℚ) / decimal.ratio.2 = decimal.toRat := by
  unfold ratio toRat
  split
  case isTrue isNegative =>
    have exponentEq : decimal.exponent = -(decimal.exponent.natAbs : Int) := by omega
    rw [exponentEq, zpow_neg, zpow_natCast, Int.natAbs_neg, Int.natAbs_natCast, div_eq_mul_inv,
      Nat.pow_eq]
    push_cast
    rfl
  case isFalse notNegative =>
    have exponentEq : decimal.exponent = (decimal.exponent.natAbs : Int) := by omega
    rw [exponentEq, zpow_natCast, Int.natAbs_natCast, Nat.cast_one, div_one,
      Nat.pow_eq]
    push_cast
    rfl

theorem toRat_strip (limit : Nat) (decimal : Decimal) :
    (strip limit decimal).toRat = decimal.toRat := by
  fun_induction strip limit decimal with
  | case1 decimal => rfl
  | case2 limit decimal endsInZero ih =>
      have digitsEq : decimal.digits = decimal.digits / 10 * 10 := by omega
      rw [ih, toRat, toRat, zpow_add_one₀ (by norm_num)]
      calc
        ((decimal.digits / 10 : Nat) : ℚ) * (10 ^ decimal.exponent * 10) =
            ((decimal.digits / 10 * 10 : Nat) : ℚ) * 10 ^ decimal.exponent := by
          push_cast
          ring
        _ = decimal.digits * 10 ^ decimal.exponent := by rw [← digitsEq]
  | case3 limit decimal done => rfl

theorem toRat_withoutZeros (decimal : Decimal) : decimal.withoutZeros.toRat = decimal.toRat :=
  toRat_strip _ _

end Decimal

namespace Binary64

variable {tie : Tie} {magnitude : Magnitude} {decimal other : Decimal}

/-- Whether a decimal is rounded to a magnitude depends on its value alone. -/
theorem readsBack_eq_of_toRat_eq (same : decimal.toRat = other.toRat) (magnitude : Magnitude) :
    readsBack decimal magnitude = readsBack other magnitude := by
  rw [← decimal.ratio_eq_toRat, ← other.ratio_eq_toRat] at same
  have unitsEq := roundedUnits_eq_of_div_eq decimal.ratio_pos other.ratio_pos same
  simp only [readsBack, nearest?_eq_some_iff, unitsEq]

/-- A decimal that is a magnitude is rounded to it. -/
theorem readsBack_of_toRat_eq_div
    (exact : decimal.toRat = (magnitude.units : ℚ) / unitsPerOne) :
    readsBack decimal magnitude = true := by
  rw [← decimal.ratio_eq_toRat] at exact
  rw [readsBack, decide_eq_true_eq, nearest?_eq_some_iff,
    roundedUnits_eq_of_div_eq decimal.ratio_pos unitsPerOne_pos exact]
  exact roundedUnits_of_exact unitsPerOne_pos magnitude.representable (Nat.mul_comm _ _)

theorem toRat_mul_pow_five {places : Nat} {exponent : Int} (unitEq : unitsPerOne = 2 ^ places)
    (exponentEq : exponent = -places) (units : Nat) :
    (⟨units * Nat.pow 5 places, exponent⟩ : Decimal).toRat = (units : ℚ) / unitsPerOne := by
  have tenEq : (10 : ℚ) ^ places = 5 ^ places * 2 ^ places := by
    rw [← mul_pow]
    norm_num
  rw [Decimal.toRat, exponentEq, zpow_neg, zpow_natCast, tenEq, Nat.pow_eq, unitEq]
  push_cast
  field_simp

theorem readsBack_exactDecimal (magnitude : Magnitude) :
    readsBack (exactDecimal magnitude) magnitude = true := by
  have unitEq := unitsPerOne_eq
  apply readsBack_of_toRat_eq_div
  unfold exactDecimal
  -- The exponent is a variable, so that no power of it is computed.
  generalize placesEq : 1074 = places at unitEq ⊢
  exact toRat_mul_pow_five unitEq (by omega) magnitude.units

/-- What is found around a magnitude is rounded to it. -/
theorem readsBack_of_neighbour? {exponent : Int}
    (found : neighbour? tie magnitude exponent = some decimal) :
    readsBack decimal magnitude = true := by
  unfold neighbour? at found
  generalize scaledRatio magnitude exponent = scaled at found
  obtain ⟨numerator, denominator⟩ := scaled
  simp only at found
  split at found
  case h_1 => nomatch found
  case h_2 lowReads _ => exact Option.some.inj found ▸ lowReads
  case h_3 _ highReads => exact Option.some.inj found ▸ highReads
  case h_4 lowReads highReads =>
    split at found
    · exact Option.some.inj found ▸ lowReads
    · split at found
      · exact Option.some.inj found ▸ highReads
      · split at found
        · exact Option.some.inj found ▸ lowReads
        · exact Option.some.inj found ▸ highReads

theorem readsBack_of_search {leading : Int} {count remaining : Nat}
    (found : search tie magnitude leading count remaining = some decimal) :
    readsBack decimal magnitude = true := by
  induction remaining generalizing count with
  | zero =>
      rw [search] at found
      nomatch found
  | succ remaining ih =>
      rw [search, Option.orElse_eq_or, Option.or_eq_some_iff] at found
      rcases found with nearby | ⟨-, later⟩
      · exact readsBack_of_neighbour? nearby
      · exact ih later

/-- The decimal that a magnitude is written with is rounded to it. -/
theorem readsBack_shortest (tie : Tie) (magnitude : Magnitude) :
    readsBack (shortest tie magnitude) magnitude = true := by
  unfold shortest
  rw [readsBack_eq_of_toRat_eq (Decimal.toRat_withoutZeros _)]
  cases found : search tie magnitude (leadingExponent magnitude) 1 17 with
  | none => exact readsBack_exactDecimal magnitude
  | some decimal => exact readsBack_of_search found

end Binary64
end SchemaClasses
