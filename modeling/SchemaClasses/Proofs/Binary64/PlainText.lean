import Mathlib.Data.List.TakeWhile
import SchemaClasses.Proofs.Binary64.PlainCharacters
import SchemaClasses.Proofs.Binary64.ReadingBack

/-!
# Plain texts of doubles

A plain text spells a decimal by position, with a point among its digits where the decimal is not
whole.  Whoever reads it gets the value of the decimal back and thereby the double, so that no two
finite doubles have the same text.
-/

namespace SchemaClasses
namespace Binary64

/-- The decimal that digits spell, with or without a point among them. -/
def spelledDecimal (text : List Char) : Decimal :=
  let whole := text.takeWhile (· != '.')
  let fraction := (text.dropWhile (· != '.')).drop 1
  ⟨Nat.ofDigitChars 10 (whole ++ fraction) 0, -fraction.length⟩

section Spelling

variable {digits whole fraction text : List Char}

theorem spelledDecimal_of_not_mem (noPoint : '.' ∉ text) :
    spelledDecimal text = ⟨Nat.ofDigitChars 10 text 0, 0⟩ := by
  have passes : ∀ c ∈ text, (c != '.') = true := fun c member =>
    bne_iff_ne.mpr fun isPoint => noPoint (isPoint ▸ member)
  have takenEq : text.takeWhile (· != '.') = text := List.takeWhile_eq_self_iff.mpr passes
  have droppedEq : text.dropWhile (· != '.') = [] := List.dropWhile_eq_nil_iff.mpr passes
  simp [spelledDecimal, takenEq, droppedEq]

theorem spelledDecimal_append_point (noPoint : '.' ∉ whole) :
    spelledDecimal (whole ++ '.' :: fraction) =
      ⟨Nat.ofDigitChars 10 (whole ++ fraction) 0, -fraction.length⟩ := by
  have passes : ∀ c ∈ whole, (c != '.') = true := fun c member =>
    bne_iff_ne.mpr fun isPoint => noPoint (isPoint ▸ member)
  have takenEq : (whole ++ '.' :: fraction).takeWhile (· != '.') = whole := by
    rw [List.takeWhile_append_of_pos passes]
    simp
  have droppedEq : (whole ++ '.' :: fraction).dropWhile (· != '.') = '.' :: fraction := by
    rw [List.dropWhile_append_of_pos passes]
    simp
  simp [spelledDecimal, takenEq, droppedEq]

theorem point_not_mem_of_digits (allDigits : ∀ c ∈ digits, c.isDigit = true) : '.' ∉ digits :=
  fun member => nomatch allDigits '.' member

theorem ofDigitChars_zeros_append (count : Nat) (digits : List Char) :
    Nat.ofDigitChars 10 (zeros count ++ digits) 0 = Nat.ofDigitChars 10 digits 0 := by
  rw [Nat.ofDigitChars_append, zeros, Nat.ofDigitChars_replicate_zero, Nat.mul_zero]

/-- Digits by position are read as the decimal that they stand for. -/
theorem toRat_spelledDecimal_positionalText (allDigits : ∀ c ∈ digits, c.isDigit = true)
    (exponent : Int) :
    (spelledDecimal (positionalText false digits exponent)).toRat =
      (⟨Nat.ofDigitChars 10 digits 0, exponent⟩ : Decimal).toRat := by
  have noPoint := point_not_mem_of_digits allDigits
  unfold positionalText
  split
  case isTrue notNegative =>
    obtain ⟨places, rfl⟩ := Int.eq_ofNat_of_zero_le notNegative
    have noPointBehind : '.' ∉ digits ++ zeros places := by
      rw [List.mem_append, not_or]
      exact ⟨noPoint, fun member => nomatch List.eq_of_mem_replicate member⟩
    have digitsEq : Nat.ofDigitChars 10 (digits ++ zeros places) 0 =
        10 ^ places * Nat.ofDigitChars 10 digits 0 := by
      rw [Nat.ofDigitChars_append, zeros, Nat.ofDigitChars_replicate_zero]
    rw [Int.natAbs_natCast, if_neg Bool.false_ne_true, List.append_nil,
      spelledDecimal_of_not_mem noPointBehind, digitsEq]
    simp only [Decimal.toRat, zpow_natCast, zpow_zero, mul_one]
    push_cast
    ring
  case isFalse isNegative =>
    obtain ⟨places, rfl⟩ : ∃ places : Nat, exponent = -places := ⟨exponent.natAbs, by omega⟩
    rw [Int.natAbs_neg, Int.natAbs_natCast]
    split
    case isTrue inside =>
      have noPointTaken : '.' ∉ digits.take (digits.length - places) :=
        fun member => noPoint (List.mem_of_mem_take member)
      have lengthEq : (digits.drop (digits.length - places)).length = places := by
        rw [List.length_drop]
        omega
      rw [spelledDecimal_append_point noPointTaken, List.take_append_drop, lengthEq]
    case isFalse before =>
      have lengthEq : (zeros (places - digits.length) ++ digits).length = places := by
        rw [List.length_append, zeros, List.length_replicate]
        omega
      have zeroThenPoint : '0' :: '.' :: zeros (places - digits.length) ++ digits =
          zeros 1 ++ '.' :: (zeros (places - digits.length) ++ digits) := rfl
      rw [zeroThenPoint, spelledDecimal_append_point (by decide), lengthEq,
        ofDigitChars_zeros_append, ofDigitChars_zeros_append]

end Spelling

theorem readsBack_plainDecimal (magnitude : Magnitude) :
    readsBack (plainDecimal magnitude) magnitude = true := by
  unfold plainDecimal
  split
  case isTrue isZero =>
    apply readsBack_of_toRat_eq_div
    rw [isZero, Decimal.toRat, Nat.cast_zero, zero_mul, zero_div]
  case isFalse => exact readsBack_shortest .up magnitude

theorem toRat_spelledDecimal_magnitudeText (magnitude : Magnitude) :
    (spelledDecimal (magnitudeText magnitude)).toRat = (plainDecimal magnitude).toRat := by
  rw [magnitudeText, toRat_spelledDecimal_positionalText (forall_isDigit_toDigits _),
    Nat.ofDigitChars_ten_toDigits]

/-- The magnitude is the one nearest to the decimal that its text spells. -/
theorem readsBack_spelledDecimal (magnitude : Magnitude) :
    readsBack (spelledDecimal (magnitudeText magnitude)) magnitude = true := by
  rw [readsBack_eq_of_toRat_eq (toRat_spelledDecimal_magnitudeText magnitude)]
  exact readsBack_plainDecimal magnitude

/-- Whether a minus stands before a text, and what stands behind that. -/
def readSign : List Char → Bool × List Char
  | '-' :: rest => (true, rest)
  | rest => (false, rest)

theorem readSign_of_not_mem {text : List Char} (noMinus : '-' ∉ text) :
    readSign text = (false, text) := by
  unfold readSign
  split
  · exact absurd List.mem_cons_self noMinus
  · rfl

/-- The double with the sign of a text that is nearest to the decimal which the text spells. -/
def readFinite? (text : List Char) : Option Finite :=
  let decimal := spelledDecimal (readSign text).2
  (nearest? decimal.ratio.1 decimal.ratio.2).map (⟨(readSign text).1, ·⟩)

theorem readSign_finiteText (value : Finite) :
    readSign (plainLayout.finiteText value) = (value.negative, magnitudeText value.magnitude) := by
  rw [finiteText_plainLayout]
  cases value.negative with
  | true => rfl
  | false => exact readSign_of_not_mem (minus_not_mem_magnitudeText value.magnitude)

/-- A finite double is read back from its plain text, also where it is a zero. -/
theorem readFinite?_finiteText (value : Finite) :
    readFinite? (plainLayout.finiteText value) = some value := by
  have nearestEq := readsBack_spelledDecimal value.magnitude
  rw [readsBack, decide_eq_true_eq] at nearestEq
  rw [readFinite?, readSign_finiteText]
  simp only [nearestEq, Option.map_some]

end Binary64
end SchemaClasses
