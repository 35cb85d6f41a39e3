import Mathlib.Algebra.Order.Field.Basic
import Mathlib.Algebra.Order.Ring.Rat
import Mathlib.Tactic.NormNum
import SchemaClasses.Proofs.Member.Comparison
import SchemaClasses.Proofs.Member.Mapping

/-!
# Values that initialize members

Which values initialize a member of a type, and as which literals, in terms of the rational numbers
that JSON numbers stand for.  A literal has the value that it is made of, however that is spelled,
and there is one for every value of the type which fits.
-/

namespace SchemaClasses

namespace Binary64

/-- The rational number that a finite double stands for; both zeros stand for the same. -/
def Finite.toRat (value : Finite) : ℚ :=
  value.units / unitsPerOne

theorem Finite.natAbs_units (value : Finite) : value.units.natAbs = value.magnitude.units := by
  unfold Finite.units
  split <;> omega

theorem Finite.toRat_eq_intCast_iff {value : Finite} {whole : Int} :
    value.toRat = whole ↔ value.units = whole * unitsPerOne := by
  have unitNe : (unitsPerOne : ℚ) ≠ 0 := Nat.cast_ne_zero.mpr unitsPerOne_pos.ne'
  rw [Finite.toRat, div_eq_iff unitNe]
  generalize unitsPerOne = unit
  norm_cast

theorem Finite.abs_toRat (value : Finite) :
    |value.toRat| = (value.magnitude.units : ℚ) / unitsPerOne := by
  rw [Finite.toRat, abs_div, ← value.natAbs_units, Nat.abs_cast, Nat.cast_natAbs, Int.cast_abs]

end Binary64

/-- The rational number that a JSON number stands for. -/
def Json.Number.toRat : Json.Number → ℚ
  | .integer value _ => value
  | .float value => value.toRat

namespace Literal

open Binary64

/-- The integers of 32 bits. -/
def IsInt32 (whole : Int) : Prop :=
  -2 ^ 31 ≤ whole ∧ whole ≤ 2 ^ 31 - 1

/-- A double that does not exceed the greatest finite number of single precision. -/
def FitsSingle (value : Finite) : Prop :=
  |value.toRat| ≤ (2 ^ 24 - 1) * 2 ^ 104

/-- The values of a scalar kind, and the literals for them. -/
inductive HasKind : ScalarKind → Json.Value → Literal → Prop
  | string (text : String) : HasKind .string (.string text) (.string text)
  | boolean (flag : Bool) : HasKind .boolean (.boolean flag) (.boolean flag)
  /-- An integer may be spelled as a float. -/
  | integer {written : Json.Number} {whole : Int} (valueEq : written.toRat = whole)
      (fits : IsInt32 whole) : HasKind .integer (.number written) (.integer whole)
  | number {written : Json.Number} {value : Finite} (nearest : written.toBinary64 = .finite value)
      (fits : FitsSingle value) : HasKind .number (.number written) (.number (.finite value))
  | anyString (text : String) : HasKind .any (.string text) (.string text)
  | anyBoolean (flag : Bool) : HasKind .any (.boolean flag) (.boolean flag)
  | anyInteger (whole : Int) (inRange : Json.Number.InRange whole) (fits : IsInt32 whole) :
      HasKind .any (.number (.integer whole inRange)) (.integer whole)
  /-- Any other number without a type of its own is a double. -/
  | anyNumber {written : Json.Number} {literal : Literal}
      (other : ∀ whole inRange, written = .integer whole inRange → ¬IsInt32 whole)
      (asNumber : HasKind .number (.number written) literal) :
      HasKind .any (.number written) literal

/-- The values that initialize a member of a type, and the literals that they do so with. -/
def Initializes : Target → Json.Value → Literal → Prop
  | .scalar kind, value, literal => HasKind kind value literal
  | .array { target, .. }, value, literal => ∃ values literals, value = .array values ∧
      literal = .sequence literals ∧ List.Forall₂ (Initializes target) values literals
  | .dictionary _, _, _ => False
  | .object _, _, _ => False

variable {target : Target} {kind : ScalarKind} {written : Json.Number} {value : Json.Value}
  {literal : Literal} {whole result : Int} {double : Binary64}

theorem fitInt32?_eq_some_iff_isInt32 :
    fitInt32? whole = some result ↔ whole = result ∧ IsInt32 whole := by
  rw [fitInt32?_eq_some_iff, IsInt32]
  omega

/-- Division without a rest, up to a bound of the quotient. -/
theorem div_eq_iff_of_exact {magnitude unit bound : Nat} (unitPos : 0 < unit) :
    ((magnitude % unit = 0 ∧ magnitude ≤ bound * unit) ∧ ((magnitude / unit : Nat) : Int) = whole) ↔
      (magnitude : Int) = whole * unit ∧ whole.natAbs ≤ bound := by
  constructor
  · rintro ⟨⟨divides, bounded⟩, rfl⟩
    have exact : magnitude / unit * unit = magnitude :=
      Nat.div_mul_cancel (Nat.dvd_of_mod_eq_zero divides)
    refine ⟨by exact_mod_cast exact.symm, ?_⟩
    rw [Int.natAbs_natCast]
    exact Nat.div_le_of_le_mul (Nat.mul_comm bound unit ▸ bounded)
  · rintro ⟨magnitudeEq, bounded⟩
    have notNegative : 0 ≤ whole := by
      by_contra isNegative
      have product : whole * unit < 0 := Int.mul_neg_of_neg_of_pos (by omega) (by omega)
      omega
    obtain ⟨quotient, rfl⟩ := Int.eq_ofNat_of_zero_le notNegative
    obtain rfl : magnitude = quotient * unit := by exact_mod_cast magnitudeEq
    rw [Int.natAbs_natCast] at bounded
    refine ⟨⟨Nat.mul_mod_left _ _, Nat.mul_le_mul_right unit bounded⟩, ?_⟩
    rw [Nat.mul_div_cancel _ unitPos]

/-- A double is taken for an integer if it is one and at most `2 ^ 31` in magnitude. -/
theorem wholeValue?_eq_some_iff {value : Finite} :
    wholeValue? (.finite value) = some whole ↔
      value.toRat = whole ∧ whole.natAbs ≤ 2147483648 := by
  have unitPos := unitsPerOne_pos
  rw [Finite.toRat_eq_intCast_iff]
  simp only [wholeValue?, Finite.units, Option.ite_none_right_eq_some, Option.some.injEq]
  cases value.negative with
  | false => exact div_eq_iff_of_exact unitPos
  | true =>
      have opposite_iff : ∀ {first second : Int}, -first = second ↔ first = -second := by omega
      simp only [if_true, opposite_iff, ← Int.neg_mul, ← Int.natAbs_neg whole]
      exact div_eq_iff_of_exact unitPos

/-- A number initializes an integer if it is one of 32 bits, whatever its spelling. -/
theorem integerOf?_eq_some_iff :
    integerOf? written = some whole ↔ written.toRat = whole ∧ IsInt32 whole := by
  cases written with
  | float value =>
      simp only [integerOf?, Json.Number.toInt64?, Json.Number.toBinary64,
        Option.bind_eq_some_iff, wholeValue?_eq_some_iff, fitInt32?_eq_some_iff_isInt32]
      constructor
      · rintro ⟨_, ⟨valueEq, -⟩, rfl, fits⟩
        exact ⟨valueEq, fits⟩
      · rintro ⟨valueEq, fits⟩
        refine ⟨whole, ⟨valueEq, ?_⟩, rfl, fits⟩
        unfold IsInt32 at fits
        omega
  | integer value inRange =>
      have valueEq_iff : (Json.Number.integer value inRange).toRat = whole ↔ value = whole :=
        Int.cast_inj
      rw [valueEq_iff]
      constructor
      · intro read
        obtain ⟨rfl, small⟩ := eq_of_integerOf?_integer read
        simp only [integerOf?, Json.Number.toInt64?, small, if_true] at read
        exact ⟨rfl, (fitInt32?_eq_some_iff_isInt32.mp read).2⟩
      · rintro ⟨rfl, fits⟩
        have small : value < 9223372036854775808 := by
          unfold IsInt32 at fits
          omega
        simp only [integerOf?, Json.Number.toInt64?, small, if_true]
        exact fitInt32?_eq_some_iff_isInt32.mpr ⟨rfl, fits⟩

theorem fitsSingle_iff {value : Finite} :
    FitsSingle value ↔ value.magnitude.units ≤ greatestSingle := by
  have unitPos : (0 : ℚ) < unitsPerOne := Nat.cast_pos.mpr unitsPerOne_pos
  rw [FitsSingle, Finite.abs_toRat, div_le_iff₀ unitPos, greatestSingle]
  generalize unitsPerOne = unit
  norm_num
  norm_cast

theorem numberOf?_eq_some_iff :
    numberOf? written = some double ↔
      ∃ value, written.toBinary64 = .finite value ∧ FitsSingle value ∧ double = .finite value := by
  unfold numberOf?
  cases written.toBinary64 with
  | finite value =>
      simp only [Option.ite_none_right_eq_some, ← fitsSingle_iff, Option.some.injEq,
        @eq_comm _ _ double]
      constructor
      · rintro ⟨fits, rfl⟩
        exact ⟨value, rfl, fits, rfl⟩
      · rintro ⟨_, same, fits, rfl⟩
        obtain rfl := Binary64.finite.inj same
        exact ⟨fits, rfl⟩
  | infinite negative => simp
  | nan => simp

theorem spelledInt32_eq_some_iff :
    written.toInt64?.bind fitInt32? = some whole ↔
      ∃ inRange, written = .integer whole inRange ∧ IsInt32 whole := by
  simp only [Option.bind_eq_some_iff, fitInt32?_eq_some_iff_isInt32]
  constructor
  · rintro ⟨_, spelled, rfl, fits⟩
    cases written with
    | float value => cases spelled
    | integer other inRange =>
        simp only [Json.Number.toInt64?, Option.ite_none_right_eq_some, Option.some.injEq]
          at spelled
        obtain ⟨-, rfl⟩ := spelled
        exact ⟨inRange, rfl, fits⟩
  · rintro ⟨inRange, rfl, fits⟩
    have small : whole < 9223372036854775808 := by
      unfold IsInt32 at fits
      omega
    exact ⟨whole, by simp only [Json.Number.toInt64?, small, if_true], rfl, fits⟩

theorem hasKind_number_iff :
    HasKind .number (.number written) literal ↔ (numberOf? written).map number = some literal := by
  simp only [Option.map_eq_some_iff, numberOf?_eq_some_iff]
  constructor
  · intro hasKind
    cases hasKind with
    | number nearest fits => exact ⟨_, ⟨_, nearest, fits, rfl⟩, rfl⟩
  · rintro ⟨_, ⟨value, nearest, fits, rfl⟩, rfl⟩
    exact .number nearest fits

/-- A number without a type of its own is an integer if it is spelled as one of 32 bits, and
otherwise a double. -/
theorem ofUntyped?_number_eq_some_iff :
    ofUntyped? (.number written) = some literal ↔ HasKind .any (.number written) literal := by
  rw [ofUntyped?]
  cases spelled : written.toInt64?.bind fitInt32? with
  | some whole =>
      obtain ⟨inRange, rfl, fits⟩ := spelledInt32_eq_some_iff.mp spelled
      constructor
      · intro made
        obtain rfl := Option.some.inj made
        exact .anyInteger whole inRange fits
      · intro hasKind
        cases hasKind with
        | anyInteger => rfl
        | anyNumber other => exact absurd fits (other whole inRange rfl)
  | none =>
      have other : ∀ whole inRange, written = .integer whole inRange → ¬IsInt32 whole := by
        intro whole inRange writtenEq fits
        have isSpelled := spelledInt32_eq_some_iff.mpr ⟨inRange, writtenEq, fits⟩
        rw [spelled] at isSpelled
        cases isSpelled
      rw [← hasKind_number_iff]
      constructor
      · exact .anyNumber other
      · intro hasKind
        cases hasKind with
        | anyInteger whole inRange fits => exact absurd fits (other whole inRange rfl)
        | anyNumber _ asNumber => exact asNumber

theorem asString?_eq_some_iff {text : String} :
    value.asString? = some text ↔ value = .string text := by
  cases value <;> simp [Json.Value.asString?]

theorem asBoolean?_eq_some_iff {flag : Bool} :
    value.asBoolean? = some flag ↔ value = .boolean flag := by
  cases value <;> simp [Json.Value.asBoolean?]

theorem asNumber?_eq_some_iff : value.asNumber? = some written ↔ value = .number written := by
  cases value <;> simp [Json.Value.asNumber?]

theorem ofUntyped?_eq_some_iff : ofUntyped? value = some literal ↔ HasKind .any value literal := by
  cases value with
  | number written => exact ofUntyped?_number_eq_some_iff
  | string text =>
      constructor
      · intro made
        obtain rfl := Option.some.inj made
        exact .anyString text
      · intro hasKind
        cases hasKind
        rfl
  | boolean flag =>
      constructor
      · intro made
        obtain rfl := Option.some.inj made
        exact .anyBoolean flag
      · intro hasKind
        cases hasKind
        rfl
  | null | array | object =>
      constructor
      · intro made
        cases made
      · intro hasKind
        cases hasKind

theorem ofValue?_scalar_eq_some_iff :
    ofValue? (.scalar kind) value = some literal ↔ HasKind kind value literal := by
  cases kind with
  | string =>
      simp only [ofValue?, Option.map_eq_some_iff, asString?_eq_some_iff]
      constructor
      · rintro ⟨text, rfl, rfl⟩
        exact .string text
      · intro hasKind
        cases hasKind with
        | string text => exact ⟨text, rfl, rfl⟩
  | boolean =>
      simp only [ofValue?, Option.map_eq_some_iff, asBoolean?_eq_some_iff]
      constructor
      · rintro ⟨flag, rfl, rfl⟩
        exact .boolean flag
      · intro hasKind
        cases hasKind with
        | boolean flag => exact ⟨flag, rfl, rfl⟩
  | integer =>
      simp only [ofValue?, Option.map_eq_some_iff, Option.bind_eq_some_iff, asNumber?_eq_some_iff,
        integerOf?_eq_some_iff]
      constructor
      · rintro ⟨whole, ⟨written, rfl, valueEq, fits⟩, rfl⟩
        exact .integer valueEq fits
      · intro hasKind
        cases hasKind with
        | integer valueEq fits => exact ⟨_, ⟨_, rfl, valueEq, fits⟩, rfl⟩
  | number =>
      simp only [ofValue?, Option.map_eq_some_iff, Option.bind_eq_some_iff, asNumber?_eq_some_iff,
        numberOf?_eq_some_iff]
      constructor
      · rintro ⟨_, ⟨written, rfl, value, nearest, fits, rfl⟩, rfl⟩
        exact .number nearest fits
      · intro hasKind
        cases hasKind with
        | number nearest fits => exact ⟨_, ⟨_, rfl, _, nearest, fits, rfl⟩, rfl⟩
  | any => exact ofUntyped?_eq_some_iff

/-- The literals of values are exactly those that initialize members of the type. -/
theorem ofValue?_eq_some_iff :
    ofValue? target value = some literal ↔ Initializes target value literal := by
  induction target generalizing value literal with
  | scalar kind => exact ofValue?_scalar_eq_some_iff
  | array element ih =>
      cases element
      rw [ofValue?_array_eq_some_iff, Initializes]
      simp only [ih]
  | dictionary element => simp [ofValue?, Initializes]
  | object className => simp [ofValue?, Initializes]

end Literal
end SchemaClasses
