import SchemaClasses.Binary64.Layout

/-!
# Characters of plain texts

A plain text is the text of a magnitude, with a minus before it where the double is negative.  The
text of a magnitude has digits and at most a point among them.
-/

namespace SchemaClasses
namespace Binary64

variable {keepPoint : Bool} {digits : List Char} {exponent : Int} {c : Char} {magnitude : Magnitude}
  {value : Finite}

/-- A number by position has only its digits, zeros and a point. -/
theorem mem_positionalText (member : c ∈ positionalText keepPoint digits exponent) :
    c ∈ digits ∨ c = '0' ∨ c = '.' := by
  have inZeros : ∀ {count}, c ∈ zeros count → c = '0' := List.eq_of_mem_replicate
  unfold positionalText at member
  split at member
  · rcases List.mem_append.mp member with inDigits | inPoint
    · exact (List.mem_append.mp inDigits).imp_right fun isZero => Or.inl (inZeros isZero)
    · cases keepPoint with
      | false => nomatch inPoint
      | true =>
          rcases List.mem_cons.mp inPoint with isPoint | isZero
          · exact Or.inr (Or.inr isPoint)
          · exact Or.inr (Or.inl (List.mem_singleton.mp isZero))
  · split at member
    · rcases List.mem_append.mp member with inWhole | inFraction
      · exact Or.inl (List.mem_of_mem_take inWhole)
      · rcases List.mem_cons.mp inFraction with isPoint | behindPoint
        · exact Or.inr (Or.inr isPoint)
        · exact Or.inl (List.mem_of_mem_drop behindPoint)
    · rcases List.mem_append.mp member with before | inDigits
      · rcases List.mem_cons.mp before with isZero | behindZero
        · exact Or.inr (Or.inl isZero)
        · rcases List.mem_cons.mp behindZero with isPoint | isZero
          · exact Or.inr (Or.inr isPoint)
          · exact Or.inr (Or.inl (inZeros isZero))
      · exact Or.inl inDigits

theorem positionalText_ne_nil (notEmpty : digits ≠ []) :
    positionalText keepPoint digits exponent ≠ [] := by
  unfold positionalText
  split
  · rw [List.append_assoc]
    exact List.append_ne_nil_of_left_ne_nil notEmpty _
  · split
    · exact List.append_ne_nil_of_right_ne_nil _ (List.cons_ne_nil _ _)
    · exact List.cons_ne_nil _ _

/-- The decimal that a magnitude is written with in generated code. -/
def plainDecimal (magnitude : Magnitude) : Decimal :=
  if magnitude.units = 0 then ⟨0, 0⟩ else shortest .up magnitude

/-- The text of a magnitude in generated code. -/
def magnitudeText (magnitude : Magnitude) : List Char :=
  positionalText false (Nat.toDigits 10 (plainDecimal magnitude).digits)
    (plainDecimal magnitude).exponent

theorem finiteText_plainLayout (value : Finite) :
    plainLayout.finiteText value =
      if value.negative then '-' :: magnitudeText value.magnitude
      else magnitudeText value.magnitude := by
  have textEq : (if value.magnitude.units = 0 then plainLayout.decimalText ⟨0, 0⟩
      else plainLayout.decimalText (shortest plainLayout.tie value.magnitude)) =
        magnitudeText value.magnitude := by
    unfold magnitudeText plainDecimal
    split <;> rfl
  rw [Layout.finiteText, textEq]

theorem forall_isDigit_toDigits (n : Nat) : ∀ c ∈ Nat.toDigits 10 n, c.isDigit = true :=
  fun _ member => Nat.isDigit_of_mem_toDigits (by decide) (by decide) member

theorem mem_magnitudeText (member : c ∈ magnitudeText magnitude) :
    c.isDigit = true ∨ c = '.' := by
  rcases mem_positionalText member with isDigit | rfl | isPoint
  · exact Or.inl (forall_isDigit_toDigits _ c isDigit)
  · exact Or.inl (by decide)
  · exact Or.inr isPoint

theorem minus_not_mem_magnitudeText (magnitude : Magnitude) : '-' ∉ magnitudeText magnitude := by
  intro member
  rcases mem_magnitudeText member with isDigit | isPoint
  · nomatch isDigit
  · nomatch isPoint

theorem finiteText_plainLayout_ne_nil (value : Finite) : plainLayout.finiteText value ≠ [] := by
  rw [finiteText_plainLayout]
  split
  · exact List.cons_ne_nil _ _
  · exact positionalText_ne_nil Nat.toDigits_ne_nil

/-- Plain texts have nothing but digits, points and signs. -/
theorem mem_finiteText_plainLayout (member : c ∈ plainLayout.finiteText value) :
    c.isDigit = true ∨ c = '.' ∨ c = '-' := by
  rw [finiteText_plainLayout] at member
  split at member
  · rcases List.mem_cons.mp member with isMinus | inMagnitude
    · exact Or.inr (Or.inr isMinus)
    · exact (mem_magnitudeText inMagnitude).imp_right Or.inl
  · exact (mem_magnitudeText member).imp_right Or.inl

end Binary64
end SchemaClasses
