import Mathlib.Tactic.SplitIfs
import SchemaClasses.Proofs.Entries
import SchemaClasses.Sink

/-!
# Bytes of texts

The bytes of a text are those of its characters one after another.  Of two characters the one with
the greater code point has the greater bytes, already before either of them ends, so that texts are
ordered in the same way by their characters and by their bytes.
-/

namespace SchemaClasses
namespace Sink

theorem bytes_eq_flatMap (text : String) :
    bytes text = text.toList.flatMap String.utf8EncodeChar := by
  change text.toByteArray.data.toList = _
  rw [← String.utf8Encode_toList, List.utf8Encode, List.data_toByteArray]

theorem bytes_append (first second : String) :
    bytes (first ++ second) = bytes first ++ bytes second := by
  rw [bytes_eq_flatMap, String.toList_append, List.flatMap_append, ← bytes_eq_flatMap,
    ← bytes_eq_flatMap]

/-- Numbers of which those of the first list become smaller before any of the two lists ends. -/
def Precedes : List Nat → List Nat → Prop
  | value :: values, other :: others => value < other ∨ value = other ∧ Precedes values others
  | _, _ => False

/-- Whatever bytes follow do not matter any more. -/
theorem Precedes.append_lt_append {first second : List UInt8}
    (precedes : Precedes (first.map UInt8.toNat) (second.map UInt8.toNat))
    (afterFirst afterSecond : List UInt8) :
    first ++ afterFirst < second ++ afterSecond := by
  induction first generalizing second with
  | nil => cases second <;> exact precedes.elim
  | cons byte bytes ih =>
      cases second with
      | nil => exact precedes.elim
      | cons other others =>
          rw [List.cons_append, List.cons_append, List.cons_lt_cons_iff]
          rcases precedes with less | ⟨same, later⟩
          · exact Or.inl (UInt8.lt_iff_toNat_lt.mpr less)
          · exact Or.inr ⟨UInt8.toNat_inj.mp same, ih later⟩

/-- The values of the bytes that write a code point. -/
def codeBytes (code : Nat) : List Nat :=
  if code ≤ 0x7f then [code]
  else if code ≤ 0x7ff then [code / 64 + 0xc0, code % 64 + 0x80]
  else if code ≤ 0xffff then [code / 4096 + 0xe0, code / 64 % 64 + 0x80, code % 64 + 0x80]
  else
    [code / 262144 + 0xf0, code / 4096 % 64 + 0x80, code / 64 % 64 + 0x80, code % 64 + 0x80]

theorem code_lt (c : Char) : c.val.toNat < 0x110000 := by
  rcases c.valid with small | ⟨-, large⟩
  · exact Nat.lt_trans small (by decide)
  · exact large

theorem map_toNat_utf8EncodeChar (c : Char) :
    (String.utf8EncodeChar c).map UInt8.toNat = codeBytes c.val.toNat := by
  have codeLt := code_lt c
  unfold String.utf8EncodeChar codeBytes
  simp only
  generalize c.val.toNat = code at codeLt
  split
  · simp only [List.map_cons, List.map_nil, UInt8.toNat_ofNat', List.cons.injEq, and_true]
    omega
  · split
    · simp only [List.map_cons, List.map_nil, UInt8.toNat_ofNat', List.cons.injEq, and_true]
      omega
    · split
      · simp only [List.map_cons, List.map_nil, UInt8.toNat_ofNat', List.cons.injEq, and_true]
        omega
      · simp only [List.map_cons, List.map_nil, UInt8.toNat_ofNat', List.cons.injEq, and_true]
        omega

theorem precedes_codeBytes {code other : Nat} (less : code < other) :
    Precedes (codeBytes code) (codeBytes other) := by
  unfold codeBytes
  split_ifs
  all_goals
    simp only [Precedes]
    omega

/-- The order of texts is the order of their bytes. -/
theorem bytes_lt_bytes {first second : String} (less : first < second) :
    bytes first < bytes second := by
  have listLess : first.toList < second.toList := less
  rw [bytes_eq_flatMap, bytes_eq_flatMap]
  generalize first.toList = firstList at listLess ⊢
  generalize second.toList = secondList at listLess ⊢
  induction firstList generalizing secondList with
  | nil =>
      cases secondList with
      | nil => exact absurd listLess (List.lt_irrefl _)
      | cons d ds =>
          have notNil : String.utf8EncodeChar d ≠ [] := String.utf8EncodeChar_ne_nil
          obtain ⟨byte, rest, encoded⟩ := List.exists_cons_of_ne_nil notNil
          rw [List.flatMap_nil, List.flatMap_cons, encoded]
          exact List.nil_lt_cons _ _
  | cons c cs ih =>
      cases secondList with
      | nil => exact absurd listLess (List.not_lt_nil _)
      | cons d ds =>
          rw [List.flatMap_cons, List.flatMap_cons]
          rcases List.cons_lt_cons_iff.mp listLess with charLess | ⟨rfl, later⟩
          · have codeLess : c.val.toNat < d.val.toNat := charLess
            have precedes := precedes_codeBytes codeLess
            rw [← map_toNat_utf8EncodeChar, ← map_toNat_utf8EncodeChar] at precedes
            exact precedes.append_lt_append _ _
          · exact List.append_left_lt (ih ds later)

theorem bytes_increase {α : Type} {entries : List (String × α)} (increase : KeysIncrease entries) :
    (entries.map fun entry => bytes entry.1).Pairwise (· < ·) := by
  rw [List.pairwise_map]
  exact increase.pairwise.imp bytes_lt_bytes

theorem empty_append (bytes : List UInt8) : (#[] : Array UInt8) ++ bytes = bytes.toArray :=
  Array.ext' (by rw [Array.toList_appendList, List.nil_append])

/-- A sink without a limit takes the bytes of all texts. -/
theorem writeAll_unlimited (texts : List String) (taken : Array UInt8) :
    writeAll ⟨none, taken⟩ texts = (.ok (), ⟨none, taken ++ bytes (String.join texts)⟩) := by
  induction texts generalizing taken with
  | nil => simp [writeAll, bytes_eq_flatMap]
  | cons text rest ih =>
      rw [writeAll, write]
      simp only
      have regrouped : taken ++ bytes text ++ bytes (String.join rest) =
          taken ++ (bytes text ++ bytes (String.join rest)) :=
        Array.ext' (by simp only [Array.toList_appendList, List.append_assoc])
      rw [ih, String.join_cons, bytes_append, regrouped]

end Sink
end SchemaClasses
