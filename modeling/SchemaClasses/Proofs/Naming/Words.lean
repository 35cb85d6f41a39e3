import SchemaClasses.Naming.Words
import SchemaClasses.Proofs.Text.Fields

/-!
# Words tile their text

The words of a text hold its word characters in their order, and nothing else: none is lost at a
boundary, wherever that is found, and none is read twice.
-/

namespace SchemaClasses
namespace Naming

open Text

variable {text piece : List Char}

/-- What has been read since the last boundary goes to the first word, and every word begins where
the one before it ends. -/
theorem flatten_humpsAfter (mode : CaseMode) (started : List Char) (notEmpty : piece ≠ []) :
    (humpsAfter mode started piece).flatten = started.reverse ++ piece := by
  fun_induction humpsAfter mode started piece with
  | case1 => exact absurd rfl notEmpty
  | case2 mode started last => simp
  | case3 mode started first next rest turns ih => simp [ih]
  | case4 mode started first next rest stays turns ih => simp [ih]
  | case5 mode started first next rest stays goesOn ih => simp [ih]

theorem flatten_humps (notEmpty : piece ≠ []) : (humps piece).flatten = piece := by
  rw [humps, flatten_humpsAfter .fresh [] notEmpty, List.reverse_nil, List.nil_append]

theorem flatten_words (text : List Char) : (words text).flatten = text.filter isWordCharacter := by
  have tiled : ∀ piece ∈ pieces text, (humps piece).flatten = piece := fun piece member =>
    flatten_humps (unseparated_of_mem_fields member).1
  calc
    (words text).flatten = ((pieces text).map fun piece => (humps piece).flatten).flatten := by
      rw [words, List.flatMap_def, List.flatten_flatten, List.map_map]
      rfl
    _ = (pieces text).flatten := by
      rw [List.map_congr_left tiled, List.map_id']
    _ = text.filter isWordCharacter := by
      rw [pieces, flatten_fields]
      simp only [Bool.not_not]

end Naming
end SchemaClasses
