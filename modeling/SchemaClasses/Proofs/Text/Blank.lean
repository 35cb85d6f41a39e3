import SchemaClasses.Text.Blank

/-!
# Trimmed texts

Trimming removes blanks at the ends of a text and nothing else.
-/

namespace SchemaClasses
namespace Text

variable {c : Char} {text : List Char}

theorem trimEnd_cons (c : Char) (rest : List Char) :
    trimEnd (c :: rest) =
      if trimEnd rest = [] ∧ isBlank c = true then [] else c :: trimEnd rest := by
  rw [trimEnd]
  cases trimEnd rest <;> simp

theorem trimEnd_prefix_self (text : List Char) : trimEnd text <+: text := by
  induction text with
  | nil => exact List.prefix_refl []
  | cons d rest ih =>
      rw [trimEnd_cons]
      split
      · exact List.nil_prefix
      · exact (List.prefix_cons_inj d).mpr ih

theorem mem_of_mem_trim (member : c ∈ trim text) : c ∈ text :=
  (List.dropWhile_suffix _).subset ((trimEnd_prefix_self _).subset member)

theorem mem_trimEnd_iff (notBlank : isBlank c = false) : c ∈ trimEnd text ↔ c ∈ text := by
  induction text with
  | nil => rfl
  | cons d rest ih =>
      rw [trimEnd_cons]
      split
      · next removed =>
          have notSame : c ≠ d := by
            rintro rfl
            rw [notBlank] at removed
            nomatch removed.2
          rw [List.mem_cons, ← ih, removed.1]
          simp [notSame]
      · rw [List.mem_cons, List.mem_cons, ih]

theorem mem_dropWhile_iff (notBlank : isBlank c = false) :
    c ∈ text.dropWhile isBlank ↔ c ∈ text := by
  induction text with
  | nil => rfl
  | cons d rest ih =>
      rw [List.dropWhile_cons]
      split
      · next blank =>
          have notSame : c ≠ d := by
            rintro rfl
            rw [notBlank] at blank
            nomatch blank
          rw [ih, List.mem_cons]
          simp [notSame]
      · rfl

/-- Trimming keeps every character that is not blank. -/
theorem mem_trim_iff (notBlank : isBlank c = false) : c ∈ trim text ↔ c ∈ text := by
  rw [trim, mem_trimEnd_iff notBlank, mem_dropWhile_iff notBlank]

/-- A blank does not begin what is left of a trimmed text. -/
theorem isBlank_of_head?_trim (begins : (trim text).head? = some c) : isBlank c = false := by
  obtain ⟨behind, trimEq⟩ := trimEnd_prefix_self (text.dropWhile isBlank)
  have dropped : (text.dropWhile isBlank).head? = some c := by
    rw [← trimEq, List.head?_append, ← trim, begins, Option.some_or]
  have notBlank := List.head?_dropWhile_not isBlank text
  simpa [dropped] using notBlank

theorem trimmed?_eq_some_iff {title kept : String} :
    trimmed? title = some kept ↔ kept.toList = trim title.toList ∧ kept.toList ≠ [] := by
  unfold trimmed?
  split
  · next isNil => simp [isNil]
  · next notNil =>
      rw [Option.some.injEq]
      constructor
      · rintro rfl
        rw [String.toList_ofList]
        exact ⟨rfl, notNil⟩
      · rintro ⟨keptEq, -⟩
        rw [← keptEq, String.ofList_toList]

/-- What is left of a text has the characters of it that are not blank. -/
theorem exists_mem_trimmed?_iff {given : String} (notBlank : isBlank c = false) :
    (∃ kept, trimmed? given = some kept ∧ c ∈ kept.toList) ↔ c ∈ given.toList := by
  rw [← mem_trim_iff notBlank]
  constructor
  · rintro ⟨kept, trimmed, member⟩
    exact (trimmed?_eq_some_iff.mp trimmed).1 ▸ member
  · intro member
    refine ⟨String.ofList (trim given.toList), trimmed?_eq_some_iff.mpr ?_, by simpa using member⟩
    rw [String.toList_ofList]
    exact ⟨rfl, List.ne_nil_of_mem member⟩

end Text
end SchemaClasses
