import SchemaClasses.Text.Fields

/-!
# Fields of texts

Fields begin anew after every separator, have no separators in them, and keep all other characters.
-/

namespace SchemaClasses

namespace Text

/-- A separator ends the fields before it, and those after it start anew. -/
theorem fieldsAfter_append_separator {isSeparator : Char → Bool} {separator : Char}
    (separates : isSeparator separator = true) (field first second : List Char) :
    fieldsAfter isSeparator field (first ++ separator :: second) =
      fieldsAfter isSeparator field first ++ fields isSeparator second := by
  induction first generalizing field with
  | nil =>
      simp only [List.nil_append, fieldsAfter, separates, if_true, fields]
      cases field <;> simp
  | cons c first ih =>
      simp only [List.cons_append, fieldsAfter]
      by_cases cSeparates : isSeparator c = true
      · rw [if_pos cSeparates, if_pos cSeparates, ih]
        split <;> rfl
      · rw [if_neg cSeparates, if_neg cSeparates, ih]

theorem fields_append_separator {isSeparator : Char → Bool} {separator : Char}
    (separates : isSeparator separator = true) (first second : List Char) :
    fields isSeparator (first ++ separator :: second) =
      fields isSeparator first ++ fields isSeparator second :=
  fieldsAfter_append_separator separates [] first second

/-- Without separators all characters go to the field that has been started. -/
theorem fieldsAfter_of_unseparated {isSeparator : Char → Bool} {text : List Char}
    (unseparated : ∀ c ∈ text, isSeparator c = false) (field : List Char) :
    fieldsAfter isSeparator field text =
      if (field.reverse ++ text).isEmpty then [] else [field.reverse ++ text] := by
  induction text generalizing field with
  | nil => simp [fieldsAfter]
  | cons c text ih =>
      have cFalse : isSeparator c = false := unseparated c List.mem_cons_self
      have restFalse : ∀ d ∈ text, isSeparator d = false :=
        fun d member => unseparated d (List.mem_cons_of_mem _ member)
      rw [fieldsAfter, cFalse, if_neg (by decide), ih restFalse]
      simp

theorem fields_of_unseparated {isSeparator : Char → Bool} {text : List Char} (notNil : text ≠ [])
    (unseparated : ∀ c ∈ text, isSeparator c = false) :
    fields isSeparator text = [text] := by
  rw [fields, fieldsAfter_of_unseparated unseparated, List.reverse_nil, List.nil_append, if_neg]
  simpa using notNil

/-- A text without separators goes to the last field of the text that it stands at the end of. -/
theorem exists_fieldsAfter_append {isSeparator : Char → Bool} {ending : List Char}
    (notNil : ending ≠ []) (unseparated : ∀ c ∈ ending, isSeparator c = false)
    (field text : List Char) :
    ∃ front last, fieldsAfter isSeparator field (text ++ ending) = front ++ [last ++ ending] := by
  induction text generalizing field with
  | nil =>
      refine ⟨[], field.reverse, ?_⟩
      rw [List.nil_append, fieldsAfter_of_unseparated unseparated, if_neg (by simp [notNil]),
        List.nil_append]
  | cons c text ih =>
      obtain ⟨front, last, startedAnew⟩ := ih []
      rw [List.cons_append, fieldsAfter]
      split
      · split
        · exact ⟨front, last, startedAnew⟩
        · exact ⟨field.reverse :: front, last, by rw [startedAnew, List.cons_append]⟩
      · exact ih (c :: field)

theorem unseparated_of_mem_fieldsAfter {isSeparator : Char → Bool} {started text field : List Char}
    (unseparated : ∀ c ∈ started, isSeparator c = false)
    (member : field ∈ fieldsAfter isSeparator started text) :
    field ≠ [] ∧ ∀ c ∈ field, isSeparator c = false := by
  have ofStarted : ∀ {started : List Char}, (∀ c ∈ started, isSeparator c = false) →
      ¬started.isEmpty = true →
        started.reverse ≠ [] ∧ ∀ c ∈ started.reverse, isSeparator c = false := by
    intro started unseparated notEmpty
    refine ⟨by simpa using notEmpty, fun c inField => ?_⟩
    exact unseparated c (List.mem_reverse.mp inField)
  induction text generalizing started with
  | nil =>
      rw [fieldsAfter] at member
      split at member
      · nomatch member
      · next notEmpty =>
          obtain rfl := List.mem_singleton.mp member
          exact ofStarted unseparated notEmpty
  | cons d text ih =>
      have ofRest : field ∈ fieldsAfter isSeparator [] text → _ :=
        ih fun c inNone => nomatch inNone
      rw [fieldsAfter] at member
      split at member
      · split at member
        · exact ofRest member
        · next notEmpty =>
            rcases List.mem_cons.mp member with rfl | later
            · exact ofStarted unseparated notEmpty
            · exact ofRest later
      · next continues =>
          refine ih ?_ member
          intro c inStarted
          rcases List.mem_cons.mp inStarted with rfl | old
          · simpa using continues
          · exact unseparated c old

/-- Fields are not empty and have no separators in them. -/
theorem unseparated_of_mem_fields {isSeparator : Char → Bool} {text field : List Char}
    (member : field ∈ fields isSeparator text) :
    field ≠ [] ∧ ∀ c ∈ field, isSeparator c = false := by
  have noneStarted : ∀ c ∈ ([] : List Char), isSeparator c = false :=
    fun _ inNone => nomatch inNone
  exact unseparated_of_mem_fieldsAfter noneStarted member

/-- The fields hold all characters but the separators, in their order. -/
theorem flatten_fieldsAfter {isSeparator : Char → Bool} (started text : List Char) :
    (fieldsAfter isSeparator started text).flatten =
      started.reverse ++ text.filter fun c => !isSeparator c := by
  induction text generalizing started with
  | nil => cases started <;> simp [fieldsAfter]
  | cons c rest ih =>
      rw [fieldsAfter]
      by_cases separates : isSeparator c = true
      · cases started <;> simp [separates, ih]
      · simp [separates, ih]

theorem flatten_fields {isSeparator : Char → Bool} (text : List Char) :
    (fields isSeparator text).flatten = text.filter fun c => !isSeparator c := by
  rw [fields, flatten_fieldsAfter, List.reverse_nil, List.nil_append]

end Text
end SchemaClasses
