import SchemaClasses.CSharp.Source

/-!
# Reading string literals

A reader of C# goes through a string literal from its first quote on, takes a backslash together
with the letter behind it, and stops at the first quote that no backslash stands before.  It reads
every literal of the generated code back as the text that was written, whatever that text is and
whatever code follows the literal.
-/

namespace SchemaClasses
namespace CSharp

/-- What a backslash with this letter stands for, of the escapes that a reader needs to know. -/
def escapeValue? : Char → Option Char
  | '\\' => some '\\'
  | '"' => some '"'
  | 'n' => some '\n'
  | 'r' => some '\r'
  | 't' => some '\t'
  | _ => none

/-- The characters up to the first quote that is not escaped, and what stands behind that quote.
Every other escape is refused, and so is a line feed or a carriage return as such. -/
def readCharacters? : List Char → Option (List Char × List Char)
  | [] => none
  | '"' :: behind => some ([], behind)
  | ['\\'] => none
  | '\\' :: letter :: rest =>
      match escapeValue? letter, readCharacters? rest with
      | some value, some (text, behind) => some (value :: text, behind)
      | _, _ => none
  | c :: rest =>
      if c = '\n' ∨ c = '\r' then none
      else (readCharacters? rest).map fun (text, behind) => (c :: text, behind)

/-- The text of the string literal at the start, and what stands behind the literal. -/
def readLiteral? : List Char → Option (List Char × List Char)
  | '"' :: rest => readCharacters? rest
  | _ => none

/-- A character is read as itself after it has been escaped. -/
theorem readCharacters?_escapeCharacter (c : Char) (rest : List Char) :
    readCharacters? (escapeCharacter c ++ rest) =
      (readCharacters? rest).map fun (text, behind) => (c :: text, behind) := by
  unfold escapeCharacter
  split
  case h_6 notBackslash notQuote notFeed notReturn _ =>
    rw [List.singleton_append, readCharacters?, if_neg (not_or.mpr ⟨notFeed, notReturn⟩)]
    · exact notQuote
    · exact fun isBackslash => absurd isBackslash notBackslash
    · exact fun _ _ isBackslash => absurd isBackslash notBackslash
  all_goals
    simp only [List.cons_append, List.nil_append, readCharacters?, escapeValue?]
    cases readCharacters? rest <;> rfl

theorem readCharacters?_escape (text behind : List Char) :
    readCharacters? (escape text ++ '"' :: behind) = some (text, behind) := by
  unfold escape
  induction text with
  | nil => rfl
  | cons c rest ih =>
      rw [List.flatMap_cons, List.append_assoc, readCharacters?_escapeCharacter, ih,
        Option.map_some]

theorem toList_stringLiteral_append (text : String) (behind : List Char) :
    (stringLiteral text).toList ++ behind = '"' :: (escape text.toList ++ '"' :: behind) := by
  simp only [stringLiteral, String.toList_ofList, List.cons_append, List.append_assoc,
    List.nil_append]

/-- A literal is read as its text, up to where it ends and no further. -/
theorem readLiteral?_stringLiteral (text : String) (behind : List Char) :
    readLiteral? ((stringLiteral text).toList ++ behind) = some (text.toList, behind) := by
  rw [toList_stringLiteral_append, readLiteral?, readCharacters?_escape]

/-- Literals with anything behind them are equal only if their texts are. -/
theorem stringLiteral_append_inj {first second : String} {behind after : List Char}
    (same : (stringLiteral first).toList ++ behind = (stringLiteral second).toList ++ after) :
    first = second ∧ behind = after := by
  have read := readLiteral?_stringLiteral first behind
  rw [same, readLiteral?_stringLiteral, Option.some.injEq, Prod.mk.injEq] at read
  exact ⟨String.toList_inj.mp read.1.symm, read.2.symm⟩

theorem stringLiteral_injective {first second : String}
    (same : stringLiteral first = stringLiteral second) : first = second := by
  have charactersEq : (stringLiteral first).toList ++ [] = (stringLiteral second).toList ++ [] := by
    rw [same]
  exact (stringLiteral_append_inj charactersEq).1

theorem not_mem_escapeCharacter (c : Char) :
    '\n' ∉ escapeCharacter c ∧ '\r' ∉ escapeCharacter c := by
  unfold escapeCharacter
  split
  case h_6 notFeed notReturn _ =>
    exact ⟨fun member => notFeed (List.mem_singleton.mp member).symm,
      fun member => notReturn (List.mem_singleton.mp member).symm⟩
  all_goals decide

theorem not_mem_stringLiteral (text : String) :
    '\n' ∉ (stringLiteral text).toList ∧ '\r' ∉ (stringLiteral text).toList := by
  simp [stringLiteral, escape, List.mem_flatMap, not_mem_escapeCharacter]

theorem attributeText_wireName_inj {first second : String}
    (same : attributeText (.wireName first) = attributeText (.wireName second)) :
    first = second := by
  have attributeEq : ∀ key, attributeText (.wireName key) =
      "[Newtonsoft.Json.JsonPropertyAttribute(" ++ stringLiteral key ++ ")]" := fun _ => rfl
  rw [attributeEq, attributeEq, String.append_left_inj, String.append_right_inj] at same
  exact stringLiteral_injective same

/-- A string literal is one token of the generated code, for a text with any characters: it is read
back as that text however the code goes on, and it stays on its line.  The literal of a default is
of this kind, and keys that differ on the wire differ in the attributes that name them. -/
theorem stringLiteral_readsBack (text : String) :
    (∀ behind, readLiteral? ((stringLiteral text).toList ++ behind) = some (text.toList, behind)) ∧
      ('\n' ∉ (stringLiteral text).toList ∧ '\r' ∉ (stringLiteral text).toList) ∧
      (∀ target, literalText target (.string text) = stringLiteral text) ∧
      ∀ other, memberIndent ++ attributeText (.wireName text) =
          memberIndent ++ attributeText (.wireName other) ↔ text = other := by
  refine ⟨readLiteral?_stringLiteral text, not_mem_stringLiteral text, fun target => ?_,
    fun other => ⟨fun same => ?_, fun same => ?_⟩⟩
  · rw [literalText]
  · exact attributeText_wireName_inj ((String.append_right_inj memberIndent).mp same)
  · rw [same]

end CSharp
end SchemaClasses
