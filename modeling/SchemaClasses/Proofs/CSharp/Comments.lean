import Mathlib.Data.List.Forall2
import SchemaClasses.CSharp.Source
import SchemaClasses.Proofs.Text.Lines

/-!
# Reading documentation comments

A documentation comment has one line for each line of its text.  The three characters of markup are
entities there, which a reader resolves in one pass from left to right, so that a text in which
entities are spelled out already comes back as it was.
-/

namespace SchemaClasses
namespace CSharp

/-- What the entities in a text stand for, read in one pass from left to right. -/
def readEntities : List Char → List Char
  | '&' :: 'a' :: 'm' :: 'p' :: ';' :: rest => '&' :: readEntities rest
  | '&' :: 'l' :: 't' :: ';' :: rest => '<' :: readEntities rest
  | '&' :: 'g' :: 't' :: ';' :: rest => '>' :: readEntities rest
  | c :: rest => c :: readEntities rest
  | [] => []

/-- What stands behind the ampersand of an entity. -/
def entityNames : List (List Char) :=
  ["amp;".toList, "lt;".toList, "gt;".toList]

/-- Nothing in a text is markup: no character is an angle bracket, and every ampersand starts one of
the three entities. -/
structure Unmarked (body : List Char) : Prop where
  opening : '<' ∉ body
  closing : '>' ∉ body
  ampersands : ∀ before after, body = before ++ '&' :: after →
    ∃ name ∈ entityNames, name <+: after

/-- A text with `image` in the place of every `c`. -/
def replaceEach (c : Char) (image text : List Char) : List Char :=
  text.flatMap fun d => if d = c then image else [d]

variable {c : Char} {rest text : List Char} {margin : String}

theorem readEntities_entityCharacter (c : Char) (rest : List Char) :
    readEntities (entityCharacter c ++ rest) = c :: readEntities rest := by
  unfold entityCharacter
  split
  case h_4 notAmpersand _ _ =>
    rw [List.singleton_append, readEntities]
    all_goals exact fun _ isAmpersand => absurd isAmpersand notAmpersand
  all_goals rfl

theorem readEntities_entities (text : List Char) : readEntities (entities text) = text := by
  unfold entities
  induction text with
  | nil => rfl
  | cons c rest ih => rw [List.flatMap_cons, readEntities_entityCharacter, ih]

theorem Unmarked.cons (unmarked : Unmarked rest) (notOpening : c ≠ '<') (notClosing : c ≠ '>')
    (named : c = '&' → ∃ name ∈ entityNames, name <+: rest) : Unmarked (c :: rest) := by
  refine ⟨?_, ?_, ?_⟩
  · rw [List.mem_cons, not_or]
    exact ⟨notOpening.symm, unmarked.opening⟩
  · rw [List.mem_cons, not_or]
    exact ⟨notClosing.symm, unmarked.closing⟩
  · intro before after bodyEq
    rcases List.cons_eq_append_iff.mp bodyEq with ⟨rfl, restEq⟩ | ⟨before, rfl, restEq⟩
    · obtain ⟨isAmpersand, rfl⟩ := List.cons.inj restEq
      exact named isAmpersand.symm
    · exact unmarked.ampersands before after restEq

theorem Unmarked.plain_append (unmarked : Unmarked rest) {plain : List Char}
    (notMarkup : ∀ c ∈ plain, c ∉ ['<', '>', '&']) : Unmarked (plain ++ rest) := by
  induction plain with
  | nil => exact unmarked
  | cons c plain ih =>
      obtain ⟨cPlain, othersPlain⟩ := List.forall_mem_cons.mp notMarkup
      simp only [List.mem_cons, List.not_mem_nil, or_false, not_or] at cPlain
      exact (ih othersPlain).cons cPlain.1 cPlain.2.1 fun isAmpersand =>
        absurd isAmpersand cPlain.2.2

theorem Unmarked.entity_append (unmarked : Unmarked rest) (name : List Char)
    (isName : name ∈ entityNames) : Unmarked ('&' :: name ++ rest) := by
  have plain : ∀ name ∈ entityNames, ∀ c ∈ name, c ∉ ['<', '>', '&'] := by decide
  refine (unmarked.plain_append (plain name isName)).cons (by decide) (by decide) fun _ => ?_
  exact ⟨name, isName, List.prefix_append name rest⟩

theorem Unmarked.entityCharacter_append (unmarked : Unmarked rest) (c : Char) :
    Unmarked (entityCharacter c ++ rest) := by
  unfold entityCharacter
  split
  case h_1 => exact unmarked.entity_append "amp;".toList (by decide)
  case h_2 => exact unmarked.entity_append "lt;".toList (by decide)
  case h_3 => exact unmarked.entity_append "gt;".toList (by decide)
  case h_4 notAmpersand notOpening notClosing =>
    exact unmarked.cons notOpening notClosing fun isAmpersand => absurd isAmpersand notAmpersand

theorem unmarked_entities (text : List Char) : Unmarked (entities text) := by
  unfold entities
  induction text with
  | nil => exact ⟨List.not_mem_nil, List.not_mem_nil, by simp⟩
  | cons c rest ih =>
      rw [List.flatMap_cons]
      exact ih.entityCharacter_append c

theorem entities_eq_replaceEach (text : List Char) :
    entities text = replaceEach '>' "&gt;".toList
      (replaceEach '<' "&lt;".toList (replaceEach '&' "&amp;".toList text)) := by
  unfold entities replaceEach
  rw [List.flatMap_assoc, List.flatMap_assoc]
  congr
  funext c
  unfold entityCharacter
  split
  case h_4 notAmpersand notOpening notClosing =>
    rw [if_neg notAmpersand, List.flatMap_singleton, if_neg notOpening, List.flatMap_singleton,
      if_neg notClosing]
  all_goals decide

/-- The text of a documentation comment as it is written, with a line feed behind every line. -/
def summaryText (margin text : String) : String :=
  String.join ((summaryLines margin text).map (· ++ "\n"))

/-- Lines that are written with a line feed behind each are told apart again at the line feeds, with
nothing behind the last one. -/
theorem splitOn_join_lines {lines : List String} (noFeeds : ∀ line ∈ lines, '\n' ∉ line.toList) :
    (String.join (lines.map (· ++ "\n"))).toList.splitOn '\n' =
      lines.map String.toList ++ [[]] := by
  induction lines with
  | nil => rfl
  | cons line rest ih =>
      obtain ⟨noFeed, othersNoFeed⟩ := List.forall_mem_cons.mp noFeeds
      have noEnd : ∀ c ∈ line.toList, (c == '\n') = false := by
        intro c member
        rw [beq_eq_false_iff_ne]
        rintro rfl
        exact noFeed member
      have written : (String.join ((line :: rest).map (· ++ "\n"))).toList =
          line.toList ++ '\n' :: (String.join (rest.map (· ++ "\n"))).toList := by
        rw [List.map_cons, String.join_cons, String.toList_append, String.toList_append,
          List.append_assoc]
        rfl
      rw [written, List.splitOn, List.splitOnP_append_cons_of_forall_mem noEnd _ rfl,
        ← List.splitOn, ih othersNoFeed, List.map_cons, List.cons_append]

/-- The body of a comment line says what a line of the text says.  It is the line without the blanks
at its end, where first the ampersands and then the angle brackets have become entities. -/
structure CarriesLine (line body : List Char) : Prop where
  replaced : body = replaceEach '>' "&gt;".toList
    (replaceEach '<' "&lt;".toList (replaceEach '&' "&amp;".toList (Text.trimEnd line)))
  unmarked : Unmarked body
  read : readEntities body = Text.trimEnd line

theorem carriesLine_entities (line : List Char) : CarriesLine line (entities (Text.trimEnd line)) :=
  ⟨entities_eq_replaceEach _, unmarked_entities _, readEntities_entities _⟩

theorem feed_not_mem_entities (noFeed : '\n' ∉ text) : '\n' ∉ entities text := by
  intro member
  obtain ⟨c, inText, inImage⟩ := List.mem_flatMap.mp member
  unfold entityCharacter at inImage
  split at inImage
  case h_4 => exact noFeed (List.mem_singleton.mp inImage ▸ inText)
  all_goals exact absurd inImage (by decide)

theorem feed_not_mem_of_mem_summaryLines {line content : String} (indented : '\n' ∉ margin.toList)
    (member : line ∈ summaryLines margin content) : '\n' ∉ line.toList := by
  have tagged : ∀ tag : String, '\n' ∉ tag.toList → '\n' ∉ (margin ++ tag).toList := by
    intro tag noFeed
    rw [String.toList_append, List.mem_append, not_or]
    exact ⟨indented, noFeed⟩
  rw [summaryLines, List.mem_append, List.mem_cons, List.mem_map, List.mem_singleton] at member
  rcases member with (rfl | ⟨source, inLines, rfl⟩) | rfl
  · exact tagged _ (by decide)
  · have noFeed : '\n' ∉ Text.trimEnd source := fun kept =>
      Text.feed_not_mem_of_mem_lines inLines ((Text.trimEnd_prefix_self source).subset kept)
    rw [String.toList_append, String.toList_ofList, List.mem_append, not_or]
    exact ⟨tagged _ (by decide), feed_not_mem_entities noFeed⟩
  · exact tagged _ (by decide)

/-- A documentation comment holds each line of its text on a line of its own, from which the line is
read back but for the blanks at its end. -/
theorem summaryText_readsBack (spaces : ∀ c ∈ margin.toList, c = ' ') (text : String) :
    ∃ bodies : List (List Char),
      (summaryText margin text).toList.splitOn '\n' =
        (margin ++ "/// <summary>").toList ::
          bodies.map (fun body => (margin ++ "/// ").toList ++ body) ++
          [(margin ++ "/// </summary>").toList, []] ∧
      List.Forall₂ CarriesLine (Text.linesOfParts (text.toList.splitOn '\n')) bodies := by
  have indented : '\n' ∉ margin.toList := fun member => absurd (spaces _ member) (by decide)
  refine ⟨(Text.lines text.toList).map fun line => entities (Text.trimEnd line), ?_, ?_⟩
  · rw [summaryText, splitOn_join_lines fun line => feed_not_mem_of_mem_summaryLines indented,
      summaryLines]
    simp [Function.comp_def, String.toList_append]
  · rw [← Text.lines_eq_linesOfParts, List.forall₂_map_right_iff]
    exact List.forall₂_same.mpr fun line _ => carriesLine_entities line

/-- Two lines with all that is escaped, one of them with an entity of its own and blanks at its
end. -/
theorem summaryText_readsBack_markup :
    (∀ c ∈ memberIndent.toList, c = ' ') ∧
      ∃ bodies : List (List Char),
        (summaryText memberIndent "x < y &lt; \t\r\n&amp;&\n").toList.splitOn '\n' =
          (memberIndent ++ "/// <summary>").toList ::
            bodies.map (fun body => (memberIndent ++ "/// ").toList ++ body) ++
            [(memberIndent ++ "/// </summary>").toList, []] ∧
        bodies.map readEntities = ["x < y &lt;".toList, "&amp;&".toList] := by
  have spaces : ∀ c ∈ memberIndent.toList, c = ' ' := by decide
  obtain ⟨bodies, written, carried⟩ :=
    summaryText_readsBack spaces "x < y &lt; \t\r\n&amp;&\n"
  have linesEq : Text.linesOfParts ("x < y &lt; \t\r\n&amp;&\n".toList.splitOn '\n') =
      ["x < y &lt; \t".toList, "&amp;&".toList] := by decide
  rw [linesEq] at carried
  refine ⟨spaces, bodies, written, ?_⟩
  cases carried with
  | cons first rest =>
      cases rest with
      | cons second rest =>
          cases rest
          rw [List.map_cons, List.map_cons, List.map_nil, first.read, second.read]
          decide

end CSharp
end SchemaClasses
