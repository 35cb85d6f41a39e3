import SchemaClasses.Proofs.Text.Blank

/-!
# Lines of texts

The lines of a text are its parts between line feeds, without the carriage returns before these.

A description is trimmed, divided at its line feeds, and each line is trimmed at its end.  The other
characters that end a line for a reader of the result are blanks: they go if only blanks are between
them and the end of their line or the start of the text, and stay otherwise.
-/

namespace SchemaClasses
namespace Text

-- Listed characters are tried one by one.  Another instance tries all characters that there are.
instance (priority := high) decidableForallListed (p : Char → Prop) [DecidablePred p]
    (listed : List Char) : Decidable (∀ c ∈ listed, p c) :=
  List.decidableBAll p listed

instance (priority := high) decidableExistsListed (p : Char → Prop) [DecidablePred p]
    (listed : List Char) : Decidable (∃ c ∈ listed, p c) :=
  List.decidableBEx p listed

/-- The characters that end a line of C#. -/
def terminators : List Char :=
  ['\n', '\r', '\u0085', '\u2028', '\u2029']

variable {c : Char} {text line rest before after started : List Char}

theorem isBlank_of_mem_terminators (isTerminator : c ∈ terminators) : isBlank c = true := by
  have blanks : ∀ c ∈ terminators, isBlank c = true := by decide
  exact blanks c isTerminator

/-- A character that is not blank comes before the next line feed. -/
def VisibleAhead (rest : List Char) : Prop :=
  ∃ c ∈ rest.takeWhile (· ≠ '\n'), isBlank c = false

/-- A terminator which is no line feed stands between visible characters, of which the later one is
on the same line. -/
def BreaksInside (text : List Char) : Prop :=
  ∃ before c after, text = before ++ c :: after ∧ c ∈ terminators ∧ c ≠ '\n' ∧
    (∃ d ∈ before, isBlank d = false) ∧ VisibleAhead after

/-- A terminator which is no line feed stands before a visible character of its line. -/
def BreaksLine : List Char → Prop
  | [] => False
  | c :: rest => (c ∈ terminators ∧ c ≠ '\n' ∧ VisibleAhead rest) ∨ BreaksLine rest

instance (rest : List Char) : Decidable (VisibleAhead rest) :=
  inferInstanceAs (Decidable (∃ c ∈ rest.takeWhile (· ≠ '\n'), isBlank c = false))

instance decidableBreaksLine : (text : List Char) → Decidable (BreaksLine text)
  | [] => .isFalse not_false
  | c :: rest =>
      have : Decidable (BreaksLine rest) := decidableBreaksLine rest
      inferInstanceAs
        (Decidable ((c ∈ terminators ∧ c ≠ '\n' ∧ VisibleAhead rest) ∨ BreaksLine rest))

theorem not_visibleAhead_nil : ¬VisibleAhead [] := by
  rintro ⟨c, member, -⟩
  nomatch member

theorem visibleAhead_cons :
    VisibleAhead (c :: rest) ↔ c ≠ '\n' ∧ (isBlank c = false ∨ VisibleAhead rest) := by
  unfold VisibleAhead
  by_cases isFeed : c = '\n'
  · simp [isFeed]
  · simp [isFeed]

theorem visibleAhead_trimEnd : VisibleAhead (trimEnd text) ↔ VisibleAhead text := by
  induction text with
  | nil => rfl
  | cons c rest ih =>
      rw [trimEnd_cons, visibleAhead_cons, ← ih]
      split
      · next removed => simp [removed.1, removed.2, not_visibleAhead_nil]
      · rw [visibleAhead_cons]

theorem breaksLine_trimEnd : BreaksLine (trimEnd text) ↔ BreaksLine text := by
  induction text with
  | nil => rfl
  | cons c rest ih =>
      rw [trimEnd_cons, BreaksLine, ← ih, ← visibleAhead_trimEnd]
      split
      · next removed => simp [removed.1, not_visibleAhead_nil, BreaksLine]
      · rw [BreaksLine]

/-- On a single line, what is visible ahead is what trimming keeps. -/
theorem visibleAhead_iff_of_line (noFeed : '\n' ∉ line) :
    VisibleAhead line ↔ trimEnd line ≠ [] := by
  induction line with
  | nil => simp [not_visibleAhead_nil, trimEnd]
  | cons c rest ih =>
      rw [List.mem_cons, not_or] at noFeed
      rw [visibleAhead_cons, ih noFeed.2, trimEnd_cons, and_iff_right (Ne.symm noFeed.1)]
      by_cases blank : isBlank c = true <;> simp [blank]

theorem exists_terminator_iff_of_line (noFeed : '\n' ∉ line) :
    (∃ c ∈ trimEnd line, c ∈ terminators) ↔ BreaksLine line := by
  induction line with
  | nil => simp [trimEnd, BreaksLine]
  | cons c rest ih =>
      rw [List.mem_cons, not_or] at noFeed
      rw [trimEnd_cons, BreaksLine, ← ih noFeed.2, visibleAhead_iff_of_line noFeed.2]
      split
      · next removed => simp [removed.1]
      · next kept =>
          have visible : c ∈ terminators → trimEnd rest ≠ [] := fun isTerminator noneLeft =>
            kept ⟨noneLeft, isBlank_of_mem_terminators isTerminator⟩
          simp only [List.mem_cons, or_and_right, exists_or, exists_eq_left]
          refine or_congr_left ⟨fun isTerminator => ?_, fun breaks => breaks.1⟩
          exact ⟨isTerminator, Ne.symm noFeed.1, visible isTerminator⟩

theorem trimEnd_append_blank (blank : isBlank c = true) : trimEnd (line ++ [c]) = trimEnd line := by
  induction line with
  | nil => simp [trimEnd, blank]
  | cons d rest ih => rw [List.cons_append, trimEnd_cons, ih, trimEnd_cons]

theorem trimEnd_dropReturn (line : List Char) : trimEnd (dropReturn line) = trimEnd line := by
  unfold dropReturn
  split
  · next endsInReturn =>
      obtain ⟨front, rfl⟩ := List.getLast?_eq_some_iff.mp endsInReturn
      rw [List.dropLast_concat, trimEnd_append_blank (by decide)]
  · rfl

theorem visibleAhead_append_feed :
    VisibleAhead (before ++ '\n' :: after) ↔ VisibleAhead before := by
  induction before with
  | nil => simp [visibleAhead_cons, not_visibleAhead_nil]
  | cons c rest ih => rw [List.cons_append, visibleAhead_cons, visibleAhead_cons, ih]

theorem breaksLine_append_feed :
    BreaksLine (before ++ '\n' :: after) ↔ BreaksLine before ∨ BreaksLine after := by
  induction before with
  | nil => simp [BreaksLine]
  | cons c rest ih =>
      rw [List.cons_append, BreaksLine, BreaksLine, ih, visibleAhead_append_feed, or_assoc]

/-- The invariant of the division into lines, where `started` has been read backwards since the last
line feed. -/
theorem exists_terminator_linesAfter_iff (noFeed : '\n' ∉ started) :
    (∃ line ∈ linesAfter started text, ∃ c ∈ trimEnd line, c ∈ terminators) ↔
      BreaksLine (started.reverse ++ text) := by
  induction text generalizing started with
  | nil =>
      rw [List.append_nil, ← exists_terminator_iff_of_line (by simpa using noFeed)]
      cases started with
      | nil => simp [linesAfter, trimEnd]
      | cons c rest => simp [linesAfter]
  | cons c text ih =>
      rw [linesAfter]
      split
      · next isFeed =>
          simp only [List.mem_cons, or_and_right, exists_or, exists_eq_left]
          rw [trimEnd_dropReturn, ih List.not_mem_nil, isFeed, breaksLine_append_feed,
            exists_terminator_iff_of_line (by simpa using noFeed), List.reverse_nil,
            List.nil_append]
      · next notFeed =>
          have noFeedYet : '\n' ∉ c :: started := by
            rw [List.mem_cons, not_or]
            exact ⟨Ne.symm notFeed, noFeed⟩
          rw [ih noFeedYet, List.reverse_cons, List.append_assoc, List.singleton_append]

theorem breaksLine_iff :
    BreaksLine text ↔ ∃ before c after, text = before ++ c :: after ∧ c ∈ terminators ∧ c ≠ '\n' ∧
      VisibleAhead after := by
  induction text with
  | nil => simp [BreaksLine]
  | cons d rest ih =>
      rw [BreaksLine, ih]
      constructor
      · rintro (⟨isTerminator, notFeed, visible⟩ | ⟨before, c, after, rfl, found⟩)
        · exact ⟨[], d, rest, rfl, isTerminator, notFeed, visible⟩
        · exact ⟨d :: before, c, after, rfl, found⟩
      · rintro ⟨before, c, after, textEq, found⟩
        rcases List.append_eq_cons_iff.mp textEq.symm with
          ⟨rfl, restEq⟩ | ⟨before, rfl, rfl⟩
        · obtain ⟨rfl, rfl⟩ := List.cons.inj restEq
          exact Or.inl found
        · exact Or.inr ⟨before, c, after, rfl, found⟩

theorem breaksInside_cons_of_blank (blank : isBlank c = true) :
    BreaksInside (c :: rest) ↔ BreaksInside rest := by
  constructor
  · rintro ⟨before, d, after, textEq, isTerminator, notFeed, ⟨e, member, visible⟩, ahead⟩
    rcases List.append_eq_cons_iff.mp textEq.symm with ⟨rfl, -⟩ | ⟨before, rfl, rfl⟩
    · nomatch member
    · rcases List.mem_cons.mp member with rfl | inBefore
      · rw [blank] at visible
        nomatch visible
      · exact ⟨before, d, after, rfl, isTerminator, notFeed, ⟨e, inBefore, visible⟩, ahead⟩
  · rintro ⟨before, d, after, rfl, isTerminator, notFeed, ⟨e, member, visible⟩, ahead⟩
    exact ⟨c :: before, d, after, rfl, isTerminator, notFeed,
      ⟨e, List.mem_cons_of_mem _ member, visible⟩, ahead⟩

theorem breaksInside_cons_of_visible (visible : isBlank c = false) :
    BreaksInside (c :: rest) ↔ BreaksLine (c :: rest) := by
  rw [breaksLine_iff]
  constructor
  · rintro ⟨before, d, after, textEq, isTerminator, notFeed, -, ahead⟩
    exact ⟨before, d, after, textEq, isTerminator, notFeed, ahead⟩
  · rintro ⟨before, d, after, textEq, isTerminator, notFeed, ahead⟩
    rcases List.append_eq_cons_iff.mp textEq.symm with ⟨rfl, restEq⟩ | ⟨before, rfl, rfl⟩
    · obtain ⟨rfl, rfl⟩ := List.cons.inj restEq
      rw [isBlank_of_mem_terminators isTerminator] at visible
      nomatch visible
    · exact ⟨c :: before, d, after, rfl, isTerminator, notFeed,
        ⟨c, List.mem_cons_self, visible⟩, ahead⟩

/-- Before the first visible character no terminator counts. -/
theorem breaksInside_iff : BreaksInside text ↔ BreaksLine (text.dropWhile isBlank) := by
  induction text with
  | nil => simp [BreaksInside, BreaksLine]
  | cons c rest ih =>
      rw [List.dropWhile_cons]
      split
      · next blank => rw [breaksInside_cons_of_blank blank, ih]
      · next visible => exact breaksInside_cons_of_visible (by simpa using visible)

instance (text : List Char) : Decidable (BreaksInside text) :=
  decidable_of_iff' _ breaksInside_iff

/-- Terminators are left in the lines of a text if they break one. -/
theorem exists_terminator_lines_iff :
    (∃ line ∈ lines text, ∃ c ∈ trimEnd line, c ∈ terminators) ↔ BreaksLine text := by
  rw [lines, exists_terminator_linesAfter_iff List.not_mem_nil, List.reverse_nil, List.nil_append]

theorem breaksLine_trim : BreaksLine (trim text) ↔ BreaksInside text := by
  rw [trim, breaksLine_trimEnd, breaksInside_iff]

/-- The lines of a text, given the parts of it between line feeds.  The last part is a line only if
there is something in it. -/
def linesOfParts : List (List Char) → List (List Char)
  | [] => []
  | [last] => if last = [] then [] else [last]
  | part :: next :: rest => dropReturn part :: linesOfParts (next :: rest)

theorem linesAfter_eq_linesOfParts (started text : List Char) :
    linesAfter started text =
      linesOfParts ((text.splitOn '\n').modifyHead (started.reverse ++ ·)) := by
  induction text generalizing started with
  | nil =>
      rw [linesAfter, List.splitOn_nil, List.modifyHead_cons, List.append_nil, linesOfParts]
      simp only [List.isEmpty_iff, List.reverse_eq_nil_iff]
  | cons c rest ih =>
      rw [linesAfter, List.splitOn, List.splitOnP_cons_eq_if_modifyHead, ← List.splitOn]
      by_cases isFeed : c = '\n'
      · obtain ⟨next, others, partsEq⟩ :=
          List.exists_cons_of_ne_nil (List.splitOn_ne_nil '\n' rest)
        simp [isFeed, ih, partsEq, linesOfParts]
      · simp [isFeed, ih, Function.comp_def]

/-- The lines of a text are its parts between line feeds. -/
theorem lines_eq_linesOfParts (text : List Char) :
    lines text = linesOfParts (text.splitOn '\n') := by
  rw [lines, linesAfter_eq_linesOfParts]
  cases text.splitOn '\n' <;> rfl

theorem feed_not_mem_dropReturn (noFeed : '\n' ∉ line) : '\n' ∉ dropReturn line := by
  unfold dropReturn
  split
  · exact fun member => noFeed ((List.dropLast_prefix line).subset member)
  · exact noFeed

theorem feed_not_mem_of_mem_linesAfter (noFeed : '\n' ∉ started)
    (member : line ∈ linesAfter started text) : '\n' ∉ line := by
  induction text generalizing started with
  | nil =>
      rw [linesAfter] at member
      split at member
      · nomatch member
      · obtain rfl := List.mem_singleton.mp member
        rwa [List.mem_reverse]
  | cons c rest ih =>
      rw [linesAfter] at member
      split at member
      · rcases List.mem_cons.mp member with rfl | later
        · exact feed_not_mem_dropReturn (by rwa [List.mem_reverse])
        · exact ih List.not_mem_nil later
      · next notFeed =>
          refine ih ?_ member
          rw [List.mem_cons, not_or]
          exact ⟨Ne.symm notFeed, noFeed⟩

/-- No line has a line feed in it. -/
theorem feed_not_mem_of_mem_lines (member : line ∈ lines text) : '\n' ∉ line :=
  feed_not_mem_of_mem_linesAfter List.not_mem_nil member

end Text
end SchemaClasses
