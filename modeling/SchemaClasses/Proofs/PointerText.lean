import SchemaClasses.Pointer

/-!
# Reading pointer texts

The text of a pointer is split at its slashes, and then in every segment `~1` becomes a slash and
after that `~0` becomes a tilde.  This undoes the writing of any pointer, so that no two pointers
have the same text, however they were built.
-/

namespace SchemaClasses
namespace Pointer

/-- Puts `c` in the place of every tilde that `code` follows. -/
def resolveCode (code c : Char) : List Char → List Char
  | [] => []
  | [d] => [d]
  | d :: next :: rest =>
      if d = '~' ∧ next = code then c :: resolveCode code c rest
      else d :: resolveCode code c (next :: rest)

/-- The segment that escaped characters stand for. -/
def unescape (escaped : List Char) : List Char :=
  resolveCode '0' '~' (resolveCode '1' '/' escaped)

/-- The segments in the characters of a pointer text. -/
def segmentsOf? : List Char → Option (List String)
  | [] => some []
  | c :: rest =>
      if c = '/' then
        some ((rest.splitOn '/').map fun escaped => String.ofList (unescape escaped))
      else none

/-- The pointer that a text writes. -/
def ofText? (text : String) : Option Pointer :=
  (segmentsOf? text.toList).map Pointer.mk

/-- The first pass leaves of all escapes only those of tildes. -/
def tildeEscape (c : Char) : List Char :=
  if c = '~' then ['~', '0'] else [c]

theorem resolveCode_cons_of_ne {code c d : Char} (notTilde : d ≠ '~') (rest : List Char) :
    resolveCode code c (d :: rest) = d :: resolveCode code c rest := by
  cases rest with
  | nil => simp [resolveCode]
  | cons next rest => simp [resolveCode, notTilde]

theorem escapeCharacter_of_ne {c : Char} (notTilde : c ≠ '~') (notSlash : c ≠ '/') :
    escapeCharacter c = [c] := by
  unfold escapeCharacter
  split
  · exact absurd rfl notTilde
  · exact absurd rfl notSlash
  · rfl

theorem resolveCode_slash_escape (segment : List Char) :
    resolveCode '1' '/' (escape segment) = segment.flatMap tildeEscape := by
  induction segment with
  | nil => rfl
  | cons c segment ih =>
      have unfolded : escape (c :: segment) = escapeCharacter c ++ escape segment :=
        List.flatMap_cons
      rw [unfolded, List.flatMap_cons, ← ih]
      by_cases isTilde : c = '~'
      · subst isTilde
        have kept : resolveCode '1' '/' ('~' :: '0' :: escape segment) =
            '~' :: resolveCode '1' '/' ('0' :: escape segment) := by
          simp [resolveCode]
        change resolveCode '1' '/' ('~' :: '0' :: escape segment) = _
        rw [kept, resolveCode_cons_of_ne (by decide)]
        rfl
      · by_cases isSlash : c = '/'
        · subst isSlash
          rw [tildeEscape, if_neg isTilde]
          change resolveCode '1' '/' ('~' :: '1' :: escape segment) = _
          simp [resolveCode]
        · rw [escapeCharacter_of_ne isTilde isSlash, tildeEscape, if_neg isTilde]
          exact resolveCode_cons_of_ne isTilde _

theorem resolveCode_tilde_flatMap (segment : List Char) :
    resolveCode '0' '~' (segment.flatMap tildeEscape) = segment := by
  induction segment with
  | nil => rfl
  | cons c segment ih =>
      rw [List.flatMap_cons]
      by_cases isTilde : c = '~'
      · subst isTilde
        change resolveCode '0' '~' ('~' :: '0' :: segment.flatMap tildeEscape) = _
        simp [resolveCode, ih]
      · rw [tildeEscape, if_neg isTilde]
        change resolveCode '0' '~' (c :: segment.flatMap tildeEscape) = _
        rw [resolveCode_cons_of_ne isTilde, ih]

@[simp]
theorem unescape_escape (segment : List Char) : unescape (escape segment) = segment := by
  rw [unescape, resolveCode_slash_escape, resolveCode_tilde_flatMap]

theorem slash_notMem_escape (segment : List Char) : '/' ∉ escape segment := by
  intro member
  obtain ⟨c, -, slashIn⟩ := List.mem_flatMap.mp member
  by_cases isTilde : c = '~'
  · subst isTilde
    simp [escapeCharacter] at slashIn
  · by_cases isSlash : c = '/'
    · subst isSlash
      simp [escapeCharacter] at slashIn
    · rw [escapeCharacter_of_ne isTilde isSlash, List.mem_singleton] at slashIn
      exact isSlash slashIn.symm

/-- The characters of a pointer after the leading slash are its escaped segments between slashes. -/
theorem characters_cons (segment : String) (segments : List String) :
    characters (segment :: segments) =
      '/' :: ['/'].intercalate ((segment :: segments).map fun each => escape each.toList) := by
  induction segments generalizing segment with
  | nil => simp [characters]
  | cons next segments ih =>
      have unfolded : characters (segment :: next :: segments) =
          '/' :: escape segment.toList ++ characters (next :: segments) := by
        simp [characters]
      rw [unfolded, ih next]
      simp [List.intercalate]

theorem segmentsOf?_characters (segments : List String) :
    segmentsOf? (characters segments) = some segments := by
  cases segments with
  | nil => rfl
  | cons segment segments =>
      have slashFree : ∀ escaped ∈ (segment :: segments).map (fun each => escape each.toList),
          '/' ∉ escaped := by
        intro escaped member
        obtain ⟨each, -, rfl⟩ := List.mem_map.mp member
        exact slash_notMem_escape each.toList
      rw [characters_cons, segmentsOf?, if_pos rfl,
        List.splitOn_intercalate '/' slashFree (by simp), List.map_map]
      simp [Function.comp_def]

/-- Reading undoes writing. -/
@[simp]
theorem ofText?_text (pointer : Pointer) : ofText? pointer.text = some pointer := by
  simp [ofText?, text, segmentsOf?_characters]

/-- Going deeper leaves the text so far as it is and puts the escaped segment behind it. -/
theorem text_child (pointer : Pointer) (segment : String) :
    (pointer.child segment).text =
      pointer.text ++ String.ofList ('/' :: escape segment.toList) := by
  apply String.toList_injective
  simp [text, child, characters]

theorem text_injective : Function.Injective text := by
  intro first second sameText
  have sameReading : some first = some second := by
    rw [← ofText?_text first, ← ofText?_text second, sameText]
  exact Option.some.inj sameReading

/-- A call that takes a pointer deeper, by one segment or by a pair of them. -/
inductive Descent where
  | child (segment : String)
  | join (first second : String)

namespace Descent

/-- The segments that a call adds. -/
def segments : Descent → List String
  | child segment => [segment]
  | join first second => [first, second]

/-- The pointer after a call. -/
def apply (pointer : Pointer) : Descent → Pointer
  | child segment => pointer.child segment
  | join first second => pointer.join first second

theorem segments_apply (pointer : Pointer) (call : Descent) :
    (apply pointer call).segments = pointer.segments ++ call.segments := by
  cases call with
  | child segment => rfl
  | join first second => simp [apply, Pointer.join, Pointer.child, segments]

end Descent

/-- The pointer that calls build, one after the other, from the root on. -/
def built (calls : List Descent) : Pointer :=
  calls.foldl Descent.apply root

theorem segments_foldl_apply (calls : List Descent) (pointer : Pointer) :
    (calls.foldl Descent.apply pointer).segments =
      pointer.segments ++ calls.flatMap Descent.segments := by
  induction calls generalizing pointer with
  | nil => simp
  | cons call calls ih =>
      rw [List.foldl_cons, ih, Descent.segments_apply, List.flatMap_cons, List.append_assoc]

theorem segments_built (calls : List Descent) :
    (built calls).segments = calls.flatMap Descent.segments := by
  rw [built, segments_foldl_apply]
  rfl

/-- A built pointer is read back from its text as the segments that it was built of.  So the texts
of two pointers are the same only if both were built of the same segments, in whatever groups. -/
theorem text_built_faithful (calls : List Descent) :
    (ofText? (built calls).text).map segments = some (calls.flatMap Descent.segments) ∧
      ∀ others : List Descent, (built others).text = (built calls).text ↔
        others.flatMap Descent.segments = calls.flatMap Descent.segments := by
  refine ⟨?_, fun others => ?_⟩
  · rw [ofText?_text, Option.map_some, segments_built]
  · rw [text_injective.eq_iff, ← segments_built, ← segments_built]
    constructor
    · intro samePointer
      rw [samePointer]
    · intro sameSegments
      exact congrArg Pointer.mk sameSegments

example : (built [.child "a/b", .join "~1" ""]).text = "/a~1b/~01/" := by decide

end Pointer
end SchemaClasses
