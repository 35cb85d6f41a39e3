import SchemaClasses.Text.Alphabetic
import SchemaClasses.Text.FinalSigma

/-!
# Letters in both cases

A character without another case is its own image.  The image of any other begins with a letter, and
has behind it no more than letters and the few marks that a precomposed letter falls apart into.
-/

namespace SchemaClasses
namespace Text

variable {c d : Char} {code first last : Nat} {edges : List Nat} {image : List Char}

/-- Whether a set has all numbers from `first` to `last` in one of its runs. -/
def insideRange : List Nat → Nat → Nat → Bool
  | start :: stop :: rest, first, last =>
      Nat.ble start first &&
        (bif Nat.blt first stop then Nat.blt last stop else insideRange rest first last)
  | _, _, _ => false

theorem inside_of_insideRange (range : insideRange edges first last = true) (least : first ≤ code)
    (most : code ≤ last) : inside edges code = true := by
  fun_induction insideRange edges first last with
  | case1 start stop rest first last ih =>
      rw [Bool.and_eq_true, Nat.ble_eq] at range
      obtain ⟨started, ends⟩ := range
      rw [inside, if_neg (by omega)]
      cases stopped : Nat.blt first stop with
      | true =>
          rw [stopped, cond_true, Nat.blt_eq] at ends
          rw [if_pos (by omega)]
      | false =>
          rw [stopped, cond_false] at ends
          have behind : ¬first < stop := by simp [← Nat.blt_eq, stopped]
          rw [if_neg (by omega)]
          exact ih ends least most
  | case2 => nomatch range

/-- The edges of the property Alphabetic, ASCII included. -/
def letterEdges : List Nat :=
  0x41 :: 0x5B :: 0x61 :: 0x7B :: alphabeticEdges

theorem isAlphabetic_of_inside (isInside : inside letterEdges c.toNat = true) :
    isAlphabetic c = true := by
  by_cases small : c.toNat < 128
  · -- The edges of the table all lie beyond ASCII.
    have ofCode : ∀ code < 128, inside letterEdges code = true →
        isAlphabetic (Char.ofNat code) = true := by decide +kernel
    simpa using ofCode c.toNat small isInside
  · rw [letterEdges, inside, if_neg (by omega), if_neg (by omega), inside, if_neg (by omega),
      if_neg (by omega)] at isInside
    rwa [isAlphabetic, if_neg small]

/-- The numbers from `first` to `last` are code points of letters. -/
def IsLetterRange (first last : Nat) : Prop :=
  insideRange letterEdges first last = true ∧
    (last < 0xD800 ∨ 0xDFFF < first ∧ last < 0x110000)

instance (first last : Nat) : Decidable (IsLetterRange first last) :=
  inferInstanceAs (Decidable (_ ∧ _))

theorem IsLetterRange.isAlphabetic_ofNat (range : IsLetterRange first last) (least : first ≤ code)
    (most : code ≤ last) : isAlphabetic (Char.ofNat code) = true := by
  obtain ⟨isInside, bounds⟩ := range
  have valid : code.isValidChar := by
    rw [Nat.isValidChar]
    omega
  have toNatEq : (Char.ofNat code).toNat = code := by
    rw [Char.ofNat, dif_pos valid]
    rfl
  refine isAlphabetic_of_inside ?_
  rw [toNatEq]
  exact inside_of_insideRange isInside least most

/-- The marks above and below a letter that are left when it has no precomposed other case. -/
def combiningMarks : List Char :=
  ['\u0300', '\u0301', '\u0307', '\u0308', '\u030A', '\u030C', '\u0313', '\u0331', '\u0342']

/-- A letter, with letters and marks behind it. -/
def IsExpansion : List Nat → Prop
  | [] => False
  | first :: rest =>
      IsLetterRange first first ∧
        ∀ code ∈ rest, IsLetterRange code code ∨ Char.ofNat code ∈ combiningMarks

instance : DecidablePred IsExpansion
  | [] => inferInstanceAs (Decidable False)
  | _ :: _ => inferInstanceAs (Decidable (_ ∧ _))

/-- The images of all code points that a run covers. -/
def CaseRun.images (run : CaseRun) : List Nat :=
  (List.range ((run.last - run.first) / run.step + 1)).map fun index =>
    run.image + index * run.step

theorem CaseRun.exists_mem_images {runs : List CaseRun} {image : Nat}
    (imageEq : CaseRun.image? runs code = some image) : ∃ run ∈ runs, image ∈ run.images := by
  induction runs with
  | nil => nomatch imageEq
  | cons run rest ih =>
      rw [CaseRun.image?] at imageEq
      split at imageEq
      · next covered =>
          obtain ⟨least, most, onStep⟩ := covered
          obtain rfl := Option.some.inj imageEq
          refine ⟨run, List.mem_cons_self, List.mem_map.mpr ⟨(code - run.first) / run.step, ?_, ?_⟩⟩
          · rw [List.mem_range, Nat.lt_succ_iff]
            exact Nat.div_le_div_right (by omega)
          · rw [Nat.div_mul_cancel (Nat.dvd_of_mod_eq_zero onStep)]
      · obtain ⟨other, member, isImage⟩ := ih imageEq
        exact ⟨other, List.mem_cons_of_mem _ member, isImage⟩

theorem CaseRun.bounds_of_mem_images {run : CaseRun} {image : Nat} (member : image ∈ run.images) :
    run.image ≤ image ∧ image ≤ run.image + (run.last - run.first) := by
  obtain ⟨index, inRange, rfl⟩ := List.mem_map.mp member
  have indexLe : index ≤ (run.last - run.first) / run.step :=
    Nat.lt_succ_iff.mp (List.mem_range.mp inRange)
  have width : index * run.step ≤ run.last - run.first :=
    Nat.le_trans (Nat.mul_le_mul_right _ indexLe) (Nat.div_mul_le_self _ _)
  omega

/-- A character is its own image, or else the image begins with a letter. -/
def IsCaseImage (c : Char) (image : List Char) : Prop :=
  image = [c] ∨ ∃ first rest, image = first :: rest ∧ isAlphabetic first = true ∧
    ∀ d ∈ rest, isAlphabetic d = true ∨ d ∈ combiningMarks

/-- All images of a mapping of case begin with letters. -/
structure GivesLetters (ascii : Char → Char) (expansions : List (Nat × List Nat))
    (runs : List CaseRun) : Prop where
  ascii : ∀ code < 128, ascii (Char.ofNat code) = Char.ofNat code ∨
    isAlphabetic (ascii (Char.ofNat code)) = true
  expansions : ∀ entry ∈ expansions, IsExpansion entry.2
  -- Between the images of a run there may be numbers that belong to no letter.
  runs : ∀ run ∈ runs, IsLetterRange run.image (run.image + (run.last - run.first)) ∨
    ∀ image ∈ run.images, IsLetterRange image image

section Mapping

variable {ascii : Char → Char} {expansions : List (Nat × List Nat)} {runs : List CaseRun}

theorem GivesLetters.isAlphabetic_image (gives : GivesLetters ascii expansions runs) {image : Nat}
    (imageEq : CaseRun.image? runs code = some image) :
    isAlphabetic (Char.ofNat image) = true := by
  obtain ⟨run, runMem, isImage⟩ := CaseRun.exists_mem_images imageEq
  rcases gives.runs run runMem with whole | single
  · obtain ⟨least, most⟩ := CaseRun.bounds_of_mem_images isImage
    exact whole.isAlphabetic_ofNat least most
  · exact (single image isImage).isAlphabetic_ofNat (Nat.le_refl _) (Nat.le_refl _)

theorem IsExpansion.isCaseImage {codes : List Nat} (expands : IsExpansion codes) :
    IsCaseImage c (codes.map Char.ofNat) := by
  cases codes with
  | nil => exact absurd expands not_false
  | cons first rest =>
      obtain ⟨isLetter, behind⟩ := expands
      refine Or.inr ⟨_, _, rfl, isLetter.isAlphabetic_ofNat (Nat.le_refl _) (Nat.le_refl _), ?_⟩
      intro d member
      obtain ⟨code, codeMem, rfl⟩ := List.mem_map.mp member
      rcases behind code codeMem with laterLetter | isMark
      · exact Or.inl (laterLetter.isAlphabetic_ofNat (Nat.le_refl _) (Nat.le_refl _))
      · exact Or.inr isMark

theorem GivesLetters.isCaseImage (gives : GivesLetters ascii expansions runs) (c : Char) :
    IsCaseImage c (if c.toNat < 128 then [ascii c] else caseImage expansions runs c) := by
  have ofLetter : ∀ {first}, isAlphabetic first = true → IsCaseImage c [first] :=
    fun isLetter => Or.inr ⟨_, [], rfl, isLetter, fun _ inNone => nomatch inNone⟩
  split
  · next small =>
      have ofAscii := gives.ascii c.toNat small
      rw [Char.ofNat_toNat] at ofAscii
      rcases ofAscii with same | isLetter
      · exact Or.inl (by rw [same])
      · exact ofLetter isLetter
  · unfold caseImage
    split
    · next codes found =>
        obtain ⟨before, after, expansionsEq, -⟩ := List.lookup_eq_some_iff.mp found
        have entryMem : (c.toNat, codes) ∈ expansions := by simp [expansionsEq]
        exact (gives.expansions _ entryMem).isCaseImage
    · split
      · next image imageEq => exact ofLetter (gives.isAlphabetic_image imageEq)
      · exact Or.inl rfl

end Mapping

theorem isCaseImage_lowerChar (c : Char) : IsCaseImage c (lowerChar c) := by
  have gives : GivesLetters Char.toLower lowerExpansions lowerRuns :=
    ⟨by decide +kernel, by decide +kernel, by decide +kernel⟩
  exact gives.isCaseImage c

theorem isCaseImage_upperChar (c : Char) : IsCaseImage c (upperChar c) := by
  have gives : GivesLetters Char.toUpper upperExpansions upperRuns :=
    ⟨by decide +kernel, by decide +kernel, by decide +kernel⟩
  exact gives.isCaseImage c

theorem lowerChar_ne_nil (c : Char) : lowerChar c ≠ [] := by
  rcases isCaseImage_lowerChar c with imageEq | ⟨first, rest, imageEq, -⟩ <;> simp [imageEq]

theorem upperChar_ne_nil (c : Char) : upperChar c ≠ [] := by
  rcases isCaseImage_upperChar c with imageEq | ⟨first, rest, imageEq, -⟩ <;> simp [imageEq]

/-- A text is lowered character by character, and none of them is lost. -/
theorem lower_ne_nil {text : List Char} (notNil : text ≠ []) : lower text ≠ [] := by
  obtain ⟨c, rest, rfl⟩ := List.exists_cons_of_ne_nil notNil
  rw [lower, lowerAfter]
  refine List.append_ne_nil_of_left_ne_nil ?_ _
  split
  · split <;> exact List.cons_ne_nil _ _
  · exact lowerChar_ne_nil c

end Text
end SchemaClasses
