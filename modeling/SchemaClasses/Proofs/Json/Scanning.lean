import SchemaClasses.Json.Tree
import SchemaClasses.Proofs.Steps

/-!
# Scanning parts of a text

The parts of a JSON text are scanned from left to right.  A string ends with its closing quote, and
nothing that follows changes what is read from it.  A number ends at the first character that it
cannot go on with, so that spaces and numbers are scanned the same way wherever the next character
is the same.
-/

namespace SchemaClasses
namespace Json

/-- A scanner decides by the characters that it takes and the one behind them. -/
def LooksAhead {ε α : Type} (scan : Cursor → Except ε (α × Cursor)) : Prop :=
  ∀ cursor value next, scan cursor = .ok (value, next) →
    ∃ taken, cursor.rest = taken ++ next.rest ∧
      ∀ rest : List Char, rest.head? = next.rest.head? →
        scan ⟨taken ++ rest, cursor.offset⟩ = .ok (value, ⟨rest, next.offset⟩)

/-- The character at which a scanner starts is the same with other text behind what it takes. -/
theorem head?_append_eq {taken before rest text : List Char} (textEq : text = taken ++ before)
    (headEq : rest.head? = before.head?) : (taken ++ rest).head? = text.head? := by
  rw [textEq, List.head?_append, List.head?_append, headEq]

namespace LooksAhead

variable {ε α β : Type} {scan : Cursor → Except ε (α × Cursor)}

theorem pure (value : α) :
    LooksAhead fun cursor => (.ok (value, cursor) : Except ε (α × Cursor)) := by
  intro cursor _ next scanned
  obtain ⟨rfl, rfl⟩ := Prod.mk.inj (Except.ok.inj scanned)
  exact ⟨[], rfl, fun rest _ => rfl⟩

theorem bind {andThen : α → Cursor → Except ε (β × Cursor)} (looksAhead : LooksAhead scan)
    (thenLooksAhead : ∀ value, LooksAhead (andThen value)) :
    LooksAhead fun cursor => scan cursor >>= fun scanned => andThen scanned.1 scanned.2 := by
  intro cursor value next scanned
  obtain ⟨⟨first, middle⟩, firstEq, secondEq⟩ := Steps.bind_eq_ok_iff.mp scanned
  obtain ⟨taken, restEq, firstAgain⟩ := looksAhead _ _ _ firstEq
  obtain ⟨more, middleEq, secondAgain⟩ := thenLooksAhead first _ _ _ secondEq
  refine ⟨taken ++ more, by rw [restEq, middleEq, List.append_assoc], fun rest headEq => ?_⟩
  refine Steps.bind_eq_ok_iff.mpr ⟨(first, ⟨more ++ rest, middle.offset⟩), ?_, ?_⟩
  · rw [List.append_assoc]
    exact firstAgain (more ++ rest) (head?_append_eq middleEq headEq)
  · exact secondAgain rest headEq

end LooksAhead

/-- As many spaces are skipped wherever the same character follows them. -/
theorem exists_skipSpaces (cursor : Cursor) :
    ∃ spaces, cursor.rest = spaces ++ cursor.skipSpaces.rest ∧
      ∀ rest : List Char, rest.head? = cursor.skipSpaces.rest.head? →
        (Cursor.mk (spaces ++ rest) cursor.offset).skipSpaces =
          ⟨rest, cursor.skipSpaces.offset⟩ := by
  obtain ⟨text, offset⟩ := cursor
  unfold Cursor.skipSpaces
  simp only
  induction text generalizing offset with
  | nil =>
      refine ⟨[], rfl, fun rest headEq => ?_⟩
      obtain rfl := List.head?_eq_none_iff.mp headEq
      rfl
  | cons c text ih =>
      rw [Cursor.afterSpaces]
      split
      · next isSpace =>
          obtain ⟨taken, restEq, again⟩ := ih (offset + 1)
          refine ⟨c :: taken, congrArg (c :: ·) restEq, fun rest headEq => ?_⟩
          rw [List.cons_append, Cursor.afterSpaces, if_pos isSpace, again rest headEq]
      · next notSpace =>
          refine ⟨[], rfl, fun rest headEq => ?_⟩
          obtain ⟨others, rfl⟩ := List.head?_eq_some_iff.mp headEq
          rw [List.nil_append, Cursor.afterSpaces, if_neg notSpace]

namespace Numeral

theorem exists_digitsAfter (digits : List Nat) (offset : Nat) (text : List Char) :
    ∃ taken, text = taken ++ (digitsAfter digits offset text).2.rest ∧
      ∀ rest : List Char, rest.head? = (digitsAfter digits offset text).2.rest.head? →
        digitsAfter digits offset (taken ++ rest) =
          ((digitsAfter digits offset text).1,
            ⟨rest, (digitsAfter digits offset text).2.offset⟩) := by
  induction text generalizing digits offset with
  | nil =>
      refine ⟨[], rfl, fun rest headEq => ?_⟩
      obtain rfl := List.head?_eq_none_iff.mp headEq
      rfl
  | cons c text ih =>
      rw [digitsAfter]
      split
      · next isDigit =>
          obtain ⟨taken, textEq, again⟩ := ih ((c.toNat - '0'.toNat) :: digits) (offset + 1)
          refine ⟨c :: taken, congrArg (c :: ·) textEq, fun rest headEq => ?_⟩
          rw [List.cons_append, digitsAfter, if_pos isDigit, again rest headEq]
      · next notDigit =>
          refine ⟨[], rfl, fun rest headEq => ?_⟩
          obtain ⟨others, rfl⟩ := List.head?_eq_some_iff.mp headEq
          rw [List.nil_append, digitsAfter, if_neg notDigit]

theorem scanDigits_looksAhead : LooksAhead fun cursor =>
    (.ok (scanDigits cursor) : Except Breach (List Nat × Cursor)) := by
  rintro ⟨text, offset⟩ value next scanned
  obtain ⟨taken, textEq, again⟩ := exists_digitsAfter [] offset text
  have scannedEq : digitsAfter [] offset text = (value, next) := Except.ok.inj scanned
  rw [scannedEq] at textEq again
  exact ⟨taken, textEq, fun rest headEq => congrArg Except.ok (again rest headEq)⟩

/-- Digits of which there has to be one. -/
theorem someDigits_looksAhead {α : Type} (result : Nat → List Nat → α) :
    LooksAhead fun cursor =>
      match scanDigits cursor with
      | ([], ⟨[], offset⟩) => .error (cutOff offset)
      | ([], ⟨_ :: _, offset⟩) => .error (.plain .badNumber (offset + 1))
      | (digits, next) => .ok (result cursor.offset digits, next) := by
  intro cursor value next scanned
  simp only at scanned
  split at scanned
  · nomatch scanned
  · nomatch scanned
  · next digits after noneAtEnd noneBefore digitsEq =>
      obtain ⟨rfl, rfl⟩ := Prod.mk.inj (Except.ok.inj scanned)
      obtain ⟨taken, restEq, again⟩ :=
        scanDigits_looksAhead cursor digits after (congrArg Except.ok digitsEq)
      refine ⟨taken, restEq, fun rest headEq => ?_⟩
      have digitsAgain := Except.ok.inj (again rest headEq)
      simp only [digitsAgain]
      cases digits with
      | nil =>
          obtain ⟨text, offset⟩ := after
          cases text with
          | nil => exact (noneAtEnd offset rfl rfl).elim
          | cons c text => exact (noneBefore c text offset rfl rfl).elim
      | cons digit digits => rfl

theorem scanWhole_looksAhead : LooksAhead scanWhole := by
  rintro ⟨text, offset⟩ value next scanned
  cases text with
  | nil => nomatch scanned
  | cons c text =>
      unfold scanWhole at scanned
      simp only at scanned
      split at scanned
      · next isZero =>
          subst isZero
          cases text with
          | nil =>
              obtain ⟨rfl, rfl⟩ := Prod.mk.inj (Except.ok.inj scanned)
              refine ⟨['0'], rfl, fun rest headEq => ?_⟩
              obtain rfl := List.head?_eq_none_iff.mp headEq
              rfl
          | cons d text =>
              simp only at scanned
              split at scanned
              · nomatch scanned
              · next notDigit =>
                  obtain ⟨rfl, rfl⟩ := Prod.mk.inj (Except.ok.inj scanned)
                  refine ⟨['0'], rfl, fun rest headEq => ?_⟩
                  obtain ⟨others, rfl⟩ := List.head?_eq_some_iff.mp headEq
                  simp [scanWhole, notDigit]
      · next notZero =>
          split at scanned
          · next isDigit =>
              obtain ⟨taken, restEq, again⟩ := scanDigits_looksAhead ⟨c :: text, offset⟩ _ _ scanned
              refine ⟨taken, restEq, fun rest headEq => ?_⟩
              have startsAlike : (taken ++ rest).head? = some c := head?_append_eq restEq headEq
              obtain ⟨others, othersEq⟩ := List.head?_eq_some_iff.mp startsAlike
              rw [← again rest headEq, othersEq]
              simp [scanWhole, notZero, isDigit]
          · nomatch scanned

theorem scanWhole_shortens {cursor next : Cursor} {value : List Nat}
    (scanned : scanWhole cursor = .ok (value, next)) :
    next.rest.length < cursor.rest.length := by
  obtain ⟨text, offset⟩ := cursor
  cases text with
  | nil => nomatch scanned
  | cons c text =>
      unfold scanWhole at scanned
      simp only at scanned
      split at scanned
      · cases text with
        | nil =>
            obtain ⟨-, rfl⟩ := Prod.mk.inj (Except.ok.inj scanned)
            simp
        | cons d text =>
            simp only at scanned
            split at scanned
            · nomatch scanned
            · obtain ⟨-, rfl⟩ := Prod.mk.inj (Except.ok.inj scanned)
              simp
      · split at scanned
        · next isDigit =>
            have digitsEq : digitsAfter [] offset (c :: text) = (value, next) :=
              Except.ok.inj scanned
            rw [digitsAfter, if_pos isDigit] at digitsEq
            obtain ⟨taken, textEq, -⟩ :=
              exists_digitsAfter [c.toNat - '0'.toNat] (offset + 1) text
            rw [digitsEq] at textEq
            simp only [textEq, List.length_cons, List.length_append]
            omega
        · nomatch scanned

theorem scanFraction_eq_of_head? {cursor : Cursor} (noPoint : cursor.rest.head? ≠ some '.') :
    scanFraction cursor = .ok (none, cursor) := by
  unfold scanFraction
  split
  · next rest restEq => exact absurd (by rw [restEq, List.head?_cons]) noPoint
  · rfl

theorem scanFraction_looksAhead : LooksAhead scanFraction := by
  rintro ⟨text, offset⟩ value next scanned
  by_cases point : text.head? = some '.'
  · obtain ⟨text, rfl⟩ := List.head?_eq_some_iff.mp point
    obtain ⟨taken, restEq, again⟩ :=
      someDigits_looksAhead (fun _ => some) ⟨text, offset + 1⟩ _ _ scanned
    exact ⟨'.' :: taken, congrArg ('.' :: ·) restEq, again⟩
  · rw [scanFraction_eq_of_head? point] at scanned
    obtain ⟨rfl, rfl⟩ := Prod.mk.inj (Except.ok.inj scanned)
    refine ⟨[], rfl, fun rest headEq => ?_⟩
    exact scanFraction_eq_of_head? (headEq ▸ point)

theorem scanSign_eq_of_head? {cursor : Cursor} (noPlus : cursor.rest.head? ≠ some '+')
    (noMinus : cursor.rest.head? ≠ some '-') : scanSign cursor = (false, cursor) := by
  unfold scanSign
  split
  · next rest restEq => exact absurd (by rw [restEq, List.head?_cons]) noPlus
  · next rest restEq => exact absurd (by rw [restEq, List.head?_cons]) noMinus
  · rfl

theorem scanSign_looksAhead : LooksAhead fun cursor =>
    (.ok (scanSign cursor) : Except Breach (Bool × Cursor)) := by
  rintro ⟨text, offset⟩ value next scanned
  have signEq : scanSign ⟨text, offset⟩ = (value, next) := Except.ok.inj scanned
  by_cases plus : text.head? = some '+'
  · obtain ⟨text, rfl⟩ := List.head?_eq_some_iff.mp plus
    obtain ⟨rfl, rfl⟩ := Prod.mk.inj signEq
    exact ⟨['+'], rfl, fun _ _ => rfl⟩
  · by_cases minus : text.head? = some '-'
    · obtain ⟨text, rfl⟩ := List.head?_eq_some_iff.mp minus
      obtain ⟨rfl, rfl⟩ := Prod.mk.inj signEq
      exact ⟨['-'], rfl, fun _ _ => rfl⟩
    · rw [scanSign_eq_of_head? plus minus] at signEq
      obtain ⟨rfl, rfl⟩ := Prod.mk.inj signEq
      refine ⟨[], rfl, fun rest headEq => congrArg Except.ok ?_⟩
      exact scanSign_eq_of_head? (headEq ▸ plus) (headEq ▸ minus)

theorem scanExponent_looksAhead : LooksAhead scanExponent := by
  have afterLetter : LooksAhead fun cursor =>
      scanExponentDigits (scanSign cursor).1 (scanSign cursor).2 :=
    scanSign_looksAhead.bind fun negative =>
      someDigits_looksAhead fun offset digits => some (negative, digits, offset)
  rintro ⟨text, offset⟩ value next scanned
  cases text with
  | nil =>
      obtain ⟨rfl, rfl⟩ := Prod.mk.inj (Except.ok.inj scanned)
      refine ⟨[], rfl, fun rest headEq => ?_⟩
      obtain rfl := List.head?_eq_none_iff.mp headEq
      rfl
  | cons c text =>
      by_cases isLetter : c = 'e' ∨ c = 'E'
      · have letterEq : ∀ rest : List Char, scanExponent ⟨c :: rest, offset⟩ =
            scanExponentDigits (scanSign ⟨rest, offset + 1⟩).1 (scanSign ⟨rest, offset + 1⟩).2 :=
          fun rest => if_pos isLetter
        rw [letterEq] at scanned
        obtain ⟨taken, restEq, again⟩ := afterLetter ⟨text, offset + 1⟩ _ _ scanned
        refine ⟨c :: taken, congrArg (c :: ·) restEq, fun rest headEq => ?_⟩
        exact (letterEq (taken ++ rest)).trans (again rest headEq)
      · have otherEq : ∀ rest : List Char,
            scanExponent ⟨c :: rest, offset⟩ = .ok (none, ⟨c :: rest, offset⟩) :=
          fun rest => if_neg isLetter
        rw [otherEq] at scanned
        obtain ⟨rfl, rfl⟩ := Prod.mk.inj (Except.ok.inj scanned)
        refine ⟨[], rfl, fun rest headEq => ?_⟩
        obtain ⟨others, rfl⟩ := List.head?_eq_some_iff.mp headEq
        exact otherEq others

theorem scanUnsigned_looksAhead (negative : Bool) : LooksAhead (scanUnsigned negative) := by
  have exponentPart : ∀ (whole : List Nat) (fraction : Option (List Nat)),
      LooksAhead fun cursor => scanExponent cursor >>= fun exponent =>
        .ok ((⟨negative, whole, fraction, exponent.1⟩ : Numeral), exponent.2) :=
    fun whole fraction => scanExponent_looksAhead.bind fun exponent => .pure _
  have fractionPart : ∀ whole : List Nat,
      LooksAhead fun cursor => scanFraction cursor >>= fun fraction =>
        scanExponent fraction.2 >>= fun exponent =>
          .ok ((⟨negative, whole, fraction.1, exponent.1⟩ : Numeral), exponent.2) :=
    fun whole => scanFraction_looksAhead.bind (exponentPart whole)
  exact scanWhole_looksAhead.bind fractionPart

theorem scan_eq_of_head? {cursor : Cursor} (noSign : cursor.rest.head? ≠ some '-') :
    scan cursor = scanUnsigned false cursor := by
  unfold scan
  split
  · next rest restEq => exact absurd (by rw [restEq, List.head?_cons]) noSign
  · rfl

theorem scan_looksAhead : LooksAhead scan := by
  rintro ⟨text, offset⟩ value next scanned
  by_cases sign : text.head? = some '-'
  · obtain ⟨text, rfl⟩ := List.head?_eq_some_iff.mp sign
    obtain ⟨taken, restEq, again⟩ :=
      scanUnsigned_looksAhead true ⟨text, offset + 1⟩ _ _ scanned
    exact ⟨'-' :: taken, congrArg ('-' :: ·) restEq, again⟩
  · rw [scan_eq_of_head? sign] at scanned
    obtain ⟨taken, restEq, again⟩ := scanUnsigned_looksAhead false ⟨text, offset⟩ _ _ scanned
    refine ⟨taken, restEq, fun rest headEq => ?_⟩
    have noSign : (taken ++ rest).head? ≠ some '-' := head?_append_eq restEq headEq ▸ sign
    exact (scan_eq_of_head? noSign).trans (again rest headEq)

theorem scanUnsigned_shortens {negative : Bool} {cursor next : Cursor} {numeral : Numeral}
    (scanned : scanUnsigned negative cursor = .ok (numeral, next)) :
    next.rest.length < cursor.rest.length := by
  obtain ⟨⟨whole, afterWhole⟩, wholeEq, scanned⟩ := Steps.bind_eq_ok_iff.mp scanned
  obtain ⟨⟨fraction, afterFraction⟩, fractionEq, scanned⟩ := Steps.bind_eq_ok_iff.mp scanned
  obtain ⟨⟨exponent, after⟩, exponentEq, finished⟩ := Steps.bind_eq_ok_iff.mp scanned
  obtain ⟨-, rfl⟩ := Prod.mk.inj (Except.ok.inj finished)
  have wholeShortens := scanWhole_shortens wholeEq
  obtain ⟨_, wholeRestEq, -⟩ := scanFraction_looksAhead _ _ _ fractionEq
  obtain ⟨_, fractionRestEq, -⟩ := scanExponent_looksAhead _ _ _ exponentEq
  have wholeLength := congrArg List.length wholeRestEq
  have fractionLength := congrArg List.length fractionRestEq
  rw [List.length_append] at wholeLength fractionLength
  omega

/-- A number takes at least one character. -/
theorem scan_shortens {cursor next : Cursor} {numeral : Numeral}
    (scanned : scan cursor = .ok (numeral, next)) : next.rest.length < cursor.rest.length := by
  unfold scan at scanned
  split at scanned
  · next rest restEq =>
      have shortens := scanUnsigned_shortens scanned
      rw [restEq, List.length_cons]
      exact Nat.lt_succ_of_lt shortens
  · exact scanUnsigned_shortens scanned

end Numeral

/-- The rest of a string from one offset to another, with its closing quote. -/
inductive StringBody : Nat → List Char → Nat → Prop where
  | close (offset : Nat) : StringBody offset ['"'] (offset + 1)
  | unicode {offset stop : Nat} {a b c d : Char} {rest : List Char}
      (isHex : (hexValue? a b c d).isSome = true) (body : StringBody (offset + 6) rest stop) :
      StringBody offset ('\\' :: 'u' :: a :: b :: c :: d :: rest) stop
  | simple {offset stop : Nat} {escape : Char} {rest : List Char}
      (isEscape : (simpleEscape? escape).isSome = true)
      (body : StringBody (offset + 2) rest stop) :
      StringBody offset ('\\' :: escape :: rest) stop
  | plain {offset stop : Nat} {c : Char} {rest : List Char} (notQuote : c ≠ '"')
      (notEscape : c ≠ '\\') (notControl : ¬isControl c = true)
      (body : StringBody (offset + c.utf8Size) rest stop) : StringBody offset (c :: rest) stop

theorem exists_stringBody {offset : Nat} {text : List Char} {next : Cursor}
    (skipped : skipString offset text = .ok next) :
    ∃ taken, text = taken ++ next.rest ∧ StringBody offset taken next.offset := by
  fun_induction skipString offset text with
  | case2 offset rest =>
      obtain rfl := Except.ok.inj skipped
      exact ⟨['"'], rfl, .close offset⟩
  | case4 offset a b c d rest isHex ih =>
      obtain ⟨taken, rfl, body⟩ := ih skipped
      exact ⟨_, rfl, .unicode isHex body⟩
  | case7 offset escape rest _ notUnicode isEscape ih =>
      obtain ⟨taken, rfl, body⟩ := ih skipped
      exact ⟨_, rfl, .simple isEscape body⟩
  | case10 offset c rest notQuote notLast _ _ notEscape notControl ih =>
      obtain ⟨taken, restEq, body⟩ := ih skipped
      have isPlain : c ≠ '\\' := by
        rintro rfl
        cases rest with
        | nil => exact notLast rfl rfl
        | cons escape rest => exact notEscape escape rest rfl rfl
      exact ⟨c :: taken, congrArg (c :: ·) restEq, .plain notQuote isPlain notControl body⟩
  | _ => nomatch skipped

theorem ne_unicode_of_isEscape {escape : Char} (isEscape : (simpleEscape? escape).isSome = true) :
    escape ≠ 'u' := by
  rintro rfl
  nomatch isEscape

theorem StringBody.skip {offset stop : Nat} {taken : List Char}
    (body : StringBody offset taken stop) (rest : List Char) :
    skipString offset (taken ++ rest) = .ok ⟨rest, stop⟩ := by
  induction body with
  | close offset => rw [List.singleton_append, skipString]
  | unicode isHex body ih => simp only [List.cons_append, skipString, if_pos isHex, ih]
  | simple isEscape body ih =>
      have notUnicode := ne_unicode_of_isEscape isEscape
      simp [skipString, notUnicode, isEscape, ih]
  | plain notQuote notEscape notControl body ih =>
      simp [skipString, notEscape, notControl, ih]

/-- What is read from a string depends on the string alone, also where it is a fault. -/
theorem StringBody.read_map (text first second : List Char) {offset stop : Nat}
    {taken : List Char} :
    StringBody offset taken stop →
      (readStringAfter text offset (taken ++ first)).map Prod.fst =
        (readStringAfter text offset (taken ++ second)).map Prod.fst
  | .close _ => by
      simp only [List.singleton_append, readStringAfter]
      rfl
  | .unicode isHex body => by
      obtain ⟨code, codeEq⟩ := Option.isSome_iff_exists.mp isHex
      simp only [List.cons_append, readStringAfter, codeEq]
      split
      · rfl
      · split
        · cases body with
          | close offset => rfl
          | unicode lowIsHex body =>
              obtain ⟨low, lowEq⟩ := Option.isSome_iff_exists.mp lowIsHex
              simp only [List.cons_append, lowEq]
              split
              · exact body.read_map _ first second
              · rfl
          | simple isEscape body =>
              have notUnicode := ne_unicode_of_isEscape isEscape
              simp [notUnicode, pairFault]
          | plain notQuote notEscape notControl body =>
              simp [notEscape, pairFault]
        · exact body.read_map _ first second
  | .simple isEscape body => by
      obtain ⟨c, escapeEq⟩ := Option.isSome_iff_exists.mp isEscape
      have notUnicode := ne_unicode_of_isEscape isEscape
      simpa [readStringAfter, notUnicode, escapeEq] using body.read_map _ first second
  | .plain notQuote notEscape notControl body => by
      simpa [readStringAfter, notQuote, notEscape, notControl] using body.read_map _ first second

end Json
end SchemaClasses
