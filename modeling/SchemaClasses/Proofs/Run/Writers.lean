import SchemaClasses.Proofs.Run.Phases
import SchemaClasses.Proofs.Run.SingleDocument

/-!
# Writers

A writer takes bytes call by call, and a call may take fewer bytes than it is offered.  Whoever
writes to it offers the rest again until the writer has no room left.  What such a writer has taken
in the end depends on its room alone, not on its calls and not on the pieces in which a class is
handed over: it is the start of what a sink without a limit takes.
-/

namespace SchemaClasses

variable {σ : Type}

/-- A writer with limited room.  While it has room a call takes at least one of the bytes that it is
offered, from the first one on, and without room a call takes none. -/
structure Writer (σ : Type) where
  /-- How many more bytes the writer takes in a state. -/
  room : σ → Nat
  /-- How many of the offered bytes a call takes, and the state after the call. -/
  call : σ → List UInt8 → Nat × σ
  call_le_length : ∀ state offered, (call state offered).1 ≤ offered.length
  call_le_room : ∀ state offered, (call state offered).1 ≤ room state
  call_pos : ∀ state offered, offered ≠ [] → 0 < room state → 0 < (call state offered).1
  room_call : ∀ state offered, room (call state offered).2 = room state - (call state offered).1

/-- The result of offering bytes where there is room for the given number of them. -/
def fitResult (bytes : List UInt8) (room : Nat) : Except WriteProblem Unit :=
  if bytes.length ≤ room then .ok () else .error .full

/-- What has become of bytes that a writer was offered. -/
structure Delivery (σ : Type) where
  result : Except WriteProblem Unit
  taken : List UInt8
  state : σ

namespace Writer

/-- Offers bytes, and those that are left of them, until all are taken or a call takes none. -/
def offer (writer : Writer σ) (state : σ) (bytes : List UInt8) : Delivery σ :=
  if bytes = [] then ⟨.ok (), [], state⟩
  else
    let (count, next) := writer.call state bytes
    if count = 0 then ⟨.error .full, [], next⟩
    else
      let rest := writer.offer next (bytes.drop count)
      ⟨rest.result, bytes.take count ++ rest.taken, rest.state⟩
termination_by bytes.length
decreasing_by
  rename_i notEmpty notZero
  rw [List.length_drop]
  exact Nat.sub_lt (List.length_pos_iff.mpr notEmpty) (Nat.pos_of_ne_zero notZero)

/-- Offers the bytes of texts one by one, up to the first that is not taken whole. -/
def offerAll (writer : Writer σ) (state : σ) : List String → Delivery σ
  | [] => ⟨.ok (), [], state⟩
  | text :: rest =>
      let first := writer.offer state (Sink.bytes text)
      match first.result with
      | .ok _ =>
          let later := writer.offerAll first.state rest
          ⟨later.result, first.taken ++ later.taken, later.state⟩
      | .error problem => ⟨.error problem, first.taken, first.state⟩

/-- A writer that takes at most the given number of bytes, and one more, in a call.  Its state is
the room that it has left. -/
def portioned (portion : Nat) : Writer Nat where
  room := id
  call room offered :=
    (min (portion + 1) (min room offered.length),
      room - min (portion + 1) (min room offered.length))
  call_le_length _ _ := Nat.le_trans (Nat.min_le_right _ _) (Nat.min_le_right _ _)
  call_le_room _ _ := Nat.le_trans (Nat.min_le_right _ _) (Nat.min_le_left _ _)
  call_pos _ _ notEmpty hasRoom :=
    Nat.lt_min.mpr ⟨portion.succ_pos, Nat.lt_min.mpr ⟨hasRoom, List.length_pos_iff.mpr notEmpty⟩⟩
  room_call _ _ := rfl

/-- The writer has taken as many of the bytes as it had room for. -/
structure TakesStart (writer : Writer σ) (state : σ) (bytes : List UInt8)
    (delivery : Delivery σ) : Prop where
  taken : delivery.taken = bytes.take (writer.room state)
  result : delivery.result = fitResult bytes (writer.room state)
  room : writer.room delivery.state = writer.room state - bytes.length

variable {writer : Writer σ} {state next : σ} {first second : List UInt8} {count : Nat}
  {early late : Delivery σ}

theorem TakesStart.nil (writer : Writer σ) (state : σ) :
    TakesStart writer state [] ⟨.ok (), [], state⟩ where
  taken := List.take_nil.symm
  result := rfl
  room := rfl

/-- Bytes that fit leave the room that there is for those after them. -/
theorem TakesStart.append (starts : TakesStart writer state first early)
    (fits : first.length ≤ writer.room state)
    (continues : TakesStart writer early.state second late) :
    TakesStart writer state (first ++ second)
      ⟨late.result, early.taken ++ late.taken, late.state⟩ where
  taken := by
    simp only [starts.taken, continues.taken, starts.room]
    rw [List.take_append, List.take_of_length_le fits]
  result := by
    have sameFit : second.length ≤ writer.room state - first.length ↔
        (first ++ second).length ≤ writer.room state := by
      rw [List.length_append]
      omega
    simp only [continues.result, starts.room, fitResult, sameFit]
  room := by
    simp only [continues.room, starts.room, List.length_append]
    omega

/-- After bytes that do not fit there is no room for more. -/
theorem TakesStart.append_of_full (starts : TakesStart writer state first early)
    (noFit : ¬ first.length ≤ writer.room state) (second : List UInt8) :
    TakesStart writer state (first ++ second) ⟨.error .full, early.taken, early.state⟩ where
  taken := by
    have noneLeft : writer.room state - first.length = 0 := by omega
    simp only [starts.taken, List.take_append, noneLeft, List.take_zero, List.append_nil]
  result := by
    rw [fitResult, if_neg]
    rw [List.length_append]
    omega
  room := by
    simp only [starts.room, List.length_append]
    omega

/-- One call takes the start of what it is offered. -/
theorem call_takesStart {bytes : List UInt8} (called : writer.call state bytes = (count, next)) :
    TakesStart writer state (bytes.take count) ⟨.ok (), bytes.take count, next⟩ ∧
      (bytes.take count).length ≤ writer.room state := by
  have countLeLength := writer.call_le_length state bytes
  have countLeRoom := writer.call_le_room state bytes
  have roomAfter := writer.room_call state bytes
  rw [called] at countLeLength countLeRoom roomAfter
  have lengthEq : (bytes.take count).length = count := List.length_take_of_le countLeLength
  have fits : (bytes.take count).length ≤ writer.room state := by
    rw [lengthEq]
    exact countLeRoom
  refine ⟨⟨?_, ?_, ?_⟩, fits⟩
  · exact (List.take_of_length_le fits).symm
  · rw [fitResult, if_pos fits]
  · rw [lengthEq]
    exact roomAfter

/-- However few bytes each call takes, all those are taken that the writer has room for. -/
theorem offer_takesStart (writer : Writer σ) (state : σ) (bytes : List UInt8) :
    TakesStart writer state bytes (writer.offer state bytes) := by
  fun_induction offer writer state bytes with
  | case1 state => exact .nil writer state
  | case2 state bytes notEmpty next called =>
      have noRoom : writer.room state = 0 := by
        by_contra hasRoom
        have taken := writer.call_pos state bytes notEmpty (Nat.pos_of_ne_zero hasRoom)
        rw [called] at taken
        exact Nat.lt_irrefl 0 taken
      have roomAfter := writer.room_call state bytes
      rw [called, noRoom, Nat.zero_sub] at roomAfter
      refine ⟨?_, ?_, ?_⟩
      · rw [noRoom, List.take_zero]
      · have noFit : ¬ bytes.length ≤ 0 := Nat.not_le.mpr (List.length_pos_iff.mpr notEmpty)
        rw [noRoom, fitResult, if_neg noFit]
      · rw [noRoom, Nat.zero_sub]
        exact roomAfter
  | case3 state bytes notEmpty count next called notZero rest ih =>
      obtain ⟨starts, fits⟩ := call_takesStart called
      have whole := starts.append fits ih
      rwa [List.take_append_drop] at whole

/-- It does not matter either in which pieces a text is offered. -/
theorem offerAll_takesStart (writer : Writer σ) (state : σ) (texts : List String) :
    TakesStart writer state (Sink.bytes (String.join texts)) (writer.offerAll state texts) := by
  induction texts generalizing state with
  | nil => exact .nil writer state
  | cons text rest ih =>
      have starts := offer_takesStart writer state (Sink.bytes text)
      have resultEq := starts.result
      rw [String.join_cons, Sink.bytes_append]
      unfold offerAll
      rw [fitResult] at resultEq
      by_cases fits : (Sink.bytes text).length ≤ writer.room state
      · rw [if_pos fits] at resultEq
        simp only [resultEq]
        exact starts.append fits (ih _)
      · rw [if_neg fits] at resultEq
        simp only [resultEq]
        exact starts.append_of_full fits _

end Writer

/-- A sink with a limit takes as much of the texts as fits below the limit. -/
theorem Sink.writeAll_limited (texts : List String) (limit : Nat) (taken : Array UInt8) :
    writeAll ⟨some limit, taken⟩ texts =
      (fitResult (bytes (String.join texts)) (limit - taken.size),
        ⟨some limit, taken ++ (bytes (String.join texts)).take (limit - taken.size)⟩) := by
  induction texts generalizing taken with
  | nil => simp [writeAll, fitResult, bytes_eq_flatMap]
  | cons text rest ih =>
      rw [writeAll, write, String.join_cons, bytes_append, fitResult]
      by_cases fits : (bytes text).length ≤ limit - taken.size
      · have sizeEq : (taken ++ (bytes text).take (limit - taken.size)).size =
            taken.size + (bytes text).length := by
          rw [List.take_of_length_le fits, ← Array.length_toList, Array.toList_appendList,
            List.length_append, Array.length_toList]
        have sameFit :
            (bytes (String.join rest)).length ≤ limit - (taken.size + (bytes text).length) ↔
              (bytes text ++ bytes (String.join rest)).length ≤ limit - taken.size := by
          rw [List.length_append]
          omega
        simp only [if_pos fits, ih, fitResult, sizeEq, sameFit]
        have grown : taken ++ (bytes text).take (limit - taken.size) ++
            (bytes (String.join rest)).take (limit - (taken.size + (bytes text).length)) =
              taken ++ (bytes text ++ bytes (String.join rest)).take (limit - taken.size) :=
          Array.ext' (by
            simp only [Array.toList_appendList, List.append_assoc, List.take_append, Nat.sub_sub])
        rw [grown]
      · have noFit : ¬ (bytes text ++ bytes (String.join rest)).length ≤ limit - taken.size := by
          rw [List.length_append]
          omega
        have noneLeft : limit - taken.size - (bytes text).length = 0 := by omega
        simp only [if_neg fits, if_neg noFit, List.take_append, noneLeft, List.take_zero,
          List.append_nil]

/-- A way to cut the source of every class into texts that are written one by one. -/
structure Cutting where
  fragments : ClassDef → List String
  join_fragments : ∀ classDef, String.join (fragments classDef) = CSharp.source classDef

/-- The cuts after every line. -/
def Cutting.lines : Cutting where
  fragments := CSharp.pieces
  join_fragments _ := rfl

/-- Writes the class of a schema text to a writer, and says what the writer has taken. -/
def generateThrough (writer : Writer σ) (state : σ) (cutting : Cutting)
    (namespaceName fileName text : String) : Except Failure Unit × List UInt8 :=
  match ClassDef.ofText namespaceName fileName text with
  | .error failure => (.error failure, [])
  | .ok classDef =>
      let delivery := writer.offerAll state (cutting.fragments classDef)
      (delivery.result.mapError .write, delivery.taken)

/-- What a run with limited room has done, next to the run with the same inputs that has no
limit. -/
structure LimitedRun (room : Nat) (unlimited : Except Failure Unit × Sink)
    (run : Except Failure Unit × List UInt8) : Prop where
  /-- Where there is nothing to write, nothing has been written. -/
  untouched : ∀ failure, (∀ problem, failure ≠ .write problem) → run.1 = .error failure →
    run.2 = [] ∧ unlimited = (.error failure, Sink.empty none)
  /-- Otherwise the output is cut off where the room ends. -/
  start : (∀ failure, run.1 = .error failure → ∃ problem, failure = .write problem) →
    unlimited.1 = .ok () ∧
      run.2 = unlimited.2.written.take (min room unlimited.2.written.length) ∧
      ((∃ problem, run.1 = .error (.write problem)) ↔ room < unlimited.2.written.length)

variable {namespaceName fileName text : String} {failure : Failure}

/-- Only the writing of a class ends with a failure to write. -/
theorem ClassDef.ofText_ne_write (failed : ofText namespaceName fileName text = .error failure)
    (problem : WriteProblem) : failure ≠ .write problem := by
  rintro rfl
  unfold ofText at failed
  rcases Steps.bind_eq_error_iff.mp failed with unread | ⟨document, -, unmade⟩
  · obtain ⟨refusal, -, failureEq⟩ := Steps.mapError_eq_error_iff.mp unread
    nomatch failureEq
  · split at unmade
    · nomatch ClassDef.ofDocument_fails unmade
    · nomatch unmade

theorem generateThrough_of_ofText {classDef : ClassDef} (writer : Writer σ) (state : σ)
    (cutting : Cutting) (made : ClassDef.ofText namespaceName fileName text = .ok classDef) :
    generateThrough writer state cutting namespaceName fileName text =
      ((fitResult (Sink.bytes (CSharp.source classDef)) (writer.room state)).mapError .write,
        (Sink.bytes (CSharp.source classDef)).take (writer.room state)) := by
  have starts := writer.offerAll_takesStart state (cutting.fragments classDef)
  rw [cutting.join_fragments] at starts
  unfold generateThrough
  simp only [made, starts.result, starts.taken]

theorem generateTo_limited_of_ofText {classDef : ClassDef} (limit : Nat)
    (made : ClassDef.ofText namespaceName fileName text = .ok classDef) :
    generateTo namespaceName fileName text (Sink.empty (some limit)) =
      ((fitResult (Sink.bytes (CSharp.source classDef)) limit).mapError .write,
        ⟨some limit, ((Sink.bytes (CSharp.source classDef)).take limit).toArray⟩) := by
  unfold generateTo
  simp only [made, Sink.empty, Sink.writeAll_limited, CSharp.source, Array.size_empty, Nat.sub_zero,
    Sink.empty_append]

/-- A run that writes as much as fits is cut off where the room ends. -/
theorem limitedRun_of_fit (whole : List UInt8) (room : Nat) :
    LimitedRun room (.ok (), ⟨none, whole.toArray⟩)
      ((fitResult whole room).mapError .write, whole.take room) where
  untouched := by
    intro failure notWriting failed
    obtain ⟨problem, -, rfl⟩ := Steps.mapError_eq_error_iff.mp failed
    exact absurd rfl (notWriting problem)
  start := by
    intro _
    refine ⟨rfl, List.take_eq_take_min, ?_⟩
    change (∃ problem, (fitResult whole room).mapError Failure.write = .error (.write problem)) ↔
      room < whole.length
    rw [fitResult, ← Nat.not_le]
    split
    case isTrue fits =>
      refine iff_of_false ?_ (not_not_intro fits)
      rintro ⟨problem, failed⟩
      cases failed
    case isFalse noFit => exact iff_of_true ⟨.full, rfl⟩ noFit

/-- A writer gets the start of the output for which it has room, whatever its calls take and
wherever the output is cut into pieces.  A sink with a limit is such a writer. -/
theorem generateThrough_limitedRun (writer : Writer σ) (state : σ) (cutting : Cutting)
    (namespaceName fileName text : String) :
    LimitedRun (writer.room state) (generateTo namespaceName fileName text (Sink.empty none))
        (generateThrough writer state cutting namespaceName fileName text) ∧
      generateTo namespaceName fileName text (Sink.empty (some (writer.room state))) =
        ((generateThrough writer state cutting namespaceName fileName text).1,
          ⟨some (writer.room state),
            (generateThrough writer state cutting namespaceName fileName text).2.toArray⟩) := by
  cases made : ClassDef.ofText namespaceName fileName text with
  | error failure =>
      have throughEq : generateThrough writer state cutting namespaceName fileName text =
          (.error failure, []) := by
        unfold generateThrough
        rw [made]
      have toEq : ∀ sink, generateTo namespaceName fileName text sink = (.error failure, sink) := by
        intro sink
        unfold generateTo
        rw [made]
      rw [throughEq, toEq, toEq]
      refine ⟨⟨?_, ?_⟩, rfl⟩
      · rintro _ - ⟨rfl⟩
        exact ⟨rfl, rfl⟩
      · intro onlyWriting
        obtain ⟨problem, isWrite⟩ := onlyWriting failure rfl
        exact absurd isWrite (ClassDef.ofText_ne_write made problem)
  | ok classDef =>
      rw [generateThrough_of_ofText writer state cutting made, generateTo_limited_of_ofText _ made,
        generateTo_unlimited_of_ofText made]
      exact ⟨limitedRun_of_fit _ _, rfl⟩

/-- A schema whose class has nothing but its own name. -/
def emptyObject : String :=
  "\x7b\"type\":\"object\"\x7d"

theorem generateThrough_emptyObject :
    ∃ (problem : WriteProblem) (taken : List UInt8), taken.length = 100 ∧
      generateThrough (Writer.portioned 2) 100 Cutting.lines defaultNamespace "a.schema.json"
        emptyObject = (.error (.write problem), taken) := by
  have made : (generateTo defaultNamespace "a.schema.json" emptyObject
      (Sink.empty none)).1.toOption = some () := by
    decide +kernel
  have longer : 100 < (generateTo defaultNamespace "a.schema.json" emptyObject
      (Sink.empty none)).2.written.length := by
    decide +kernel
  have limited := (generateThrough_limitedRun (Writer.portioned 2) 100 Cutting.lines
    defaultNamespace "a.schema.json" emptyObject).1
  generalize generateTo defaultNamespace "a.schema.json" emptyObject (Sink.empty none) = unlimited
    at made longer limited
  generalize generateThrough (Writer.portioned 2) 100 Cutting.lines defaultNamespace
    "a.schema.json" emptyObject = run at limited ⊢
  obtain ⟨-, takenEq, fails⟩ := limited.start fun failure failed => by
    by_contra notWriting
    obtain ⟨-, unlimitedEq⟩ :=
      limited.untouched failure (fun problem isWrite => notWriting ⟨problem, isWrite⟩) failed
    rw [unlimitedEq] at made
    nomatch made
  obtain ⟨problem, failed⟩ := fails.mpr longer
  refine ⟨problem, run.2, ?_, Prod.ext failed rfl⟩
  rw [takenEq, List.length_take, Nat.min_eq_left (Nat.min_le_right _ _)]
  exact Nat.min_eq_left (Nat.le_of_lt longer)

end SchemaClasses
