import DeviceBrowser.Proofs.Session.Framing
import DeviceBrowser.Session.Basic

/-!
Reading the answers of a stream that comes to an end.

`wholeAnswers` says what the answers are, looking at the whole stream at once.  Reading the
stream from deliveries, one marker after another, gives the same answers and the same failure
however the stream is cut, and no scan begins outside of the bytes that are held.
-/

namespace DeviceBrowser.Framing

open Calendar Text

inductive StreamEnd where
  | closed
  | broken (fault : SystemFault)
  deriving DecidableEq, Repr

namespace StreamEnd

def deliveries : StreamEnd → List Delivery
  | .closed => []
  | .broken fault => [.fault fault]

def gap : StreamEnd → Gap
  | .closed => .exhausted
  | .broken fault => .fault fault

def failure : StreamEnd → Failure
  | .closed => .outputEnded
  | .broken fault => .system fault

theorem gapFailure_gap (timeout : Span) (ending : StreamEnd) :
    Session.gapFailure timeout .closed ending.gap = ending.failure := by
  cases ending <;> rfl

end StreamEnd

def delivered (chunks : List (List UInt8)) (ending : StreamEnd) : List Delivery :=
  chunks.map .data ++ ending.deliveries

/-- Leave out a run of carriage returns and then one line feed at most. -/
def dropLineEnd (stream : List UInt8) : List UInt8 :=
  let rest := stream.dropWhile (· == 0x0D)
  if rest.head? = some 0x0A then rest.tail else rest

def earliest? (marker stream : List UInt8) : Option Nat :=
  (List.range (stream.length + 1)).find? fun place => marker.isPrefixOf (stream.drop place)

/-- The answers in a whole stream, up to the first whose marker is missing.  The stream may
begin with the end of an earlier marker's line. -/
def wholeAnswers (failure : Failure) (afterMarker : Bool) (stream : List UInt8) :
    List (List UInt8) → List (Except Failure (List UInt8))
  | [] => []
  | marker :: markers =>
      let text := if afterMarker then dropLineEnd stream else stream
      match earliest? marker text with
      | none => [.error failure]
      | some place =>
          .ok (text.take place) ::
            wholeAnswers failure true (text.drop (place + marker.length)) markers

/-- Look for markers one after another, up to the first that is missing. -/
def readAll (timeout : Span) (framing : Framing) (deliveries : List Delivery) :
    List (List UInt8) → List (Except Failure (List UInt8))
  | [] => []
  | marker :: markers =>
      let found := framing.search marker deliveries
      match found.answer with
      | .error gap => [.error (Session.gapFailure timeout .closed gap)]
      | .ok answer => .ok answer :: readAll timeout found.framing found.unread markers

/-- The search on a buffer that cannot be read from a place beyond its end. -/
def guardedSearchFrom? (marker : List UInt8) (framing : Framing) (place : Nat)
    (deliveries : List Delivery) : Option Search :=
  if framing.pending.length < place then none
  else
    match framing.cut? marker place with
    | some (answer, framing) => some ⟨.ok answer, framing, deliveries⟩
    | none =>
        match deliveries with
        | [] => some ⟨.error .exhausted, framing, []⟩
        | .fault fault :: rest => some ⟨.error (.fault fault), framing, rest⟩
        | .data bytes :: rest =>
            guardedSearchFrom? marker (framing.receive bytes) (framing.rescanPlace marker) rest

def guardedSearch? (framing : Framing) (marker : List UInt8) (deliveries : List Delivery) :
    Option Search :=
  guardedSearchFrom? marker framing.skipLineEnd 0 deliveries

variable {framing : Framing} {marker : List UInt8}

theorem earliest?_eq_firstIndex? (marker stream : List UInt8) :
    earliest? marker stream = firstIndex? marker stream := by
  cases found : firstIndex? marker stream with
  | none =>
      rw [firstIndex?_eq_none_iff] at found
      rw [earliest?, List.find?_eq_none]
      intro place _ begins
      exact found place (List.isPrefixOf_iff_prefix.mp begins)
  | some index =>
      obtain ⟨within, begins, first⟩ := firstIndex?_eq_some_iff.mp found
      rw [earliest?, List.find?_range_eq_some]
      refine ⟨List.isPrefixOf_iff_prefix.mpr begins, by simp; omega, ?_⟩
      intro earlier before
      rw [Bool.not_eq_true', ← Bool.not_eq_true, List.isPrefixOf_iff_prefix]
      exact first earlier before

theorem pending_skipLineEnd (stream : List UInt8) (afterMarker : Bool) :
    (skipLineEnd ⟨stream, afterMarker⟩).pending =
      if afterMarker then dropLineEnd stream else stream := by
  cases afterMarker with
  | false => rfl
  | true =>
      unfold skipLineEnd dropLineEnd
      simp only [if_true, carriageReturn, lineFeed]
      cases stream.dropWhile (· == 0x0D) with
      | nil => rfl
      | cons head tail => by_cases isFeed : head = 0x0A <;> simp [isFeed]

theorem searchFrom_missing (nonempty : marker ≠ []) (ending : StreamEnd)
    (chunks : List (List UInt8)) {place : Nat}
    (settled : framing.Settled) (within : place ≤ framing.pending.length)
    (clear : ∀ earlier < place, ¬ marker <+: framing.pending.drop earlier)
    (missing : (framing.receive chunks.flatten).cut? marker 0 = none) :
    searchFrom marker framing place (delivered chunks ending) =
      ⟨.error ending.gap, framing.receive chunks.flatten, []⟩ := by
  induction chunks generalizing framing place with
  | nil =>
      rw [List.flatten_nil, receive_nil, skipLineEnd_of_settled settled] at missing ⊢
      rw [searchFrom.eq_def, cut?_eq_of_clear within clear, missing]
      cases ending <;> rfl
  | cons chunk chunks inductionHypothesis =>
      rw [List.flatten_cons] at missing ⊢
      have here : framing.cut? marker 0 = none := by
        cases early : framing.cut? marker 0 with
        | none => rfl
        | some pair =>
            rw [cut?_receive settled nonempty early] at missing
            cases missing
      obtain ⟨reach, absent⟩ := clear_receive settled here chunk
      rw [← receive_receive] at missing ⊢
      rw [searchFrom.eq_def, cut?_eq_of_clear within clear, here]
      exact inductionHypothesis (receive_settled _ _) reach absent missing

theorem guardedSearchFrom?_eq {place : Nat} {deliveries : List Delivery}
    (settled : framing.Settled) (within : place ≤ framing.pending.length)
    (clear : ∀ earlier < place, ¬ marker <+: framing.pending.drop earlier) :
    guardedSearchFrom? marker framing place deliveries =
      some (searchFrom marker framing place deliveries) := by
  induction deliveries generalizing framing place with
  | nil =>
      rw [guardedSearchFrom?, searchFrom.eq_def, if_neg (Nat.not_lt.mpr within)]
      cases framing.cut? marker place <;> rfl
  | cons delivery rest inductionHypothesis =>
      rw [guardedSearchFrom?.eq_def, searchFrom.eq_def, if_neg (Nat.not_lt.mpr within)]
      cases here : framing.cut? marker place with
      | some pair => rfl
      | none =>
          cases delivery with
          | fault fault => rfl
          | data bytes =>
              rw [cut?_eq_of_clear within clear] at here
              obtain ⟨reach, absent⟩ := clear_receive settled here bytes
              exact inductionHypothesis (receive_settled _ _) reach absent

theorem guardedSearch?_eq (framing : Framing) (marker : List UInt8) (deliveries : List Delivery) :
    framing.guardedSearch? marker deliveries = some (framing.search marker deliveries) :=
  guardedSearchFrom?_eq (skipLineEnd_settled framing) (Nat.zero_le _)
    fun _ before => absurd before (Nat.not_lt_zero _)

/-- What has come stands for the rest of a stream, and so the answers that are read are those
of the rest. -/
theorem readAll_of_stands (timeout : Span) (ending : StreamEnd) {markers : List (List UInt8)}
    (nonempty : ∀ marker ∈ markers, marker ≠ []) {chunks : List (List UInt8)}
    {stream : List UInt8} {afterMarker : Bool} (settled : framing.Settled)
    (stands : framing.receive chunks.flatten = skipLineEnd ⟨stream, afterMarker⟩) :
    readAll timeout framing (delivered chunks ending) markers =
      wholeAnswers ending.failure afterMarker stream markers := by
  induction markers generalizing framing chunks stream afterMarker with
  | nil => rfl
  | cons marker markers inductionHypothesis =>
      have filled : marker ≠ [] := nonempty marker List.mem_cons_self
      have later : ∀ marker ∈ markers, marker ≠ [] := fun marker listed =>
        nonempty marker (List.mem_cons_of_mem _ listed)
      have text := pending_skipLineEnd stream afterMarker
      rw [← stands] at text
      rw [wholeAnswers, earliest?_eq_firstIndex?, ← text]
      cases found : firstIndex? marker (framing.receive chunks.flatten).pending with
      | none =>
          have missing : (framing.receive chunks.flatten).cut? marker 0 = none :=
            cut?_eq_none_iff.mpr found
          have searched : framing.search marker (delivered chunks ending) =
              ⟨.error ending.gap, framing.receive chunks.flatten, []⟩ := by
            rw [search, skipLineEnd_of_settled settled]
            exact searchFrom_missing filled ending chunks settled (Nat.zero_le _)
              (fun _ before => absurd before (Nat.not_lt_zero _)) missing
          simp [readAll, searched, StreamEnd.gapFailure_gap]
      | some index =>
          have cut : (framing.receive chunks.flatten).cut? marker 0 =
              some ((framing.receive chunks.flatten).pending.take index, skipLineEnd
                ⟨(framing.receive chunks.flatten).pending.drop (index + marker.length), true⟩) := by
            simp only [cut?, List.drop_zero, found, Option.map_some, Nat.zero_add]
          obtain ⟨remaining, left, searched, resettled, rest⟩ :=
            search_data filled settled ending.deliveries chunks cut
          have answers := inductionHypothesis later resettled rest
          rw [delivered] at answers ⊢
          simp [readAll, searched, answers]

/-- However a stream is cut into chunks, the answers that are read from it, up to the first
failure, are those that are seen in the whole of it; and no search leaves its buffer. -/
theorem readAll_delivered (timeout : Span) (ending : StreamEnd) {markers : List (List UInt8)}
    (nonempty : ∀ marker ∈ markers, marker ≠ []) {chunks others : List (List UInt8)}
    (same : chunks.flatten = others.flatten) :
    readAll timeout {} (delivered chunks ending) markers =
        readAll timeout {} (delivered others ending) markers ∧
      readAll timeout {} (delivered chunks ending) markers =
        wholeAnswers ending.failure false chunks.flatten markers ∧
      ∀ framing marker deliveries,
        guardedSearch? framing marker deliveries = some (framing.search marker deliveries) := by
  have whole : ∀ chunks : List (List UInt8),
      readAll timeout {} (delivered chunks ending) markers =
        wholeAnswers ending.failure false chunks.flatten markers := fun chunks =>
    readAll_of_stands timeout ending nonempty settled_fresh rfl
  refine ⟨?_, whole chunks, guardedSearch?_eq⟩
  calc
    _ = wholeAnswers ending.failure false chunks.flatten markers := whole chunks
    _ = wholeAnswers ending.failure false others.flatten markers := by rw [same]
    _ = _ := (whole others).symm

/-- The first marker overlaps a copy of itself, and the second one is cut short. -/
theorem readAll_delivered_overlapping :
    let markers := ["__0__", "__1__"].map fun marker => Utf8.encode marker.toList
    let chunks := ["x__0", "", "__0__\r", "\ny__1_"].map fun chunk => Utf8.encode chunk.toList
    let others := [Utf8.encode "x__0__0__\r\ny__1_".toList]
    (∀ marker ∈ markers, marker ≠ []) ∧ chunks.flatten = others.flatten ∧
      readAll Session.defaultTimeout {} (delivered chunks .closed) markers =
        readAll Session.defaultTimeout {} (delivered others .closed) markers ∧
      readAll Session.defaultTimeout {} (delivered chunks .closed) markers =
        wholeAnswers (StreamEnd.failure .closed) false chunks.flatten markers ∧
      ∀ framing marker deliveries,
        guardedSearch? framing marker deliveries = some (framing.search marker deliveries) := by
  intro markers chunks others
  have nonempty : ∀ marker ∈ markers, marker ≠ [] := by decide
  have same : chunks.flatten = others.flatten := by decide
  exact ⟨nonempty, same, readAll_delivered Session.defaultTimeout .closed nonempty same⟩

end DeviceBrowser.Framing
