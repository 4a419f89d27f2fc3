import DeviceBrowser.Proofs.Text.Search
import DeviceBrowser.Session.Framing

/-!
Framing does not depend on how a shell's output is cut into deliveries.

A framing state together with the bytes that are still to be looked at stands for the state
that has received them all.  Looking for an answer in deliveries of data finds what cutting
that state finds, and leaves a state and deliveries that stand for its rest.
-/

namespace DeviceBrowser.Framing

open Text

variable {framing rest : Framing} {marker answer : List UInt8}

/-- Nothing is kept while the end of a marker's line is still being skipped. -/
def Settled (framing : Framing) : Prop :=
  framing.skipsLineEnd = true → framing.pending = []

theorem settled_fresh : Settled {} := fun _ => rfl

theorem skipLineEnd_settled (framing : Framing) : framing.skipLineEnd.Settled := by
  unfold skipLineEnd
  split
  · split <;> simp [Settled]
  · simp_all [Settled]

theorem skipLineEnd_of_settled (settled : framing.Settled) : framing.skipLineEnd = framing := by
  obtain ⟨pending, skipsLineEnd⟩ := framing
  cases skipsLineEnd with
  | false => rfl
  | true =>
      have empty : pending = [] := settled rfl
      subst empty
      rfl

theorem receive_settled (framing : Framing) (bytes : List UInt8) :
    (framing.receive bytes).Settled :=
  skipLineEnd_settled _

@[simp]
theorem receive_nil (framing : Framing) : framing.receive [] = framing.skipLineEnd := by
  simp [receive]

theorem receive_of_not_skipping (pending bytes : List UInt8) :
    receive ⟨pending, false⟩ bytes = ⟨pending ++ bytes, false⟩ := rfl

theorem skipLineEnd_return (pending : List UInt8) :
    skipLineEnd ⟨carriageReturn :: pending, true⟩ = skipLineEnd ⟨pending, true⟩ := rfl

theorem skipLineEnd_feed (pending : List UInt8) :
    skipLineEnd ⟨lineFeed :: pending, true⟩ = ⟨pending, false⟩ := rfl

theorem skipLineEnd_visible {byte : UInt8} (noReturn : byte ≠ carriageReturn)
    (noFeed : byte ≠ lineFeed) (pending : List UInt8) :
    skipLineEnd ⟨byte :: pending, true⟩ = ⟨byte :: pending, false⟩ := by
  simp [skipLineEnd, noReturn, noFeed]

/-- Skipping a line end as far as it has come does not change what more bytes lead to. -/
@[simp]
theorem skipLineEnd_receive (framing : Framing) (bytes : List UInt8) :
    framing.skipLineEnd.receive bytes = framing.receive bytes := by
  obtain ⟨pending, skipsLineEnd⟩ := framing
  cases skipsLineEnd with
  | false => rfl
  | true =>
      induction pending with
      | nil => rfl
      | cons byte pending inductionHypothesis =>
          by_cases isReturn : byte = carriageReturn
          · subst isReturn
            rw [skipLineEnd_return, inductionHypothesis]
            simp only [receive, List.cons_append, skipLineEnd_return]
          · by_cases isFeed : byte = lineFeed
            · subst isFeed
              simp only [receive, List.cons_append, skipLineEnd_feed]
              rfl
            · simp only [receive, List.cons_append, skipLineEnd_visible isReturn isFeed]
              rfl

/-- The state after some bytes does not depend on the deliveries that brought them. -/
theorem receive_receive (framing : Framing) (first second : List UInt8) :
    (framing.receive first).receive second = framing.receive (first ++ second) := by
  calc
    _ = receive ⟨framing.pending ++ first, framing.skipsLineEnd⟩ second := skipLineEnd_receive _ _
    _ = framing.receive (first ++ second) := by simp only [receive, List.append_assoc]

/-- An answer may be cut off from any place on before which its marker does not begin. -/
theorem cut?_eq_of_clear {place : Nat} (within : place ≤ framing.pending.length)
    (clear : ∀ earlier < place, ¬ marker <+: framing.pending.drop earlier) :
    framing.cut? marker place = framing.cut? marker 0 := by
  simp only [cut?, List.drop_zero, Nat.zero_add, firstIndex?_eq_map_drop within clear,
    Option.map_map]
  rfl

theorem cut?_eq_none_iff {place : Nat} :
    framing.cut? marker place = none ↔ firstIndex? marker (framing.pending.drop place) = none := by
  simp [cut?]

theorem cut?_receive (settled : framing.Settled) (nonempty : marker ≠ [])
    (found : framing.cut? marker 0 = some (answer, rest)) (bytes : List UInt8) :
    (framing.receive bytes).cut? marker 0 = some (answer, rest.receive bytes) := by
  obtain ⟨pending, skipsLineEnd⟩ := framing
  simp only [cut?, List.drop_zero, Nat.zero_add, Option.map_eq_some_iff, Prod.mk.injEq] at found
  obtain ⟨index, place, rfl, rfl⟩ := found
  have room := (firstIndex?_eq_some_iff.mp place).2.1.length_le
  have filled : 0 < marker.length := List.length_pos_iff.mpr nonempty
  rw [List.length_drop] at room
  have current : skipsLineEnd = false := by
    cases skipsLineEnd with
    | false => rfl
    | true =>
        have empty : pending = [] := settled rfl
        simp only [empty, List.length_nil] at room
        omega
  subst current
  rw [receive_of_not_skipping]
  simp only [cut?, List.drop_zero, Nat.zero_add, firstIndex?_append place bytes, Option.map_some,
    skipLineEnd_receive]
  rw [List.take_append_of_le_length (by omega), List.drop_append_of_le_length (by omega)]
  rfl

theorem cut?_settled {place : Nat} (found : framing.cut? marker place = some (answer, rest)) :
    rest.Settled := by
  simp only [cut?, Option.map_eq_some_iff, Prod.mk.injEq] at found
  obtain ⟨_, _, _, rfl⟩ := found
  exact skipLineEnd_settled _

theorem clear_receive (settled : framing.Settled) (missing : framing.cut? marker 0 = none)
    (bytes : List UInt8) :
    framing.rescanPlace marker ≤ (framing.receive bytes).pending.length ∧
      ∀ earlier < framing.rescanPlace marker,
        ¬ marker <+: (framing.receive bytes).pending.drop earlier := by
  obtain ⟨pending, skipsLineEnd⟩ := framing
  cases skipsLineEnd with
  | true =>
      have empty : pending = [] := settled rfl
      simp [rescanPlace, empty]
  | false =>
      rw [cut?_eq_none_iff, List.drop_zero] at missing
      simp only [rescanPlace, receive_of_not_skipping, List.length_append]
      constructor
      · omega
      · intro earlier before begins
        change earlier < pending.length - (marker.length - 1) at before
        have present : marker <+: pending.drop earlier :=
          prefix_drop_of_append begins (by omega)
        exact firstIndex?_eq_none_iff.mp missing earlier present

theorem searchFrom_data (nonempty : marker ≠ []) (ending : List Delivery)
    (chunks : List (List UInt8)) {place : Nat} (settled : framing.Settled)
    (within : place ≤ framing.pending.length)
    (clear : ∀ earlier < place, ¬ marker <+: framing.pending.drop earlier)
    (found : (framing.receive chunks.flatten).cut? marker 0 = some (answer, rest)) :
    ∃ (remaining : Framing) (left : List (List UInt8)),
      searchFrom marker framing place (chunks.map .data ++ ending) =
        ⟨.ok answer, remaining, left.map .data ++ ending⟩ ∧
      remaining.Settled ∧ remaining.receive left.flatten = rest := by
  induction chunks generalizing framing place with
  | nil =>
      rw [List.flatten_nil, receive_nil, skipLineEnd_of_settled settled] at found
      refine ⟨rest, [], ?_, cut?_settled found, ?_⟩
      · rw [searchFrom.eq_def, cut?_eq_of_clear within clear, found]
      · rw [List.flatten_nil, receive_nil, skipLineEnd_of_settled (cut?_settled found)]
  | cons chunk chunks inductionHypothesis =>
      rw [List.flatten_cons] at found
      rw [searchFrom.eq_def, cut?_eq_of_clear within clear]
      cases here : framing.cut? marker 0 with
      | some pair =>
          obtain ⟨early, remaining⟩ := pair
          have whole := cut?_receive settled nonempty here (chunk ++ chunks.flatten)
          rw [found, Option.some.injEq, Prod.mk.injEq] at whole
          obtain ⟨rfl, rfl⟩ := whole
          exact ⟨remaining, chunk :: chunks, rfl, cut?_settled here, rfl⟩
      | none =>
          obtain ⟨reach, absent⟩ := clear_receive settled here chunk
          rw [← receive_receive] at found
          exact inductionHypothesis (receive_settled _ _) reach absent found

/-- Looking through deliveries of data finds the answer that the whole of them holds, and
leaves what stands for the rest. -/
theorem search_data (nonempty : marker ≠ []) (settled : framing.Settled)
    (ending : List Delivery) (chunks : List (List UInt8))
    (found : (framing.receive chunks.flatten).cut? marker 0 = some (answer, rest)) :
    ∃ (remaining : Framing) (left : List (List UInt8)),
      framing.search marker (chunks.map .data ++ ending) =
        ⟨.ok answer, remaining, left.map .data ++ ending⟩ ∧
      remaining.Settled ∧ remaining.receive left.flatten = rest := by
  rw [search, skipLineEnd_of_settled settled]
  exact searchFrom_data nonempty ending chunks settled (Nat.zero_le _)
    (fun _ before => absurd before (Nat.not_lt_zero _)) found

theorem exists_of_searchFrom {deliveries unread : List Delivery} {place : Nat}
    (settled : framing.Settled) (within : place ≤ framing.pending.length)
    (clear : ∀ earlier < place, ¬ marker <+: framing.pending.drop earlier)
    (searched : searchFrom marker framing place deliveries = ⟨.ok answer, rest, unread⟩) :
    ∃ chunks : List (List UInt8), deliveries = chunks.map .data ++ unread ∧
      (framing.receive chunks.flatten).cut? marker 0 = some (answer, rest) := by
  induction deliveries generalizing framing place with
  | nil =>
      rw [searchFrom.eq_def, cut?_eq_of_clear within clear] at searched
      cases here : framing.cut? marker 0 with
      | none => simp [here] at searched
      | some pair =>
          simp only [here, Search.mk.injEq, Except.ok.injEq] at searched
          obtain ⟨rfl, rfl, rfl⟩ := searched
          exact ⟨[], rfl, by rwa [List.flatten_nil, receive_nil, skipLineEnd_of_settled settled]⟩
  | cons delivery deliveries inductionHypothesis =>
      rw [searchFrom.eq_def, cut?_eq_of_clear within clear] at searched
      cases here : framing.cut? marker 0 with
      | some pair =>
          simp only [here, Search.mk.injEq, Except.ok.injEq] at searched
          obtain ⟨rfl, rfl, rfl⟩ := searched
          exact ⟨[], rfl, by rwa [List.flatten_nil, receive_nil, skipLineEnd_of_settled settled]⟩
      | none =>
          rw [here] at searched
          cases delivery with
          | fault fault => simp at searched
          | data bytes =>
              obtain ⟨reach, absent⟩ := clear_receive settled here bytes
              obtain ⟨chunks, rfl, cut⟩ :=
                inductionHypothesis (receive_settled _ _) reach absent searched
              refine ⟨bytes :: chunks, rfl, ?_⟩
              rwa [List.flatten_cons, ← receive_receive]

theorem exists_of_search {deliveries unread : List Delivery} (settled : framing.Settled)
    (searched : framing.search marker deliveries = ⟨.ok answer, rest, unread⟩) :
    ∃ chunks : List (List UInt8), deliveries = chunks.map .data ++ unread ∧
      (framing.receive chunks.flatten).cut? marker 0 = some (answer, rest) := by
  rw [search, skipLineEnd_of_settled settled] at searched
  exact exists_of_searchFrom settled (Nat.zero_le _)
    (fun _ before => absurd before (Nat.not_lt_zero _)) searched

def IsLineEndRun (bytes : List UInt8) : Prop :=
  ∃ returns : Nat, bytes = List.replicate returns carriageReturn ∨
    bytes = List.replicate returns carriageReturn ++ [lineFeed]

theorem exists_skipped (stream : List UInt8) (afterMarker : Bool) :
    ∃ skipped, stream = skipped ++ (skipLineEnd ⟨stream, afterMarker⟩).pending ∧
      IsLineEndRun skipped ∧ (afterMarker = false → skipped = []) := by
  cases afterMarker with
  | false => exact ⟨[], rfl, ⟨0, .inl rfl⟩, fun _ => rfl⟩
  | true =>
      induction stream with
      | nil => exact ⟨[], rfl, ⟨0, .inl rfl⟩, fun _ => rfl⟩
      | cons byte stream inductionHypothesis =>
          by_cases isReturn : byte = carriageReturn
          · obtain ⟨skipped, split, ⟨returns, run⟩, -⟩ := inductionHypothesis
            rw [isReturn, skipLineEnd_return]
            refine ⟨carriageReturn :: skipped, congrArg _ split, ⟨returns + 1, ?_⟩, by rintro ⟨⟩⟩
            exact run.imp (congrArg _) (congrArg _)
          · by_cases isFeed : byte = lineFeed
            · rw [isFeed, skipLineEnd_feed]
              exact ⟨[lineFeed], rfl, ⟨0, .inr rfl⟩, by rintro ⟨⟩⟩
            · rw [skipLineEnd_visible isReturn isFeed]
              exact ⟨[], rfl, ⟨0, .inl rfl⟩, by rintro ⟨⟩⟩

/-- An answer is a slice of the stream: the end of an earlier marker's line stands before it,
if there was such a marker, and its own marker after it. -/
theorem exists_of_cut? {stream : List UInt8} {afterMarker : Bool}
    (found : (skipLineEnd ⟨stream, afterMarker⟩).cut? marker 0 = some (answer, rest)) :
    ∃ skipped late, stream = skipped ++ (answer ++ (marker ++ late)) ∧ IsLineEndRun skipped ∧
      (afterMarker = false → skipped = []) ∧ rest = skipLineEnd ⟨late, true⟩ := by
  obtain ⟨skipped, split, run, fresh⟩ := exists_skipped stream afterMarker
  simp only [cut?, List.drop_zero, Nat.zero_add, Option.map_eq_some_iff, Prod.mk.injEq] at found
  obtain ⟨index, place, rfl, rfl⟩ := found
  refine ⟨skipped, _, ?_, run, fresh, rfl⟩
  rwa [← eq_append_of_firstIndex? place]

end DeviceBrowser.Framing
