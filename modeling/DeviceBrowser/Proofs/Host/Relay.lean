import DeviceBrowser.Host.Relay
import Mathlib.Data.List.Basic

/-!
What a relay passes on.

A source is read up to its first end or failure.  Its bytes before that are passed on, cut to the
size of the buffer, and then the failure if there is one.
-/

namespace DeviceBrowser

namespace Read

def goesOn : Read → Bool
  | .data bytes => !bytes.isEmpty
  | .interrupted => true
  | .failed _ => false

theorem goesOn_data {bytes : List UInt8} (filled : bytes ≠ []) : (data bytes).goesOn = true := by
  simpa [goesOn] using filled

def bytes : Read → List UInt8
  | .data bytes => bytes
  | .interrupted | .failed _ => []

def fault? : Read → Option SystemFault
  | .failed fault => some fault
  | .data _ | .interrupted => none

end Read

namespace Relay

/-- The bytes that a source yields before its first end or failure. -/
def content (source : List Read) : List UInt8 :=
  (source.takeWhile Read.goesOn).flatMap Read.bytes

/-- The failure of a source, unless it comes to its end first. -/
def lastFault? (source : List Read) : Option SystemFault :=
  (source.find? (!Read.goesOn ·)).bind Read.fault?

variable {size : Nat}

section Blocks

theorem flatten_blocks (size : Nat) (bytes : List UInt8) : (blocks size bytes).flatten = bytes := by
  fun_induction blocks size bytes with
  | case1 => rfl
  | case2 first rest inductionHypothesis =>
      rw [List.flatten_cons, inductionHypothesis, List.cons_append, List.take_append_drop]

theorem fits_of_mem_blocks (positive : 0 < size) {bytes block : List UInt8}
    (present : block ∈ blocks size bytes) : block ≠ [] ∧ block.length ≤ size := by
  fun_induction blocks size bytes with
  | case1 => cases present
  | case2 first rest inductionHypothesis =>
      rcases List.mem_cons.mp present with rfl | later
      · refine ⟨List.cons_ne_nil _ _, ?_⟩
        rw [List.length_cons, List.length_take]
        omega
      · exact inductionHypothesis later

end Blocks

section ThroughBuffer

theorem throughBuffer_cases (size : Nat) (read : Read) :
    (∃ bytes, bytes ≠ [] ∧ read = .data bytes ∧
      Read.throughBuffer size read = (blocks size bytes).map .data) ∨
      read.bytes = [] ∧ Read.throughBuffer size read = [read] := by
  match read with
  | .data [] | .interrupted | .failed _ => exact .inr ⟨rfl, rfl⟩
  | .data (first :: rest) => exact .inl ⟨first :: rest, List.cons_ne_nil _ _, rfl, rfl⟩

theorem goesOn_of_mem_throughBuffer {read part : Read}
    (present : part ∈ Read.throughBuffer size read) (positive : 0 < size) :
    part.goesOn = read.goesOn := by
  rcases throughBuffer_cases size read with ⟨bytes, filled, rfl, cut⟩ | ⟨-, same⟩
  · rw [cut] at present
    obtain ⟨block, listed, rfl⟩ := List.mem_map.mp present
    rw [Read.goesOn_data filled, Read.goesOn_data (fits_of_mem_blocks positive listed).1]
  · rw [same] at present
    rw [List.mem_singleton.mp present]

theorem throughBuffer_of_not_goesOn {read : Read} (stops : read.goesOn = false) :
    Read.throughBuffer size read = [read] := by
  rcases throughBuffer_cases size read with ⟨bytes, filled, rfl, -⟩ | ⟨-, same⟩
  · rw [Read.goesOn_data filled] at stops
    cases stops
  · exact same

theorem flatMap_bytes_throughBuffer (size : Nat) (read : Read) :
    (Read.throughBuffer size read).flatMap Read.bytes = read.bytes := by
  rcases throughBuffer_cases size read with ⟨bytes, -, rfl, cut⟩ | ⟨-, same⟩
  · rw [cut, List.flatMap_map]
    exact List.flatMap_id'.trans (flatten_blocks size bytes)
  · rw [same, List.flatMap_singleton]

theorem fits_of_mem_throughBuffer (positive : 0 < size) {read part : Read}
    (present : part ∈ Read.throughBuffer size read) (filled : part.bytes ≠ []) :
    part.bytes.length ≤ size := by
  rcases throughBuffer_cases size read with ⟨bytes, -, rfl, cut⟩ | ⟨empty, same⟩
  · rw [cut] at present
    obtain ⟨block, listed, rfl⟩ := List.mem_map.mp present
    exact (fits_of_mem_blocks positive listed).2
  · rw [same] at present
    rw [List.mem_singleton.mp present] at filled
    exact absurd empty filled

theorem interrupted_mem_throughBuffer {read : Read}
    (present : .interrupted ∈ Read.throughBuffer size read) : read = .interrupted := by
  rcases throughBuffer_cases size read with ⟨bytes, -, rfl, cut⟩ | ⟨-, same⟩
  · rw [cut] at present
    obtain ⟨block, -, wrong⟩ := List.mem_map.mp present
    cases wrong
  · rw [same] at present
    exact (List.mem_singleton.mp present).symm

end ThroughBuffer

theorem takeWhile_throughBuffer (positive : 0 < size) (source : List Read) :
    (source.flatMap (Read.throughBuffer size)).takeWhile Read.goesOn =
      (source.takeWhile Read.goesOn).flatMap (Read.throughBuffer size) := by
  induction source with
  | nil => rfl
  | cons read source inductionHypothesis =>
      rw [List.flatMap_cons]
      cases stops : read.goesOn with
      | false =>
          rw [throughBuffer_of_not_goesOn stops]
          simp [stops]
      | true =>
          have goOn : ∀ part ∈ Read.throughBuffer size read, part.goesOn = true :=
            fun part present => (goesOn_of_mem_throughBuffer present positive).trans stops
          rw [List.takeWhile_append_of_pos goOn, inductionHypothesis,
            List.takeWhile_cons_of_pos stops, List.flatMap_cons]

theorem content_throughBuffer (positive : 0 < size) (source : List Read) :
    content (source.flatMap (Read.throughBuffer size)) = content source := by
  rw [content, takeWhile_throughBuffer positive, List.flatMap_assoc]
  simp only [flatMap_bytes_throughBuffer]
  rfl

theorem lastFault?_throughBuffer (positive : 0 < size) (source : List Read) :
    lastFault? (source.flatMap (Read.throughBuffer size)) = lastFault? source := by
  unfold lastFault?
  induction source with
  | nil => rfl
  | cons read source inductionHypothesis =>
      rw [List.flatMap_cons]
      cases stops : read.goesOn with
      | false =>
          rw [throughBuffer_of_not_goesOn stops]
          simp [stops]
      | true =>
          have goOn : ∀ part ∈ Read.throughBuffer size read, ¬ (!part.goesOn) = true := by
            intro part present
            simp [goesOn_of_mem_throughBuffer present positive, stops]
          rw [List.find?_append, List.find?_eq_none.mpr goOn, Option.none_or, inductionHypothesis,
            List.find?_cons_of_neg (by simp [stops])]

section Deliveries

def pieces (source : List Read) : List (List UInt8) :=
  ((source.takeWhile Read.goesOn).map Read.bytes).filter (!·.isEmpty)

theorem flatten_pieces (source : List Read) : (pieces source).flatten = content source := by
  rw [pieces, List.flatten_filter_not_isEmpty]
  rfl

/-- A receiver that stays gets the pieces of the source, and then its failure. -/
theorem deliveries_relay_none (source : List Read) :
    (relay none source).deliveries =
      (pieces source).map .data ++ (lastFault? source).toList.map .fault := by
  unfold pieces lastFault?
  induction source with
  | nil => rfl
  | cons read rest inductionHypothesis =>
      match read with
      | .data [] | .failed fault => rfl
      | .data (first :: more) =>
          simp only [relay, isTaken, afterTaking, Option.map_none, ↓reduceIte, inductionHypothesis]
          rfl
      | .interrupted => exact inductionHypothesis

/-- A receiver that goes away has taken what came first. -/
theorem deliveries_relay_some (taken : Nat) (source : List Read) :
    (relay (some taken) source).deliveries = (relay none source).deliveries.take taken := by
  induction source generalizing taken with
  | nil => exact List.take_nil.symm
  | cons read rest inductionHypothesis =>
      match read with
      | .data [] => exact List.take_nil.symm
      | .interrupted => exact inductionHypothesis taken
      | .failed fault => cases taken <;> simp [relay, isTaken]
      | .data (first :: more) =>
          cases taken with
          | zero => simp [relay, isTaken]
          | succ taken => simp [relay, isTaken, afterTaking, inductionHypothesis]

theorem deliveries_relay_filter (taken : Option Nat) (source : List Read) :
    (relay taken (source.filter (· != .interrupted))).deliveries =
      (relay taken source).deliveries := by
  induction source generalizing taken with
  | nil => rfl
  | cons read rest inductionHypothesis =>
      match read with
      | .data [] | .failed fault => rfl
      | .data (first :: more) =>
          rw [List.filter_cons_of_pos (by simp), relay.eq_3 _ _ _ (List.cons_ne_nil _ _),
            relay.eq_3 _ _ _ (List.cons_ne_nil _ _)]
          split
          next => exact congrArg (Delivery.data (first :: more) :: ·) (inductionHypothesis _)
          next => rfl
      | .interrupted => exact inductionHypothesis taken

end Deliveries

section Run

/-- The reads through the buffer, until the source has nothing more. -/
def readings (requestedSize : Nat) (source : List Read) : List Read :=
  source.flatMap (Read.throughBuffer (bufferSize requestedSize))

theorem bufferSize_pos (requestedSize : Nat) : 0 < bufferSize requestedSize :=
  Nat.le_max_left 1 requestedSize

theorem fits_of_mem_pieces_readings (requestedSize : Nat) (source : List Read)
    {piece : List UInt8} (present : piece ∈ pieces (readings requestedSize source)) :
    piece ≠ [] ∧ piece.length ≤ bufferSize requestedSize := by
  obtain ⟨listed, filled⟩ := List.mem_filter.mp present
  obtain ⟨part, taken, rfl⟩ := List.mem_map.mp listed
  obtain ⟨read, -, cut⟩ := List.mem_flatMap.mp ((List.takeWhile_sublist _).mem taken)
  have filled : part.bytes ≠ [] := by simpa using filled
  exact ⟨filled, fits_of_mem_throughBuffer (bufferSize_pos requestedSize) cut filled⟩

theorem deliveries_run_none (requestedSize : Nat) (source : List Read) :
    (run requestedSize none source).deliveries =
      (pieces (readings requestedSize source)).map .data ++
        (lastFault? source).toList.map .fault := by
  rw [← lastFault?_throughBuffer (bufferSize_pos requestedSize)]
  exact deliveries_relay_none _

/-- What begins like all blocks and then a failure is only some of the blocks, or everything. -/
theorem exists_blocks_of_prefix {whole : List (List UInt8)} {fault? : Option SystemFault}
    {deliveries : List Delivery}
    (begins : deliveries <+: whole.map .data ++ fault?.toList.map .fault) :
    ∃ (blocks : List (List UInt8)) (faults : List SystemFault),
      deliveries = blocks.map .data ++ faults.map .fault ∧ blocks <+: whole ∧
      (faults ≠ [] ∨ deliveries = whole.map .data ++ fault?.toList.map .fault →
        blocks = whole ∧ faults = fault?.toList) := by
  have single : fault?.toList.length ≤ 1 := Option.length_toList_le
  have taken := List.prefix_iff_eq_take.mp begins
  refine ⟨whole.take deliveries.length, fault?.toList.take (deliveries.length - whole.length), ?_,
    List.take_prefix _ _, fun last => ?_⟩
  · rw [List.map_take, List.map_take]
    rwa [List.take_append, List.length_map] at taken
  · have enough : whole.length + fault?.toList.length ≤ deliveries.length := by
      rcases last with failed | all
      · have beyond : 0 < deliveries.length - whole.length :=
          Nat.pos_of_ne_zero fun zero => failed (by rw [zero, List.take_zero])
        omega
      · simp [all]
    exact ⟨List.take_of_length_le (by omega), List.take_of_length_le (by omega)⟩

theorem readings_filter (requestedSize : Nat) (source : List Read) :
    readings requestedSize (source.filter (· != .interrupted)) =
      (readings requestedSize source).filter (· != .interrupted) := by
  induction source with
  | nil => rfl
  | cons read rest inductionHypothesis =>
      by_cases interrupted : read = .interrupted
      · subst interrupted
        exact inductionHypothesis
      · have kept : ∀ part ∈ Read.throughBuffer (bufferSize requestedSize) read,
            (part != .interrupted) = true := by
          intro part present
          refine bne_iff_ne.mpr fun same => interrupted ?_
          exact interrupted_mem_throughBuffer (same ▸ present)
        rw [List.filter_cons, if_pos (bne_iff_ne.mpr interrupted)]
        unfold readings at inductionHypothesis ⊢
        rw [List.flatMap_cons, List.flatMap_cons, List.filter_append, List.filter_eq_self.mpr kept,
          inductionHypothesis]

theorem deliveries_run_filter (requestedSize : Nat) (taken : Option Nat) (source : List Read) :
    (run requestedSize taken (source.filter (· != .interrupted))).deliveries =
      (run requestedSize taken source).deliveries := by
  rw [run, ← readings, readings_filter, deliveries_relay_filter]
  rfl

end Run

end Relay

end DeviceBrowser
