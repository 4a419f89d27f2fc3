import DeviceBrowser.Proofs.Host.Channel

/-!
A receiver that stays gets everything.

As long as neither the relay nor its receiver is held up for good, their turns bring them to an
end.  With the right turns this is any end that the relay comes to alone.
-/

namespace DeviceBrowser

namespace Relay

/-- The turns that a phase can still be moved by, at most, with so much unread: one to read, one
to send and one to receive for each read, and a last one to find the end. -/
def Phase.left (unread : Nat) : Phase → Nat
  | .reading => 3 * unread + 1
  | .sending _ => 3 * unread + 3
  | .stopped => 0

theorem Phase.left_afterReading_le (result : Read) (unread : Nat) :
    (afterReading result).left unread ≤ 3 * unread + 3 := by
  match result with
  | .data [] => exact Nat.zero_le _
  | .data (_ :: _) | .failed _ => exact Nat.le_refl _
  | .interrupted => exact Nat.add_le_add_left (by decide) _

theorem Phase.left_afterSending_le (delivery : Delivery) (unread : Nat) :
    (afterSending delivery).left unread ≤ 3 * unread + 1 := by
  cases delivery with
  | data => exact Nat.le_refl _
  | fault => exact Nat.zero_le _

namespace Pipe

variable {pipe next : Pipe} {capacity : Nat} {turn : Turn}

def left (pipe : Pipe) : Nat :=
  pipe.phase.left pipe.unread.length + pipe.waiting.length

theorem left_read (reading : pipe.phase = .reading) : pipe.read.left < pipe.left := by
  obtain ⟨unread⟩ := pipe
  subst reading
  apply Nat.add_lt_add_right
  cases unread with
  | nil => exact Nat.one_pos
  | cons result rest =>
      exact Nat.lt_succ_of_le (Phase.left_afterReading_le result rest.length)

theorem left_accept {delivery : Delivery} (sending : pipe.phase = .sending delivery) :
    (pipe.accept delivery).left < pipe.left := by
  have most := Phase.left_afterSending_le delivery pipe.unread.length
  have before : pipe.phase.left pipe.unread.length = 3 * pipe.unread.length + 3 := by
    rw [sending]
    rfl
  simp only [left, accept, List.length_append, List.length_singleton]
  omega

theorem left_receive (waits : pipe.waiting ≠ []) :
    (pipe.step capacity .receive).left < pipe.left := by
  cases waiting : pipe.waiting with
  | nil => exact absurd waiting waits
  | cons delivery rest => simp [step, left, waiting]

/-- A turn that moves nothing leaves everything as it is. -/
theorem step_eq_or_left_lt (capacity : Nat) (pipe : Pipe) (stays : turn ≠ .leave) :
    pipe.step capacity turn = pipe ∨ (pipe.step capacity turn).left < pipe.left := by
  have steps := steps_step capacity pipe turn
  generalize pipe.step capacity turn = next at steps
  cases steps with
  | reads reading => exact .inr (left_read reading)
  | accepts sending => exact .inr (left_accept sending)
  | refuses sending => right; simp [Pipe.left, refuse, sending, Phase.left]
  | takes first => right; simp [Pipe.left, first]
  | waits | rests | lacks => exact .inl rfl
  | leaves => exact absurd rfl stays

/-- While something is left and the receiver stays, one of the two can move it. -/
theorem exists_left_lt (positive : 0 < capacity) (stays : pipe.isReceiving = true)
    (remains : pipe.left ≠ 0) :
    (pipe.step capacity .relay).left < pipe.left ∨
      (pipe.step capacity .receive).left < pipe.left := by
  by_cases waits : pipe.waiting = []
  · left
    cases phase : pipe.phase with
    | reading => simpa only [step, phase] using left_read phase
    | sending delivery =>
        simpa [step, phase, send, stays, waits, positive] using left_accept phase
    | stopped => simp [Pipe.left, phase, waits, Phase.left] at remains
  · exact .inr (left_receive waits)

theorem isReceiving_after {turns : List Turn} (stays : .leave ∉ turns) :
    (pipe.after capacity turns).isReceiving = pipe.isReceiving := by
  induction turns generalizing pipe with
  | nil => rfl
  | cons turn turns inductionHypothesis =>
      rw [List.mem_cons, not_or] at stays
      refine (inductionHypothesis stays.2).trans ?_
      have steps := steps_step capacity pipe turn
      generalize pipe.step capacity turn = next at steps
      cases steps with
      | leaves => exact absurd rfl stays.1
      | reads | accepts | refuses | takes | waits | rests | lacks => rfl

theorem after_eq_or_left_lt {turns : List Turn} (capacity : Nat) (pipe : Pipe)
    (stays : .leave ∉ turns) :
    (pipe.after capacity turns = pipe ∧ ∀ turn ∈ turns, pipe.step capacity turn = pipe) ∨
      (pipe.after capacity turns).left < pipe.left := by
  induction turns generalizing pipe with
  | nil => exact .inl ⟨rfl, nofun⟩
  | cons turn turns inductionHypothesis =>
      rw [List.mem_cons, not_or] at stays
      change (after capacity (pipe.step capacity turn) turns = pipe ∧ _) ∨
        (after capacity (pipe.step capacity turn) turns).left < pipe.left
      rcases step_eq_or_left_lt capacity pipe (Ne.symm stays.1) with same | less
      · rw [same]
        exact (inductionHypothesis pipe stays.2).imp_left fun ⟨kept, idle⟩ =>
          ⟨kept, List.forall_mem_cons.mpr ⟨same, idle⟩⟩
      · right
        rcases inductionHypothesis (pipe.step capacity turn) stays.2 with ⟨kept, -⟩ | lesser
        · rwa [kept]
        · exact lesser.trans less

/-- Each of the two has a turn, and the receiver stays. -/
structure IsRound (turns : List Turn) : Prop where
  relays : .relay ∈ turns
  receives : .receive ∈ turns
  stays : .leave ∉ turns

theorem left_after_round {turns : List Turn} (positive : 0 < capacity)
    (stays : pipe.isReceiving = true) (round : IsRound turns) :
    (pipe.after capacity turns).left ≤ pipe.left - 1 := by
  rcases after_eq_or_left_lt capacity pipe round.stays with ⟨same, idle⟩ | less
  · have nothing : pipe.left = 0 := by
      by_contra remains
      rcases exists_left_lt positive stays remains with less | less
      · exact absurd less (by rw [idle _ round.relays]; exact Nat.lt_irrefl _)
      · exact absurd less (by rw [idle _ round.receives]; exact Nat.lt_irrefl _)
    rw [same, nothing]
  · exact Nat.le_sub_one_of_lt less

theorem left_after_rounds {rounds : List (List Turn)} (positive : 0 < capacity)
    (stays : pipe.isReceiving = true) (each : ∀ round ∈ rounds, IsRound round) :
    (pipe.after capacity rounds.flatten).left ≤ pipe.left - rounds.length := by
  induction rounds generalizing pipe with
  | nil => exact Nat.le_refl _
  | cons round rounds inductionHypothesis =>
      obtain ⟨first, rest⟩ := List.forall_mem_cons.mp each
      have less := left_after_round positive stays first
      have still : (pipe.after capacity round).isReceiving = true :=
        (isReceiving_after first.stays).trans stays
      have later := inductionHypothesis still rest
      rw [List.flatten_cons, after_append, List.length_cons]
      omega

theorem isDone_of_left (stays : pipe.isReceiving = true) (nothing : pipe.left = 0) :
    pipe.IsDone := by
  obtain ⟨noneLeft, empty⟩ := Nat.add_eq_zero_iff.mp nothing
  refine ⟨?_, stays, List.length_eq_zero_iff.mp empty⟩
  cases phase : pipe.phase with
  | stopped => rfl
  | reading | sending => simp [phase, Phase.left] at noneLeft

/-- A receiver that stays gets everything, as long as the turns go round. -/
theorem isDone_after {requestedSize : Nat} {source : List Read} {turns : List Turn}
    {rounds : List (List Turn)} (positive : 0 < capacity) (stays : .leave ∉ turns)
    (each : ∀ round ∈ rounds, IsRound round)
    (enough : 3 * (readings requestedSize source).length < rounds.length) :
    ((start requestedSize source).after capacity (turns ++ rounds.flatten)).IsDone := by
  have receiving : ((start requestedSize source).after capacity turns).isReceiving = true :=
    isReceiving_after stays
  have atStart : (start requestedSize source).left =
      3 * (readings requestedSize source).length + 1 := rfl
  have notMore : ((start requestedSize source).after capacity turns).left ≤
      (start requestedSize source).left := by
    rcases after_eq_or_left_lt capacity (start requestedSize source) stays with ⟨same, -⟩ | less
    · rw [same]
    · exact less.le
  have atEnd := left_after_rounds positive receiving each
  rw [after_append]
  refine isDone_of_left ?_ (by omega)
  rw [isReceiving_after, receiving]
  intro among
  obtain ⟨round, present, leaves⟩ := List.mem_flatten.mp among
  exact (each round present).stays leaves

section Adequacy

/-- Whether some turns bring the relay to an end at which so many more deliveries are taken. -/
def Reaches (capacity : Nat) (taken : Option Nat) (pipe : Pipe) : Prop :=
  ∃ turns, (pipe.after capacity turns).phase = .stopped ∧
    (pipe.after capacity turns).outcome = pipe.total taken

theorem Reaches.of_after {taken later : Option Nat} {turns : List Turn}
    (reaches : next.Reaches capacity later) (reached : pipe.after capacity turns = next)
    (same : next.total later = pipe.total taken) : pipe.Reaches capacity taken := by
  obtain ⟨more, stopped, outcome_eq⟩ := reaches
  refine ⟨turns ++ more, ?_, ?_⟩
  · rwa [after_append, reached]
  · rw [after_append, reached, outcome_eq, same]

theorem Reaches.of_stopped (stopped : pipe.phase = .stopped) (taken : Option Nat) :
    pipe.Reaches capacity taken :=
  ⟨[], stopped, (total_of_stopped stopped taken).symm⟩

theorem map_succ_afterTaking {taken : Option Nat} (takes : isTaken taken = true) :
    (afterTaking taken).map (· + 1) = taken := by
  match taken with
  | none | some (_ + 1) => rfl
  | some 0 => cases takes

theorem eq_some_zero_of_isTaken {taken : Option Nat} (refuses : isTaken taken = false) :
    taken = some 0 := by
  match taken with
  | some 0 => rfl
  | none | some (_ + 1) => cases refuses

theorem reaches_of_isReceiving (positive : 0 < capacity) (stays : pipe.isReceiving = true)
    (empty : pipe.waiting = []) (taken : Option Nat) : pipe.Reaches capacity taken := by
  -- A relay that has not stopped can always be moved, and less is left then.
  induction much : pipe.left using Nat.strongRecOn generalizing pipe taken with
  | ind much inductionHypothesis =>
    subst much
    cases phase : pipe.phase with
    | stopped => exact .of_stopped phase taken
    | reading =>
        have read : pipe.after capacity [.relay] = pipe.read := by simp [after, step, phase]
        have receiving : pipe.read.isReceiving = true := stays
        exact (inductionHypothesis _ (left_read phase) receiving empty taken rfl).of_after
          read (total_read phase taken)
    | sending delivery =>
        cases takes : isTaken taken with
        | false =>
            obtain rfl := eq_some_zero_of_isTaken takes
            have refused : pipe.after capacity [.leave, .relay] =
                { pipe.refuse delivery with isReceiving := false, waiting := [] } := by
              simp [after, step, phase, send, refuse]
            exact (Reaches.of_stopped rfl (some 0)).of_after refused (total_refuse phase (some 0))
        | true =>
            let next : Pipe :=
              { pipe.accept delivery with waiting := [], received := pipe.received ++ [delivery] }
            have passed : pipe.after capacity [.relay, .receive] = next := by
              simp [next, after, step, phase, send, stays, empty, positive, accept]
            have less : next.left < pipe.left :=
              (Nat.add_le_add_left (Nat.zero_le _) _).trans_lt (left_accept phase)
            have receiving : next.isReceiving = true := stays
            have same : next.total (afterTaking taken) = pipe.total taken := by
              rw [← map_succ_afterTaking takes, ← total_accept phase, map_succ_afterTaking takes]
              rfl
            exact (inductionHypothesis _ less receiving rfl (afterTaking taken) rfl).of_after
              passed same

theorem exists_after_eq_run (positive : 0 < capacity) (requestedSize : Nat) (taken : Option Nat)
    (source : List Read) :
    ∃ turns, ((start requestedSize source).after capacity turns).phase = .stopped ∧
      ((start requestedSize source).after capacity turns).outcome =
        run requestedSize taken source := by
  have stays : (start requestedSize source).isReceiving = true := rfl
  rw [← total_start]
  exact reaches_of_isReceiving positive stays rfl taken

end Adequacy

/-- However the turns come, the receiver gets what it should.  It gets all of it if it stays, as
long as both go on; and there are turns for everything that the relay does alone. -/
theorem conveys_and_isDone (requestedSize capacity : Nat) (source : List Read)
    (turns : List Turn) :
    ((start requestedSize source).after capacity turns).Conveys requestedSize source ∧
      (0 < capacity → .leave ∉ turns → ∀ rounds : List (List Turn),
        (∀ round ∈ rounds, IsRound round) →
        3 * (readings requestedSize source).length < rounds.length →
        ((start requestedSize source).after capacity (turns ++ rounds.flatten)).IsDone) ∧
      (0 < capacity → ∀ taken, ∃ turns,
        ((start requestedSize source).after capacity turns).phase = .stopped ∧
        ((start requestedSize source).after capacity turns).outcome =
          run requestedSize taken source) :=
  ⟨conveys_after requestedSize capacity source turns,
    fun positive stays _ each enough => isDone_after positive stays each enough,
    fun positive taken => exists_after_eq_run positive requestedSize taken source⟩

theorem conveys_and_isDone_of_failure :
    (∃ blocks : List (List UInt8),
      ((start 2 [.data [1, 2, 3], .interrupted, .failed ⟨.other, "gone"⟩, .data [4]]).after 1
        (List.replicate 16 [.relay, .receive]).flatten).received =
          blocks.map .data ++ [.fault ⟨.other, "gone"⟩] ∧ blocks.flatten = [1, 2, 3]) ∧
      ∃ turns,
        ((start 2 [.data [1, 2, 3], .interrupted, .failed ⟨.other, "gone"⟩, .data [4]]).after 1
          turns).outcome = ⟨[.data [1, 2]], 2⟩ := by
  have promised := conveys_and_isDone 2 1
    [.data [1, 2, 3], .interrupted, .failed ⟨.other, "gone"⟩, .data [4]]
  constructor
  · have done := (promised []).2.1 (by decide) (by decide) (List.replicate 16 [.relay, .receive])
      (fun round present => by
        rw [List.eq_of_mem_replicate present]
        exact ⟨by decide, by decide, by decide⟩)
      (by simp [readings, Read.throughBuffer, bufferSize, blocks])
    obtain ⟨blocks, faults, same, -, -, all⟩ := (promised _).1.received
    obtain ⟨bytes, failures⟩ := all (.inr done)
    obtain rfl : faults = [⟨.other, "gone"⟩] := failures
    exact ⟨blocks, same, bytes⟩
  · obtain ⟨turns, -, same⟩ := (promised []).2.2 (by decide) (some 1)
    refine ⟨turns, same.trans ?_⟩
    simp [run, Read.throughBuffer, bufferSize, blocks, relay, isTaken, afterTaking]

end Pipe

end Relay

end DeviceBrowser
