import DeviceBrowser.Proofs.Host.Relay
import Mathlib.Data.List.Infix

/-!
A relay and its receiver, turn by turn.

The relay sends its deliveries into a channel with so many places; the receiver takes them out
until it goes away, if it ever does, and then whatever waits in the channel is lost.  The turns
of the two come in any order.  Whatever it is, the relay does what `run` says of it alone, and
the receiver gets what it should.
-/

namespace DeviceBrowser

namespace Relay

inductive Phase where
  | reading
  | sending (delivery : Delivery)
  | stopped
  deriving DecidableEq, Repr

def Phase.afterReading : Read → Phase
  | .data [] => .stopped
  | .data bytes => .sending (.data bytes)
  | .interrupted => .reading
  | .failed fault => .sending (.fault fault)

def Phase.afterSending : Delivery → Phase
  | .data _ => .reading
  | .fault _ => .stopped

def Phase.readsOn : Phase → Bool
  | .reading | .sending (.data _) => true
  | .sending (.fault _) | .stopped => false

theorem Phase.readsOn_afterReading (result : Read) :
    (afterReading result).readsOn = result.goesOn := by
  match result with
  | .data [] | .data (_ :: _) | .interrupted | .failed _ => rfl

theorem Phase.readsOn_afterSending (delivery : Delivery) :
    (afterSending delivery).readsOn = (sending delivery).readsOn := by
  cases delivery <;> rfl

inductive Event where
  | read (result : Read)
  | accepted (delivery : Delivery)
  | refused (delivery : Delivery)
  deriving DecidableEq, Repr

namespace Event

def isRead : Event → Bool
  | .read _ => true
  | .accepted _ | .refused _ => false

def accepted? : Event → Option Delivery
  | .accepted delivery => some delivery
  | .read _ | .refused _ => none

/-- The end or the failure of the source, or the absence of a receiver. -/
def isLast : Event → Bool
  | .read result => !result.goesOn
  | .accepted _ => false
  | .refused _ => true

end Event

/-- A relay, the channel that it sends into, and the receiver at the other end. -/
structure Pipe where
  unread : List Read
  phase : Phase := .reading
  waiting : List Delivery := []
  received : List Delivery := []
  isReceiving : Bool := true
  history : List Event := []
  deriving DecidableEq, Repr

/-- Whose turn it is: the relay goes on, or the receiver takes a delivery or goes away. -/
inductive Turn where
  | relay
  | receive
  | leave
  deriving DecidableEq, Repr

namespace Pipe

def start (requestedSize : Nat) (source : List Read) : Pipe where
  unread := readings requestedSize source

/-- Once the source has nothing more, every read comes to its end. -/
def read (pipe : Pipe) : Pipe :=
  let read := pipe.unread.headD (.data [])
  { pipe with
    unread := pipe.unread.tail
    phase := .afterReading read
    history := pipe.history ++ [.read read] }

def accept (pipe : Pipe) (delivery : Delivery) : Pipe :=
  { pipe with
    phase := .afterSending delivery
    waiting := pipe.waiting ++ [delivery]
    history := pipe.history ++ [.accepted delivery] }

def refuse (pipe : Pipe) (delivery : Delivery) : Pipe :=
  { pipe with phase := .stopped, history := pipe.history ++ [.refused delivery] }

/-- Sending waits for a place in the channel, unless nobody receives any more. -/
def send (capacity : Nat) (pipe : Pipe) (delivery : Delivery) : Pipe :=
  if !pipe.isReceiving then pipe.refuse delivery
  else if pipe.waiting.length < capacity then pipe.accept delivery
  else pipe

def step (capacity : Nat) (pipe : Pipe) : Turn → Pipe
  | .relay =>
      match pipe.phase with
      | .reading => pipe.read
      | .sending delivery => pipe.send capacity delivery
      | .stopped => pipe
  | .receive =>
      match pipe.waiting with
      | [] => pipe
      | delivery :: waiting => { pipe with waiting, received := pipe.received ++ [delivery] }
  | .leave => { pipe with isReceiving := false, waiting := [] }

def after (capacity : Nat) (pipe : Pipe) (turns : List Turn) : Pipe :=
  turns.foldl (step capacity) pipe

inductive Steps (capacity : Nat) (pipe : Pipe) : Turn → Pipe → Prop where
  | reads (reading : pipe.phase = .reading) : Steps capacity pipe .relay pipe.read
  | accepts {delivery} (sending : pipe.phase = .sending delivery) (stays : pipe.isReceiving = true)
      (room : pipe.waiting.length < capacity) : Steps capacity pipe .relay (pipe.accept delivery)
  | refuses {delivery} (sending : pipe.phase = .sending delivery)
      (gone : pipe.isReceiving = false) : Steps capacity pipe .relay (pipe.refuse delivery)
  | waits {delivery} (sending : pipe.phase = .sending delivery) (stays : pipe.isReceiving = true)
      (full : capacity ≤ pipe.waiting.length) : Steps capacity pipe .relay pipe
  | rests (stopped : pipe.phase = .stopped) : Steps capacity pipe .relay pipe
  | lacks (empty : pipe.waiting = []) : Steps capacity pipe .receive pipe
  | takes {delivery waiting} (first : pipe.waiting = delivery :: waiting) :
      Steps capacity pipe .receive { pipe with waiting, received := pipe.received ++ [delivery] }
  | leaves : Steps capacity pipe .leave { pipe with isReceiving := false, waiting := [] }

variable {pipe next : Pipe} {capacity : Nat} {turn : Turn}

theorem steps_step (capacity : Nat) (pipe : Pipe) (turn : Turn) :
    pipe.Steps capacity turn (pipe.step capacity turn) := by
  cases turn with
  | relay =>
      cases phase : pipe.phase with
      | reading => simpa only [step, phase] using .reads phase
      | stopped => simpa only [step, phase] using .rests phase
      | sending delivery =>
          simp only [step, phase, send]
          split
          next gone => exact .refuses phase (by simpa using gone)
          next stays =>
            have stays : pipe.isReceiving = true := by simpa using stays
            split
            next room => exact .accepts phase stays room
            next full => exact .waits phase stays (Nat.le_of_not_lt full)
  | receive =>
      cases waiting : pipe.waiting with
      | nil => simpa only [step, waiting] using .lacks waiting
      | cons delivery rest => simpa only [step, waiting] using .takes waiting
  | leave => exact .leaves

/-- What every turn preserves holds after any turns. -/
theorem after_of_steps (Holds : Pipe → Prop) (initially : Holds pipe)
    (preserved : ∀ {pipe next : Pipe} {turn : Turn}, pipe.Steps capacity turn next →
      Holds pipe → Holds next)
    (turns : List Turn) : Holds (pipe.after capacity turns) :=
  List.foldlRecOn turns (step capacity) initially
    fun pipe holds turn _ => preserved (steps_step capacity pipe turn) holds

theorem after_append (capacity : Nat) (pipe : Pipe) (turns later : List Turn) :
    pipe.after capacity (turns ++ later) = (pipe.after capacity turns).after capacity later :=
  List.foldl_append

section Outcome

def outcome (pipe : Pipe) : Outcome where
  deliveries := pipe.history.filterMap Event.accepted?
  reads := pipe.history.countP Event.isRead

/-- What is still to come of it, when so many more deliveries are taken. -/
def remaining (taken : Option Nat) (pipe : Pipe) : Outcome :=
  match pipe.phase with
  | .reading => relay taken pipe.unread
  | .sending delivery =>
      if isTaken taken then
        match delivery with
        | .data _ =>
            let outcome := relay (afterTaking taken) pipe.unread
            { outcome with deliveries := delivery :: outcome.deliveries }
        | .fault _ => ⟨[delivery], 0⟩
      else ⟨[], 0⟩
  | .stopped => ⟨[], 0⟩

def total (taken : Option Nat) (pipe : Pipe) : Outcome where
  deliveries := pipe.outcome.deliveries ++ (pipe.remaining taken).deliveries
  reads := pipe.outcome.reads + (pipe.remaining taken).reads

@[simp]
theorem outcome_read (pipe : Pipe) :
    pipe.read.outcome = { pipe.outcome with reads := pipe.outcome.reads + 1 } := by
  simp [outcome, read, Event.accepted?, Event.isRead]

@[simp]
theorem outcome_accept (pipe : Pipe) (delivery : Delivery) :
    (pipe.accept delivery).outcome =
      { pipe.outcome with deliveries := pipe.outcome.deliveries ++ [delivery] } := by
  simp [outcome, accept, Event.accepted?, Event.isRead]

@[simp]
theorem outcome_refuse (pipe : Pipe) (delivery : Delivery) :
    (pipe.refuse delivery).outcome = pipe.outcome := by
  simp [outcome, refuse, Event.accepted?, Event.isRead]

theorem total_read (reading : pipe.phase = .reading) (taken : Option Nat) :
    pipe.read.total taken = pipe.total taken := by
  have remaining_eq : pipe.remaining taken =
      { pipe.read.remaining taken with reads := (pipe.read.remaining taken).reads + 1 } := by
    obtain ⟨unread⟩ := pipe
    subst reading
    match unread with
    | [] | .data [] :: _ | .interrupted :: _ => rfl
    | .data (_ :: _) :: _ | .failed _ :: _ =>
        simp only [remaining, read, Phase.afterReading, List.headD_cons, List.tail_cons, relay]
        split <;> rfl
  rw [total, total, outcome_read, remaining_eq]
  simp only [Outcome.mk.injEq, true_and]
  omega

theorem total_accept {delivery : Delivery} (sending : pipe.phase = .sending delivery)
    (taken : Option Nat) :
    (pipe.accept delivery).total taken = pipe.total (taken.map (· + 1)) := by
  have isTaken_succ : isTaken (taken.map (· + 1)) = true := by cases taken <;> rfl
  have afterTaking_succ : afterTaking (taken.map (· + 1)) = taken := by cases taken <;> rfl
  have remaining_eq : pipe.remaining (taken.map (· + 1)) =
      { (pipe.accept delivery).remaining taken with
        deliveries := delivery :: ((pipe.accept delivery).remaining taken).deliveries } := by
    cases delivery <;>
      simp [remaining, accept, Phase.afterSending, sending, isTaken_succ, afterTaking_succ]
  rw [total, total, outcome_accept, remaining_eq]
  simp

theorem total_refuse {delivery : Delivery} (sending : pipe.phase = .sending delivery)
    (taken : Option Nat) : (pipe.refuse delivery).total taken = pipe.total (some 0) := by
  rw [total, total, outcome_refuse]
  simp [remaining, sending, isTaken, refuse]

/-- The relay alone does what has come of it and what is still to come. -/
def Follows (script : List Read) (pipe : Pipe) : Prop :=
  ∀ taken, (pipe.isReceiving = false → taken = some 0) →
    relay (taken.map (· + pipe.outcome.deliveries.length)) script = pipe.total taken

theorem Follows.step {script : List Read} (steps : pipe.Steps capacity turn next)
    (follows : pipe.Follows script) : next.Follows script := by
  intro taken admissible
  cases steps with
  | reads reading =>
      rw [outcome_read, total_read reading]
      exact follows taken admissible
  | accepts sending stays room =>
      -- What is taken from here on was one more before.
      have before := follows (taken.map (· + 1)) (by simp [stays])
      rw [total_accept sending, ← before, outcome_accept, Option.map_map]
      simp [Function.comp_def, Nat.add_assoc, Nat.add_comm 1]
  | refuses sending gone =>
      obtain rfl := admissible gone
      rw [outcome_refuse, total_refuse sending]
      exact follows (some 0) fun _ => rfl
  | waits | rests | lacks | takes => exact follows taken admissible
  -- Nothing is taken any more, which is one of the cases from before.
  | leaves => exact follows taken fun _ => admissible rfl

theorem total_start (requestedSize : Nat) (source : List Read) (taken : Option Nat) :
    (start requestedSize source).total taken = run requestedSize taken source := by
  simp [total, start, outcome, remaining, run, readings]

theorem follows_after (requestedSize capacity : Nat) (source : List Read) (turns : List Turn) :
    ((start requestedSize source).after capacity turns).Follows
      (readings requestedSize source) := by
  refine after_of_steps (Follows _) (fun taken _ => ?_) Follows.step turns
  rw [total_start]
  cases taken <;> rfl

theorem Follows.outcome_prefix {script : List Read} (follows : pipe.Follows script) :
    pipe.outcome.deliveries <+: (relay none script).deliveries := by
  have sofar := congrArg Outcome.deliveries (follows (some 0) fun _ => rfl)
  rw [Option.map_some, deliveries_relay_some] at sofar
  exact (List.prefix_append _ _).trans (sofar ▸ List.take_prefix _ _)

theorem total_of_stopped (stopped : pipe.phase = .stopped) (taken : Option Nat) :
    pipe.total taken = pipe.outcome := by
  simp [total, remaining, stopped]

theorem Follows.relay_eq {script : List Read} (follows : pipe.Follows script)
    (stopped : pipe.phase = .stopped) (taken : Option Nat)
    (admissible : pipe.isReceiving = false → taken = some 0) :
    relay (taken.map (· + pipe.outcome.deliveries.length)) script = pipe.outcome :=
  (follows taken admissible).trans (total_of_stopped stopped taken)

end Outcome

/-- The receiver gets what is accepted, in the same order, and all of it while it stays. -/
structure Ordered (pipe : Pipe) : Prop where
  begins : pipe.received ++ pipe.waiting <+: pipe.outcome.deliveries
  whole : pipe.isReceiving = true → pipe.received ++ pipe.waiting = pipe.outcome.deliveries

theorem Ordered.step (steps : pipe.Steps capacity turn next) (ordered : pipe.Ordered) :
    next.Ordered := by
  obtain ⟨begins, whole⟩ := ordered
  cases steps with
  | reads => constructor <;> rw [outcome_read] <;> assumption
  | refuses => constructor <;> rw [outcome_refuse] <;> assumption
  | @accepts delivery sending stays room =>
      have same : (pipe.accept delivery).received ++ (pipe.accept delivery).waiting =
          (pipe.accept delivery).outcome.deliveries := by
        rw [outcome_accept, ← whole stays]
        exact (List.append_assoc ..).symm
      exact ⟨same ▸ List.prefix_rfl, fun _ => same⟩
  | @takes delivery waiting first =>
      have same : pipe.received ++ [delivery] ++ waiting = pipe.received ++ pipe.waiting := by
        rw [first, List.append_assoc, List.singleton_append]
      exact ⟨same ▸ begins, fun stays => same.trans (whole stays)⟩
  | leaves =>
      refine ⟨?_, nofun⟩
      rw [List.append_nil]
      exact (List.prefix_append _ _).trans begins
  | waits | rests | lacks => exact ⟨begins, whole⟩

theorem ordered_after (requestedSize capacity : Nat) (source : List Read) (turns : List Turn) :
    ((start requestedSize source).after capacity turns).Ordered :=
  after_of_steps Ordered ⟨List.prefix_rfl, fun _ => rfl⟩ Ordered.step turns

/-- After the end or the failure of the source, or a delivery that is refused, nothing is read. -/
structure Ceases (phase : Phase) (history : List Event) : Prop where
  ordered : history.Pairwise fun earlier later => earlier.isLast = true → later.isRead = false
  forGood : ∀ event ∈ history, event.isLast = true → phase.readsOn = false

theorem Ceases.concat {phase later : Phase} {history : List Event} {event : Event}
    (ceases : Ceases phase history) (timely : event.isRead = true → phase.readsOn = true)
    (kept : phase.readsOn = false → later.readsOn = false)
    (ended : event.isLast = true → later.readsOn = false) :
    Ceases later (history ++ [event]) := by
  constructor
  · refine List.pairwise_append.mpr ⟨ceases.ordered, List.pairwise_singleton _ _, ?_⟩
    intro earlier before _ now last
    rw [List.mem_singleton.mp now, ← Bool.not_eq_true]
    intro isRead
    exact Bool.false_ne_true ((ceases.forGood earlier before last).symm.trans (timely isRead))
  · intro other present last
    rcases List.mem_append.mp present with before | now
    · exact kept (ceases.forGood other before last)
    · exact ended (List.mem_singleton.mp now ▸ last)

theorem Ceases.step (steps : pipe.Steps capacity turn next)
    (ceases : Ceases pipe.phase pipe.history) : Ceases next.phase next.history := by
  cases steps with
  | reads reading =>
      have may : pipe.phase.readsOn = true := by rw [reading]; rfl
      refine ceases.concat (fun _ => may) (by simp [may]) fun last => ?_
      exact (Phase.readsOn_afterReading _).trans (by simpa [Event.isLast] using last)
  | @accepts delivery sending stays room =>
      refine ceases.concat nofun (fun stops => ?_) nofun
      exact (Phase.readsOn_afterSending delivery).trans (sending ▸ stops)
  | refuses sending gone => exact ceases.concat nofun (fun _ => rfl) fun _ => rfl
  | waits | rests | lacks | takes | leaves => exact ceases

theorem ceases_after (requestedSize capacity : Nat) (source : List Read) (turns : List Turn) :
    Ceases ((start requestedSize source).after capacity turns).phase
      ((start requestedSize source).after capacity turns).history :=
  after_of_steps (fun pipe => Ceases pipe.phase pipe.history)
    ⟨List.Pairwise.nil, fun _ present => (List.not_mem_nil present).elim⟩ Ceases.step turns

structure IsDone (pipe : Pipe) : Prop where
  stopped : pipe.phase = .stopped
  stays : pipe.isReceiving = true
  empty : pipe.waiting = []

structure Conveys (requestedSize : Nat) (source : List Read) (pipe : Pipe) : Prop where
  /-- Parts of the buffer with the first bytes of the source, and a failure only after all of
  them. -/
  received : ∃ (blocks : List (List UInt8)) (faults : List SystemFault),
    pipe.received = blocks.map .data ++ faults.map .fault ∧
    (∀ block ∈ blocks, block ≠ [] ∧ block.length ≤ max 1 requestedSize) ∧
    blocks.flatten <+: content source ∧
    (faults ≠ [] ∨ pipe.IsDone →
      blocks.flatten = content source ∧ faults = (lastFault? source).toList)
  uninterrupted : pipe.received <+:
      (run requestedSize none (source.filter (· != .interrupted))).deliveries ∧
    (pipe.IsDone → pipe.received =
      (run requestedSize none (source.filter (· != .interrupted))).deliveries)
  /-- Nothing is read after the end or the failure of the source, or a delivery that is
  refused. -/
  readsNoMore : pipe.history.Pairwise fun earlier later =>
    earlier.isLast = true → later.isRead = false
  /-- A relay that has stopped has done what it does alone. -/
  alone : pipe.phase = .stopped → ∃ taken, run requestedSize taken source = pipe.outcome ∧
    (pipe.isReceiving = true → taken = none)

theorem conveys_after (requestedSize capacity : Nat) (source : List Read) (turns : List Turn) :
    ((start requestedSize source).after capacity turns).Conveys requestedSize source := by
  have follows := follows_after requestedSize capacity source turns
  have ordered := ordered_after requestedSize capacity source turns
  have ceases := ceases_after requestedSize capacity source turns
  generalize (start requestedSize source).after capacity turns = pipe at *
  have begins : pipe.received <+: (run requestedSize none source).deliveries :=
    ((List.prefix_append _ _).trans ordered.begins).trans follows.outcome_prefix
  have done : pipe.IsDone → pipe.received = (run requestedSize none source).deliveries := by
    rintro ⟨stopped, stays, empty⟩
    have whole := ordered.whole stays
    rw [empty, List.append_nil] at whole
    rw [whole, ← follows.relay_eq stopped none (by simp [stays])]
    rfl
  constructor
  case received =>
    rw [deliveries_run_none] at begins done
    obtain ⟨blocks, faults, same, within, last⟩ := exists_blocks_of_prefix begins
    have content_eq : (pieces (readings requestedSize source)).flatten = content source :=
      (flatten_pieces _).trans (content_throughBuffer (bufferSize_pos requestedSize) source)
    refine ⟨blocks, faults, same, fun block present => ?_, ?_, fun ended => ?_⟩
    · exact fits_of_mem_pieces_readings requestedSize source (within.mem present)
    · exact content_eq ▸ within.flatten
    · obtain ⟨allBlocks, allFaults⟩ := last (ended.imp_right done)
      exact ⟨allBlocks ▸ content_eq, allFaults⟩
  case uninterrupted =>
    rw [deliveries_run_filter]
    exact ⟨begins, done⟩
  case readsNoMore => exact ceases.ordered
  case alone =>
    intro stopped
    cases stays : pipe.isReceiving with
    | true => exact ⟨none, follows.relay_eq stopped none (by simp [stays]), fun _ => rfl⟩
    | false => exact ⟨_, follows.relay_eq stopped (some 0) fun _ => rfl, nofun⟩

end Pipe

end Relay

end DeviceBrowser
