import DeviceBrowser.Proofs.Host.Act

/-!
Hosts under observation.

An observed host answers as the host itself does, and keeps a record of what happens to
children.  What holds of the record on every host holds whatever the children do.  A host with a
log keeps instead of that which programs were run to their end and what that end was.
-/

namespace DeviceBrowser

variable {World : Type}

inductive HostEvent where
  | launched (child : Child)
  | submitted (child : Child) (text : String)
  | released (child : Child)
  | ran (invocation : Invocation)
  deriving DecidableEq, Repr

/-- A world with what has happened in it so far, latest first. -/
structure Observed (World : Type) where
  world : World
  events : List HostEvent := []

/-- The children that were launched and have not been released since. -/
def held : List HostEvent → List Child
  | [] => []
  | .launched child :: earlier => child :: held earlier
  | .released child :: earlier => (held earlier).erase child
  | .submitted _ _ :: earlier | .ran _ :: earlier => held earlier

def written : List HostEvent → List String
  | [] => []
  | .submitted _ text :: earlier => text :: written earlier
  | .launched _ :: earlier | .released _ :: earlier | .ran _ :: earlier => written earlier

theorem held_map_ran (invocations : List Invocation) (events : List HostEvent) :
    held (invocations.map .ran ++ events) = held events := by
  induction invocations with
  | nil => rfl
  | cons invocation invocations inductionHypothesis => exact inductionHypothesis

theorem written_map_ran (invocations : List Invocation) (events : List HostEvent) :
    written (invocations.map .ran ++ events) = written events := by
  induction invocations with
  | nil => rfl
  | cons invocation invocations inductionHypothesis => exact inductionHypothesis

theorem written_map_released (children : List Child) (events : List HostEvent) :
    written (children.map .released ++ events) = written events := by
  induction children with
  | nil => rfl
  | cons child children inductionHypothesis => exact inductionHypothesis

def OnlyRan (watched later : Observed World) : Prop :=
  ∃ invocations : List Invocation, later.events = invocations.map .ran ++ watched.events

namespace OnlyRan

variable {watched middle later : Observed World}

theorem refl (watched : Observed World) : OnlyRan watched watched :=
  ⟨[], rfl⟩

theorem trans (first : OnlyRan watched middle) (second : OnlyRan middle later) :
    OnlyRan watched later := by
  obtain ⟨early, before⟩ := first
  obtain ⟨late, after⟩ := second
  refine ⟨late ++ early, ?_⟩
  rw [after, before, List.map_append, List.append_assoc]

theorem held_eq (quiet : OnlyRan watched later) : held later.events = held watched.events := by
  obtain ⟨invocations, events⟩ := quiet
  rw [events, held_map_ran]

theorem written_eq (quiet : OnlyRan watched later) :
    written later.events = written watched.events := by
  obtain ⟨invocations, events⟩ := quiet
  rw [events, written_map_ran]

end OnlyRan

namespace Host

def observed (host : Host World) : Host (Observed World) where
  clock watched :=
    let (clock, world) := host.clock watched.world
    (clock, { watched with world })
  launch launch watched :=
    match host.launch launch watched.world with
    | (.ok child, world) => (.ok child, ⟨world, .launched child :: watched.events⟩)
    | (.error fault, world) => (.error fault, { watched with world })
  submit child text watched :=
    let (answer, world) := host.submit child text watched.world
    (answer, ⟨world, .submitted child text :: watched.events⟩)
  release child watched :=
    let ((), world) := host.release child watched.world
    ((), ⟨world, .released child :: watched.events⟩)
  run invocation limit watched :=
    let (completion, world) := host.run invocation limit watched.world
    (completion, ⟨world, .ran invocation :: watched.events⟩)

variable (host : Host World) (watched : Observed World)

theorem clock_ensures :
    Act.Ensures (liftM host.observed.clock) watched fun _ later =>
      later.events = watched.events :=
  .lift rfl

theorem launch_ensures (launch : Launch) :
    Act.Ensures (liftM (host.observed.launch launch)) watched fun answer later =>
      later.events = match answer with
        | .ok child => .launched child :: watched.events
        | .error _ => watched.events := by
  refine .lift ?_
  simp only [observed]
  rcases host.launch launch watched.world with ⟨_ | child, world⟩ <;> rfl

theorem release_ensures (child : Child) :
    Act.Ensures (liftM (host.observed.release child)) watched fun _ later =>
      later.events = .released child :: watched.events :=
  .lift rfl

theorem run_ensures (invocation : Invocation) (limit : Calendar.Span) :
    Act.Ensures (liftM (host.observed.run invocation limit)) watched fun _ later =>
      OnlyRan watched later :=
  .lift ⟨[invocation], rfl⟩

variable {host watched} {later : Observed World}

theorem events_of_clock {clock : Clock} (told : host.observed.clock watched = (clock, later)) :
    later.events = watched.events :=
  (congrArg (·.2.events) told).symm

theorem events_of_submit {child : Child} {text : String} {answer : Except SystemFault Arrivals}
    (written : host.observed.submit child text watched = (answer, later)) :
    later.events = .submitted child text :: watched.events :=
  (congrArg (·.2.events) written).symm

end Host

structure ProgramRun where
  invocation : Invocation
  limit : Calendar.Span
  completion : Completion
  deriving DecidableEq, Repr

structure Logged (World : Type) where
  world : World
  runs : List ProgramRun := []

namespace Host

def logged (host : Host World) : Host (Logged World) where
  clock log :=
    let (clock, world) := host.clock log.world
    (clock, { log with world })
  launch launch log :=
    let (answer, world) := host.launch launch log.world
    (answer, { log with world })
  submit child text log :=
    let (answer, world) := host.submit child text log.world
    (answer, { log with world })
  release child log :=
    let ((), world) := host.release child log.world
    ((), { log with world })
  run invocation limit log :=
    let (completion, world) := host.run invocation limit log.world
    (completion, ⟨world, log.runs ++ [⟨invocation, limit, completion⟩]⟩)

theorem run_achieves (host : Host World) (log : Logged World) (invocation : Invocation)
    (limit : Calendar.Span) :
    Act.Achieves (liftM (host.logged.run invocation limit)) log fun completion later =>
      later.runs = log.runs ++ [⟨invocation, limit, completion⟩] :=
  .lift (.lift rfl)

variable {host : Host World} {log later : Logged World}

theorem runs_of_clock {clock : Clock} (told : host.logged.clock log = (clock, later)) :
    later.runs = log.runs :=
  (congrArg (·.2.runs) told).symm

theorem runs_of_launch {launch : Launch} {answer : Except LaunchFault Child}
    (launched : host.logged.launch launch log = (answer, later)) : later.runs = log.runs :=
  (congrArg (·.2.runs) launched).symm

theorem runs_of_submit {child : Child} {text : String} {answer : Except SystemFault Arrivals}
    (written : host.logged.submit child text log = (answer, later)) : later.runs = log.runs :=
  (congrArg (·.2.runs) written).symm

end Host

end DeviceBrowser
