import DeviceBrowser.Proofs.Host.Observed
import DeviceBrowser.Session.Basic

/-!
Sessions and their children.

A session that is running holds one child, and any other holds none.  Starting a session,
running a command and stopping it keep what has been launched and not released in step
with that, whatever the children do.
-/

namespace DeviceBrowser

open Calendar

variable {World : Type} {host : Host World} {watched : Observed World}

/-- Failures that tell of a use of sessions and connections out of turn. -/
def Failure.isInternal : Failure → Bool
  | .notRunning _ | .phaseChange _ _ => true
  | _ => false

def Ordinary {Answer : Type} (answer : Except Failure Answer) : Prop :=
  ∀ failure, answer = .error failure → failure.isInternal = false

theorem ordinary_ok {Answer : Type} (value : Answer) : Ordinary (.ok value) := by
  rintro failure ⟨⟩

theorem ordinary_error {Answer : Type} {failure : Failure} (plain : failure.isInternal = false) :
    Ordinary (.error failure : Except Failure Answer) := by
  rintro _ ⟨⟩
  exact plain

theorem LaunchFault.failure_isInternal (program : String) (fault : LaunchFault) :
    (fault.failure program).isInternal = false := by
  cases fault <;> rfl

namespace Session

def children (session : Session) : List Child :=
  match session.stage with
  | .running shell => [shell.child]
  | .notStarted | .stopped => []

theorem isRunning_iff {session : Session} :
    session.isRunning = true ↔ ∃ shell, session.stage = .running shell := by
  unfold isRunning phase
  cases session.stage <;> simp [SessionPhase.takesCommands]

theorem children_of_running {session : Session} {shell : LiveShell}
    (running : session.stage = .running shell) : session.children = [shell.child] := by
  rw [children, running]

theorem children_of_not_running {session : Session} (idle : ¬ session.isRunning = true) :
    session.children = [] := by
  unfold children
  cases stage : session.stage with
  | running shell => exact absurd (isRunning_iff.mpr ⟨shell, stage⟩) idle
  | notStarted | stopped => rfl

theorem stop_of_not_running {session : Session} (idle : ¬ session.isRunning = true) :
    session.stop host = pure { session with stage := .stopped } := by
  unfold stop
  cases stage : session.stage with
  | running shell => exact absurd (isRunning_iff.mpr ⟨shell, stage⟩) idle
  | notStarted | stopped => rfl

theorem stop_achieves (session : Session) :
    Act.Achieves (session.stop host.observed) watched fun stopped later =>
      stopped = { session with stage := .stopped } ∧
        later.events = session.children.map .released ++ watched.events := by
  unfold stop
  cases stage : session.stage with
  | running shell =>
      refine .bind (.lift (host.release_ensures watched shell.child)) ?_
      intro _ _ released
      refine .pure ⟨rfl, released.trans ?_⟩
      rw [children_of_running stage]
      rfl
  | notStarted | stopped =>
      refine .pure ⟨rfl, ?_⟩
      simp [children, stage]

theorem held_released {session : Session} {before : List HostEvent}
    (kept : held before = session.children) :
    held (session.children.map .released ++ before) = [] := by
  unfold children at kept ⊢
  cases stage : session.stage with
  | running shell => simp [stage, held, kept]
  | notStarted | stopped => simp [stage, kept]

theorem stop_of_running {session : Session} {shell : LiveShell} {world : World}
    (running : session.stage = .running shell) :
    Act.Ensures (session.stop host) world fun stopped later =>
      stopped = { session with stage := .stopped } ∧
        later = (host.release shell.child world).2 := by
  unfold stop
  rw [running]
  refine .bind .question ?_
  intro _ later released
  refine .pure ⟨rfl, ?_⟩
  rw [released]

theorem fail_of_running {Answer : Type} {session : Session} {shell : LiveShell} {world : World}
    (running : session.stage = .running shell) (failure : Failure) :
    Act.Ensures (session.fail host failure : Act World (Except Failure Answer × Session)) world
      fun result later =>
        result = (.error failure,
          { session with stage := .stopped, lastFailure := some failure.message }) ∧
        later = (host.release shell.child world).2 := by
  unfold fail
  refine .bind (stop_of_running running) ?_
  rintro _ later ⟨rfl, released⟩
  exact .pure ⟨rfl, released⟩

inductive Started (session : Session) (before : List HostEvent) :
    Except Failure Unit × Session → List HostEvent → Prop
  | launched (child : Child) :
      Started session before
        (.ok (), { session with stage := .running { child }, lastFailure := none })
        (.launched child :: before)
  | failed (failure : Failure) (plain : failure.isInternal = false) :
      Started session before
        (.error failure,
          { session with stage := .stopped, lastFailure := some failure.message })
        before

theorem start_of_running {session : Session} (running : session.isRunning = true) :
    session.start host = pure (.ok (), session) := by
  unfold start
  rw [if_pos running]

theorem start_achieves {session : Session} (idle : ¬ session.isRunning = true) :
    Act.Achieves (session.start host.observed) watched fun result later =>
      Started session watched.events result later.events := by
  unfold start
  rw [if_neg idle]
  refine .bind (.lift (host.launch_ensures watched session.launch)) ?_
  intro answer later events
  rcases answer with fault | child
  · refine .pure ?_
    rw [events]
    exact .failed _ (fault.failure_isInternal _)
  · refine .pure ?_
    rw [events]
    exact .launched child

/-- How a command comes out that is run on the shell of a session: the command is written
once, and either it is answered or the session stops. -/
inductive Asked {Answer : Type} (session : Session) (shell : LiveShell) (command : String)
    (before : List HostEvent) : Except Failure Answer × Session → List HostEvent → Prop
  | answered (clock : Clock) (answer : Answer) (left : LiveShell)
      (same : left.child = shell.child) :
      Asked session shell command before
        (.ok answer,
          { session with markers := (session.markers.issue clock).2, stage := .running left })
        (.submitted shell.child (commandLine command (session.markers.issue clock).1) :: before)
  | failed (clock : Clock) (failure : Failure) (plain : failure.isInternal = false) :
      Asked session shell command before
        (.error failure,
          { session with
            markers := (session.markers.issue clock).2
            stage := .stopped
            lastFailure := some failure.message })
        (.released shell.child ::
          .submitted shell.child (commandLine command (session.markers.issue clock).1) :: before)

namespace Asked

variable {Answer : Type} {session : Session} {shell : LiveShell} {command : String}
  {before now : List HostEvent} {result : Except Failure Answer × Session}

theorem kept (asked : Asked session shell command before result now)
    (kept : held before = [shell.child]) : held now = result.2.children := by
  cases asked with
  | answered clock answer left same =>
      rw [held, kept, ← same]
      rfl
  | failed clock failure plain =>
      rw [held, held, kept, List.erase_cons_head]
      rfl

theorem isRunning_eq (asked : Asked session shell command before result now) :
    result.2.isRunning = result.1.isOk := by
  cases asked <;> rfl

theorem ordinary (asked : Asked session shell command before result now) : Ordinary result.1 := by
  cases asked with
  | answered clock answer left same => exact ordinary_ok answer
  | failed clock failure plain => exact ordinary_error plain

theorem writes (asked : Asked session shell command before result now) :
    ∃ marker, written now = commandLine command marker :: written before := by
  cases asked <;> exact ⟨_, rfl⟩

end Asked

theorem gapFailure_isInternal (timeout : Span) (silence : Silence) (gap : Framing.Gap) :
    (gapFailure timeout silence gap).isInternal = false := by
  cases gap <;> cases silence <;> rfl

def failedWith (session : Session) (clock : Clock) (failure : Failure) : Session :=
  { session with
    markers := (session.markers.issue clock).2
    stage := .stopped
    lastFailure := some failure.message }

/-- How a command comes out that is written to the shell of a session: its marker is found in
what has come since the last answer, or the shell is released. -/
inductive Requested (host : Host World) (session : Session) (shell : LiveShell)
    (command : String) (world : World) : Except Failure (List UInt8) × Session → World → Prop
  | answered {clock : Clock} {asked later : World} {arrivals : Arrivals} {bytes : List UInt8}
      {found : Framing.Search} (told : host.clock world = (clock, asked))
      (written : host.submit shell.child (commandLine command (session.markers.issue clock).1)
        asked = (.ok arrivals, later))
      (searched : shell.framing.search (Text.Utf8.encode (session.markers.issue clock).1.toList)
        (shell.unread ++ arrivals.deliveries) = found)
      (success : found.answer = .ok bytes) :
      Requested host session shell command world
        (.ok bytes, { session with
          markers := (session.markers.issue clock).2
          stage := .running { shell with framing := found.framing, unread := found.unread } })
        later
  | failed {clock : Clock} {asked later : World} {answer : Except SystemFault Arrivals}
      {failure : Failure} (told : host.clock world = (clock, asked))
      (written : host.submit shell.child (commandLine command (session.markers.issue clock).1)
        asked = (answer, later))
      (plain : failure.isInternal = false) :
      Requested host session shell command world (.error failure, session.failedWith clock failure)
        (host.release shell.child later).2

theorem request_ensures {session : Session} {shell : LiveShell} {world : World}
    (running : session.stage = .running shell) (command : String) :
    Act.Ensures (session.request host command) world fun result later =>
      Requested host session shell command world result later := by
  unfold request
  rw [running]
  refine .bind .question ?_
  intro clock asked told
  refine .bind .question ?_
  intro answer brought written
  rcases answer with fault | arrivals
  · refine (fail_of_running rfl _).weaken ?_
    rintro _ _ ⟨rfl, rfl⟩
    exact .failed told written rfl
  · dsimp only
    split
    next late => exact .throw_bind
    next inTime =>
      split
      next bytes success => exact .pure (.answered told written rfl success)
      next gap _ =>
        refine (fail_of_running rfl _).weaken ?_
        rintro _ _ ⟨rfl, rfl⟩
        exact .failed told written (gapFailure_isInternal _ _ gap)

theorem request_asks {session : Session} {shell : LiveShell}
    (running : session.stage = .running shell) (command : String) :
    Act.Ensures (session.request host.observed command) watched fun result later =>
      Asked session shell command watched.events result later.events := by
  refine (request_ensures running command).weaken ?_
  intro result later requested
  cases requested with
  | answered told written searched success =>
      rw [Host.events_of_submit written, Host.events_of_clock told]
      exact .answered _ _ _ rfl
  | @failed clock asked brought answer failure told written plain =>
      have released : (host.observed.release shell.child brought).2.events =
        .released shell.child :: brought.events := rfl
      rw [released, Host.events_of_submit written, Host.events_of_clock told]
      exact .failed clock failure plain

theorem execute_asks {session : Session} {shell : LiveShell}
    (running : session.stage = .running shell) (command : String) :
    Act.Ensures (session.execute host.observed command) watched fun result later =>
      Asked session shell command watched.events result later.events := by
  unfold execute
  refine .bind (request_asks running command) ?_
  intro result later asked
  obtain ⟨answer, session⟩ := result
  refine .pure ?_
  generalize later.events = events at asked ⊢
  cases asked with
  | answered clock answer left same => exact .answered clock (answerText answer) left same
  | failed clock failure plain => exact .failed clock failure plain

theorem execute_of_not_running {session : Session} (idle : ¬ session.isRunning = true)
    (command : String) :
    session.execute host command = pure (.error (.notRunning session.phase), session) := by
  unfold execute request
  cases stage : session.stage with
  | running shell => exact absurd (isRunning_iff.mpr ⟨shell, stage⟩) idle
  | notStarted | stopped => rfl

end Session

end DeviceBrowser
