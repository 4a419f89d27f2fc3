import DeviceBrowser.Proofs.Session.Conversation
import DeviceBrowser.Proofs.Session.Lifecycle

/-!
The life of a session over any calls.

`perform` is one call by name, and `performAll` makes a list of them and notes the phase in
which each was made.  From a new session on, a session holds a child exactly while it is
running, counts the commands it ran, and remembers a failure until it is started anew.
-/

namespace DeviceBrowser

open Calendar

inductive SessionCall where
  | start
  | execute (command : String)
  | stop
  deriving DecidableEq, Repr

def SessionCall.isExecute : SessionCall → Bool
  | .execute _ => true
  | .start | .stop => false

namespace Session

variable {World : Type} (host : Host World)

def perform (session : Session) : SessionCall → Act World Session
  | .start => do
      let (_, session) ← session.start host
      return session
  | .execute command => do
      let (_, session) ← session.execute host command
      return session
  | .stop => session.stop host

def performAll (session : Session) :
    List SessionCall → Act World (List (SessionPhase × SessionCall) × Session)
  | [] => return ([], session)
  | call :: calls => do
      let next ← session.perform host call
      let (made, last) ← next.performAll calls
      return ((session.phase, call) :: made, last)

def commandsRun (made : List (SessionPhase × SessionCall)) : Nat :=
  made.countP fun (phase, call) => phase.takesCommands && call.isExecute

variable {host} {watched : Observed World} {session : Session}
  {made : List (SessionPhase × SessionCall)}

structure Orderly (session : Session) (made : List (SessionPhase × SessionCall))
    (watched : Observed World) : Prop where
  kept : held watched.events = session.children
  fresh : session.phase = .notStarted ↔ ∀ call ∈ made.map Prod.snd, call.isExecute = true
  clear : session.isRunning = true → session.lastFailure = none
  counted : session.markers.issued = UInt64.ofNat (commandsRun made)

theorem commandsRun_concat (made : List (SessionPhase × SessionCall)) (phase : SessionPhase)
    (call : SessionCall) :
    commandsRun (made ++ [(phase, call)]) =
      commandsRun made + if phase.takesCommands && call.isExecute then 1 else 0 := by
  rw [commandsRun, List.countP_append, List.countP_singleton]
  rfl

/-- A start or a stop ends the time before the first of them. -/
theorem Orderly.of_not_execute {call : SessionCall} {next : Session} {later : Observed World}
    (orderly : session.Orderly made watched) (other : call.isExecute = false)
    (kept : held later.events = next.children) (begun : next.phase ≠ .notStarted)
    (clear : next.isRunning = true → next.lastFailure = none)
    (same : next.markers = session.markers) :
    next.Orderly (made ++ [(session.phase, call)]) later := by
  refine ⟨kept, ?_, clear, ?_⟩
  · simp [begun, other]
  · rw [same, orderly.counted, commandsRun_concat, other, Bool.and_false]
    rfl

theorem start_orderly (orderly : session.Orderly made watched) :
    Act.Ensures (session.perform host.observed .start) watched fun next later =>
      next.Orderly (made ++ [(session.phase, .start)]) later := by
  unfold perform
  by_cases running : session.isRunning = true
  · have begun : session.phase ≠ .notStarted := by
      intro unbegun
      rw [isRunning, unbegun] at running
      cases running
    rw [start_of_running running]
    exact .pure_bind (.pure (orderly.of_not_execute rfl orderly.kept begun orderly.clear rfl))
  · refine .bind (start_achieves running).ensures ?_
    intro result later started
    have childless := orderly.kept
    rw [children_of_not_running running] at childless
    generalize events : later.events = now at started
    cases started with
    | launched child =>
        refine .pure (orderly.of_not_execute rfl ?_ (by rintro ⟨⟩) (fun _ => rfl) rfl)
        rw [events, held, childless]
        rfl
    | failed failure plain =>
        refine .pure (orderly.of_not_execute rfl ?_ (by rintro ⟨⟩) (by rintro ⟨⟩) rfl)
        rw [events, childless]
        rfl

theorem stop_orderly (orderly : session.Orderly made watched) :
    Act.Ensures (session.perform host.observed .stop) watched fun next later =>
      next.Orderly (made ++ [(session.phase, .stop)]) later := by
  refine session.stop_achieves.ensures.weaken ?_
  rintro _ later ⟨rfl, events⟩
  refine orderly.of_not_execute rfl ?_ (by rintro ⟨⟩) (by rintro ⟨⟩) rfl
  rw [events, held_released orderly.kept]
  rfl

/-- A command that was given to a running session is counted, whatever comes of it. -/
theorem Orderly.of_execute {next : Session} {later : Observed World} {command : String}
    (orderly : session.Orderly made watched) (running : session.isRunning = true)
    (kept : held later.events = next.children) (begun : next.phase ≠ .notStarted)
    (clear : next.isRunning = true → next.lastFailure = none)
    (issued : next.markers.issued = session.markers.issued + 1) :
    next.Orderly (made ++ [(session.phase, .execute command)]) later := by
  have counts : session.phase.takesCommands = true := running
  refine ⟨kept, ?_, clear, ?_⟩
  · have unbegun : session.phase ≠ .notStarted := by
      intro unbegun
      rw [unbegun] at counts
      cases counts
    rw [ne_eq, orderly.fresh] at unbegun
    rw [List.map_append, List.forall_mem_append]
    exact iff_of_false begun fun all => unbegun all.1
  · rw [issued, orderly.counted, commandsRun_concat, counts]
    exact (UInt64.ofNat_add _ 1).symm

theorem execute_orderly (orderly : session.Orderly made watched) (command : String) :
    Act.Ensures (session.perform host.observed (.execute command)) watched fun next later =>
      next.Orderly (made ++ [(session.phase, .execute command)]) later := by
  rw [perform]
  by_cases running : session.isRunning = true
  · obtain ⟨shell, stage⟩ := isRunning_iff.mp running
    have kept := orderly.kept
    rw [children_of_running stage] at kept
    refine .bind (execute_asks stage command) ?_
    intro result later asked
    have keptAfter := asked.kept kept
    generalize later.events = now at asked
    cases asked with
    | answered clock answer left same =>
        exact .pure (orderly.of_execute running keptAfter (by rintro ⟨⟩)
          (fun _ => orderly.clear running) rfl)
    | failed clock failure plain =>
        exact .pure (orderly.of_execute running keptAfter (by rintro ⟨⟩) (by rintro ⟨⟩) rfl)
  · rw [execute_of_not_running running]
    have uncounted : session.phase.takesCommands = false := Bool.eq_false_iff.mpr running
    refine .pure_bind (.pure ⟨orderly.kept, ?_, orderly.clear, ?_⟩)
    · rw [orderly.fresh, List.map_append, List.forall_mem_append]
      exact (and_iff_left (by simp [SessionCall.isExecute])).symm
    · rw [orderly.counted, commandsRun_concat, uncounted]
      rfl

theorem perform_orderly (orderly : session.Orderly made watched) (call : SessionCall) :
    Act.Ensures (session.perform host.observed call) watched fun next later =>
      next.Orderly (made ++ [(session.phase, call)]) later := by
  cases call with
  | start => exact start_orderly orderly
  | execute command => exact execute_orderly orderly command
  | stop => exact stop_orderly orderly

theorem performAll_orderly (orderly : session.Orderly made watched) (calls : List SessionCall) :
    Act.Ensures (session.performAll host.observed calls) watched fun result later =>
      result.1.map Prod.snd = calls ∧ result.2.Orderly (made ++ result.1) later := by
  induction calls generalizing session made watched with
  | nil =>
      refine .pure ⟨rfl, ?_⟩
      rwa [List.append_nil]
  | cons call calls inductionHypothesis =>
      refine .bind (perform_orderly orderly call) ?_
      intro next afterFirst orderly
      refine .bind (inductionHypothesis orderly) ?_
      rintro ⟨rest, last⟩ later ⟨noted, orderly⟩
      refine .pure ⟨congrArg (call :: ·) noted, ?_⟩
      rwa [List.append_assoc] at orderly

theorem orderly_new (launch : Launch) (timeout : Span) (clock : Clock) (world : World) :
    (new launch timeout clock).Orderly [] (⟨world, []⟩ : Observed World) :=
  ⟨rfl, by simp [new, phase], fun _ => rfl, rfl⟩

/-- What holds of a session after some calls, and of whatever it is asked next. -/
structure Lifecycle (host : Host World) (calls : List SessionCall)
    (made : List (SessionPhase × SessionCall)) (session : Session) (watched : Observed World) :
    Prop where
  noted : made.map Prod.snd = calls
  /-- One child is held while the session is running, and none otherwise. -/
  child : held watched.events = session.children ∧
    session.children.length = if session.isRunning then 1 else 0
  fresh : session.phase = .notStarted ↔ ∀ call ∈ calls, call.isExecute = true
  clear : session.isRunning = true → session.lastFailure = none
  /-- The count has 64 bits. -/
  counted : session.commandCount = commandsRun made % UInt64.size
  refused : session.isRunning = false → ∀ command,
    (session.execute host.observed command).runFrom watched =
      (.ok (.error (.notRunning session.phase), session), watched)
  /-- Any other command that fails stops the session, which remembers the failure. -/
  failed : session.isRunning = true → ∀ command failure after later,
    (session.execute host.observed command).runFrom watched =
        (.ok (.error failure, after), later) →
      after.phase = .stopped ∧ held later.events = [] ∧
        after.lastFailure = some failure.message
  startedAlready : session.isRunning = true →
    (session.start host.observed).runFrom watched = (.ok (.ok (), session), watched)
  started : session.isRunning = false → ∃ outcome after later,
    (session.start host.observed).runFrom watched = (.ok (outcome, after), later) ∧
      match outcome with
      | .ok () => after.phase = .running ∧ after.lastFailure = none
      | .error failure => after.phase = .stopped ∧ after.lastFailure = some failure.message
  stopped : ∃ after later,
    (session.stop host.observed).runFrom watched = (.ok after, later) ∧
      after.phase = .stopped ∧ held later.events = [] ∧
      after.lastFailure = session.lastFailure ∧ after.commandCount = session.commandCount ∧
      (after.stop host.observed).runFrom later = (.ok after, later)

theorem length_children (session : Session) :
    session.children.length = if session.isRunning then 1 else 0 := by
  by_cases running : session.isRunning = true
  · obtain ⟨shell, stage⟩ := isRunning_iff.mp running
    rw [children_of_running stage, if_pos running]
    rfl
  · rw [children_of_not_running running, if_neg running]
    rfl

theorem failed_execute (kept : held watched.events = session.children)
    (running : session.isRunning = true) (command : String) :
    Act.Ensures (session.execute host.observed command) watched fun result later =>
      ∀ failure, result.1 = .error failure →
        result.2.phase = .stopped ∧ held later.events = [] ∧
          result.2.lastFailure = some failure.message := by
  obtain ⟨shell, stage⟩ := isRunning_iff.mp running
  rw [children_of_running stage] at kept
  refine (execute_asks stage command).weaken ?_
  intro result later asked
  have released := asked.kept kept
  generalize later.events = now at asked released ⊢
  cases asked with
  | answered clock answer left same => rintro _ ⟨⟩
  | failed clock failure plain =>
      rintro _ ⟨⟩
      exact ⟨rfl, released, rfl⟩

theorem start_outcome (idle : ¬ session.isRunning = true) :
    Act.Achieves (session.start host.observed) watched fun result _ =>
      match result.1 with
      | .ok () => result.2.phase = .running ∧ result.2.lastFailure = none
      | .error failure =>
          result.2.phase = .stopped ∧ result.2.lastFailure = some failure.message := by
  obtain ⟨result, later, ran, started⟩ :
      Act.Achieves (session.start host.observed) watched _ := start_achieves idle
  refine ⟨result, later, ran, ?_⟩
  generalize later.events = now at started
  cases started with
  | launched child => exact ⟨rfl, rfl⟩
  | failed failure plain => exact ⟨rfl, rfl⟩

/-- After any calls on a new session it holds a child exactly while it is running, counts the
commands it ran and remembers a failure until it is started anew, and the next call goes as
its phase says. -/
theorem lifecycle_of_calls {launch : Launch} {timeout : Span} {clock : Clock}
    {calls : List SessionCall} {world : World} {made : List (SessionPhase × SessionCall)}
    {session : Session} {watched : Observed World}
    (completed : ((new launch timeout clock).performAll host.observed calls).runFrom ⟨world, []⟩ =
      (.ok (made, session), watched)) :
    Lifecycle host calls made session watched := by
  obtain ⟨noted, orderly⟩ :=
    performAll_orderly (orderly_new launch timeout clock world) calls _ _ completed
  have orderly : session.Orderly made watched := orderly
  refine
    { noted
      child := ⟨orderly.kept, length_children session⟩
      fresh := ?_
      clear := orderly.clear
      counted := ?_
      refused := ?_
      failed := ?_
      startedAlready := ?_
      started := ?_
      stopped := ?_ }
  · rw [orderly.fresh, noted]
  · rw [commandCount, orderly.counted]
    exact UInt64.toNat_ofNat'
  · intro idle command
    rw [execute_of_not_running (Bool.eq_false_iff.mp idle)]
    rfl
  · intro running command failure after later ran
    exact failed_execute orderly.kept running command _ _ ran failure rfl
  · intro running
    rw [start_of_running running]
    rfl
  · intro idle
    obtain ⟨⟨outcome, after⟩, later, ran, holds⟩ :
        Act.Achieves (session.start host.observed) watched _ :=
      start_outcome (Bool.eq_false_iff.mp idle)
    exact ⟨outcome, after, later, ran, holds⟩
  · obtain ⟨_, later, ran, rfl, events⟩ :
        Act.Achieves (session.stop host.observed) watched _ := session.stop_achieves
    refine ⟨_, later, ran, rfl, ?_, rfl, rfl, rfl⟩
    rw [events, held_released orderly.kept]

/-- A command before the start, one that is answered, one that is not, and a restart. -/
theorem lifecycle_of_calls_restarted :
    let calls : List SessionCall :=
      [.execute "pwd", .start, .execute "pwd", .execute "pwd", .start, .stop, .stop]
    let batches := [[Text.Utf8.encode "/\n__MARK_0_0__\n".toList]]
    ∃ made session watched,
      ((new (.shell "sh") defaultTimeout ⟨0, 0, 0⟩).performAll Host.replaying.observed
        calls).runFrom ⟨batches, []⟩ = (.ok (made, session), watched) ∧
      Lifecycle Host.replaying calls made session watched := by
  intro calls batches
  have completes : (((new (.shell "sh") defaultTimeout ⟨0, 0, 0⟩).performAll
      Host.replaying.observed calls).runFrom ⟨batches, []⟩).1.isOk = true := by
    decide +kernel
  obtain ⟨⟨made, session⟩, watched, ran⟩ := Act.exists_of_isOk completes
  exact ⟨made, session, watched, ran, lifecycle_of_calls ran⟩

end Session

end DeviceBrowser
