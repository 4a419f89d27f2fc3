import DeviceBrowser.Explorer.Operations
import DeviceBrowser.Proofs.Session.Lifecycle

/-!
How an explorer comes to a shell, and what it is left with.

Between two operations an explorer is either disconnected, without a session, and holds no
child; or it is connected, and its session is running and holds the only child.  `Approach`
says how an operation comes to a connection, and `Tried` what becomes of a command there,
whatever the children do; neither fails because of a phase.
-/

namespace DeviceBrowser

open Calendar

variable {World : Type} {host : Host World} {watched : Observed World}

namespace Adb

theorem Finder.probe_ensures (candidate : String) :
    Act.Ensures (Finder.probe host.observed candidate) watched fun _ later =>
      OnlyRan watched later := by
  unfold Finder.probe
  refine .bind (host.run_ensures watched _ _) ?_
  intro completion later quiet
  cases completion <;> exact .pure quiet

theorem Finder.firstWorking_ensures (candidates : List String) :
    Act.Ensures (Finder.firstWorking host.observed candidates) watched fun _ later =>
      OnlyRan watched later := by
  induction candidates generalizing watched with
  | nil => exact .pure (.refl watched)
  | cons candidate candidates inductionHypothesis =>
      unfold Finder.firstWorking
      refine .bind (probe_ensures candidate) ?_
      intro works later quiet
      cases works with
      | true => exact .pure quiet
      | false => exact inductionHypothesis.weaken fun _ _ more => quiet.trans more

theorem Finder.find_ensures (finder : Finder) :
    Act.Ensures (finder.find host.observed) watched fun result later =>
      Ordinary result.1 ∧ OnlyRan watched later := by
  unfold Finder.find
  extract_lets answer
  have answered : ∀ outcome {later : Observed World}, OnlyRan watched later →
      Act.Ensures (answer outcome) later fun result later =>
        Ordinary result.1 ∧ OnlyRan watched later := by
    intro outcome later quiet
    refine .pure ⟨?_, quiet⟩
    cases outcome with
    | some adb => exact ordinary_ok adb
    | none => exact ordinary_error rfl
  split
  next outcome _ => exact .pure_bind (answered outcome (.refl watched))
  next =>
    refine (firstWorking_ensures finder.candidates).bind ?_
    intro outcome later quiet
    exact answered outcome quiet

theorem Call.run_ensures (call : Call) :
    Act.Ensures (call.run host.observed) watched fun answer later =>
      Ordinary answer ∧ OnlyRan watched later := by
  unfold Call.run
  refine .bind (host.run_ensures watched _ _) ?_
  intro completion later quiet
  cases completion with
  | spawnFault fault => exact .pure ⟨ordinary_error rfl, quiet⟩
  | deadline => exact .pure ⟨ordinary_error rfl, quiet⟩
  | ended output errors exitCode => exact .pure ⟨ordinary_ok _, quiet⟩

end Adb

namespace Explorer

variable {explorer ready : Explorer} {middle later : Observed World}

/-- Connected and with a running session that holds the only child, or disconnected and
without any. -/
inductive Sound (explorer : Explorer) (watched : Observed World) : Prop where
  | disconnected (link : explorer.link = .disconnected) (sessionless : explorer.session = none)
      (childless : held watched.events = [])
  | connected {session : Session} (link : explorer.link = .connected)
      (present : explorer.session = some session) (running : session.isRunning = true)
      (kept : held watched.events = session.children)

/-- What is certain of the outcome of an operation. -/
structure Settled {Answer : Type} (result : Except Failure Answer × Explorer)
    (watched : Observed World) : Prop where
  ordinary : Ordinary result.1
  sound : result.2.Sound watched

/-- How opening a session comes out: with no shell, with a shell that was released again, or
with one that has told its directory. -/
inductive Opened (before : List HostEvent) :
    Except Failure (Session × String) → List HostEvent → Prop
  | unlaunched (failure : Failure) (plain : failure.isInternal = false) :
      Opened before (.error failure) before
  | lost (child : Child) (marker : String) (failure : Failure)
      (plain : failure.isInternal = false) :
      Opened before (.error failure)
        (.released child ::
          .submitted child (Session.commandLine Shell.Command.workingDirectory.text marker) ::
          .launched child :: before)
  | opened (session : Session) (shell : LiveShell) (running : session.stage = .running shell)
      (marker path : String) :
      Opened before (.ok (session, path))
        (.submitted shell.child
            (Session.commandLine Shell.Command.workingDirectory.text marker) ::
          .launched shell.child :: before)

/-- A shell that has just been launched tells its directory, and it is not empty. -/
inductive Told (host : Host World) (watched : Observed World) :
    Session → String → Observed World → Prop
  | told {opened session : Session} {child : Child} {ran : List Invocation}
      {started later : Observed World} {answer : String}
      (fresh : opened.stage = .running { child })
      (launched : started.events = .launched child :: (ran.map .ran ++ watched.events))
      (answered : (opened.execute host.observed Shell.Command.workingDirectory.text).runFrom
        started = (.ok (.ok answer, session), later))
      (filled : Terminal.withoutLineEnds answer ≠ "") :
      Told host watched session (Terminal.withoutLineEnds answer) later

theorem openSession_opens {ran : List Invocation}
    (quiet : middle.events = ran.map .ran ++ watched.events) (launch : Launch) (timeout : Span) :
    Act.Ensures (openSession host.observed launch timeout) middle fun outcome later =>
      Opened middle.events outcome later.events ∧
        ∀ session path, outcome = .ok (session, path) → Told host watched session path later := by
  unfold openSession
  refine .bind (host.clock_ensures middle) ?_
  intro clock afterClock unchanged
  have idle : ¬ (Session.new launch timeout clock).isRunning = true := Bool.false_ne_true
  refine .bind (Session.start_achieves idle).ensures ?_
  intro result afterStart started
  rw [unchanged] at started
  generalize launched : afterStart.events = now at started
  cases started with
  | failed failure plain =>
      refine .pure ⟨?_, by rintro _ _ ⟨⟩⟩
      rw [launched]
      exact .unlaunched failure plain
  | launched child =>
      refine .bind (Session.execute_asks rfl _).ran ?_
      rintro result afterCommand ⟨answered, asked⟩
      rw [launched] at asked
      generalize events : afterCommand.events = now at asked
      cases asked with
      | failed clock failure plain =>
          refine .bind (Session.stop_achieves _).ensures ?_
          rintro _ later ⟨-, stopped⟩
          refine .pure ⟨?_, by rintro _ _ ⟨⟩⟩
          rw [stopped, events]
          exact .lost child _ failure plain
      | answered clock answer left same =>
          have same : left.child = child := same
          subst same
          dsimp only
          split
          next =>
            refine .bind (Session.stop_achieves _).ensures ?_
            rintro _ later ⟨-, stopped⟩
            refine .pure ⟨?_, by rintro _ _ ⟨⟩⟩
            rw [stopped, events]
            exact .lost left.child _ .noWorkingDirectory rfl
          next filled =>
            refine .pure ⟨?_, ?_⟩
            · rw [events]
              exact .opened _ left rfl _ _
            · rintro _ _ ⟨⟩
              rw [quiet] at launched
              exact .told rfl launched answered (by simpa using filled)

theorem chooseLaunch_ensures (explorer : Explorer) :
    Act.Ensures (explorer.chooseLaunch host.observed) watched fun result later =>
      Ordinary result.1 ∧ OnlyRan watched later ∧
        ∃ finder, result.2 = { explorer with finder } := by
  unfold chooseLaunch
  split
  next launch _ => exact .pure ⟨ordinary_ok launch, .refl watched, explorer.finder, rfl⟩
  next =>
    refine .bind (explorer.finder.find_ensures) ?_
    intro result later reached
    obtain ⟨ordinary, quiet⟩ := reached
    rcases result with ⟨failure | adb, finder⟩
    · exact .pure ⟨ordinary_error (ordinary failure rfl), quiet, finder, rfl⟩
    · exact .pure ⟨ordinary_ok _, quiet, finder, rfl⟩

theorem changeLink_of_mayBecome {target : LinkPhase}
    (allowed : explorer.link.mayBecome target = true) :
    explorer.changeLink target = (.ok (), { explorer with link := target }) := by
  unfold changeLink LinkPhase.change
  rw [if_pos allowed]

/-- How an attempt to connect comes out: adb is looked for, and a session is opened or not. -/
inductive Attempted (explorer : Explorer) (before : List HostEvent) :
    Except Failure Unit × Explorer → List HostEvent → Prop
  | failed (finder : Adb.Finder) (ran : List Invocation) {failure : Failure}
      {now : List HostEvent} (opening : Opened (ran.map .ran ++ before) (.error failure) now) :
      Attempted explorer before
        (.error failure, { explorer with finder, link := .disconnected }) now
  | connected (finder : Adb.Finder) (ran : List Invocation) {session : Session} {path : String}
      {now : List HostEvent} (opening : Opened (ran.map .ran ++ before) (.ok (session, path)) now) :
      Attempted explorer before
        (.ok (), { explorer with finder, link := .connected, session := some session, path }) now

theorem connect_attempts (apart : explorer.link = .disconnected) :
    Act.Ensures (explorer.connect host.observed) watched fun result later =>
      Attempted explorer watched.events result later.events ∧
        (result.1 = .ok () →
          ∃ session, result.2.session = some session ∧
            Told host watched session result.2.path later) := by
  have unconnected : ¬ explorer.isConnected = true := by rw [isConnected, apart]; decide
  have begins : explorer.link.mayBecome .connecting = true := by rw [apart]; rfl
  unfold connect
  rw [if_neg unconnected, changeLink_of_mayBecome begins]
  refine .bind (chooseLaunch_ensures _) ?_
  rintro ⟨failure | launch, _⟩ afterChoice ⟨ordinary, ⟨ran, events⟩, finder, rfl⟩
  · refine .pure_bind ?_
    dsimp only
    rw [changeLink_of_mayBecome rfl]
    refine .pure ⟨?_, by rintro ⟨⟩⟩
    rw [events]
    exact .failed finder ran (.unlaunched failure (ordinary failure rfl))
  · refine .bind (openSession_opens events launch _) ?_
    rintro outcome later ⟨opening, told⟩
    rw [events] at opening
    rcases outcome with failure | ⟨session, path⟩
    · refine .pure_bind ?_
      dsimp only
      rw [changeLink_of_mayBecome rfl]
      exact .pure ⟨.failed finder ran opening, by rintro ⟨⟩⟩
    · refine .pure_bind ?_
      dsimp only
      rw [changeLink_of_mayBecome rfl]
      refine .pure ⟨.connected finder ran opening, ?_⟩
      intro _
      exact ⟨session, rfl, told session path rfl⟩

theorem Opened.held_of_error {before now : List HostEvent} {failure : Failure}
    (opening : Opened before (.error failure) now) :
    failure.isInternal = false ∧ held now = held before := by
  cases opening with
  | unlaunched failure plain => exact ⟨plain, rfl⟩
  | lost child marker failure plain =>
      refine ⟨plain, ?_⟩
      simp only [held, List.erase_cons_head]

theorem Opened.held_of_ok {before now : List HostEvent} {session : Session} {path : String}
    (opening : Opened before (.ok (session, path)) now) :
    session.isRunning = true ∧ held now = session.children ++ held before := by
  cases opening with
  | opened session shell running marker path =>
      refine ⟨Session.isRunning_iff.mpr ⟨shell, running⟩, ?_⟩
      rw [Session.children_of_running running]
      rfl

theorem Attempted.settled {before : List HostEvent} {result : Except Failure Unit × Explorer}
    (sessionless : explorer.session = none) (childless : held before = [])
    (attempt : Attempted explorer before result later.events) : Settled result later := by
  generalize events : later.events = now at attempt
  cases attempt with
  | failed finder ran opening =>
      obtain ⟨plain, same⟩ := opening.held_of_error
      refine ⟨ordinary_error plain, .disconnected rfl sessionless ?_⟩
      rw [events, same, held_map_ran, childless]
  | connected finder ran opening =>
      obtain ⟨running, kept⟩ := opening.held_of_ok
      refine ⟨ordinary_ok _, .connected rfl rfl running ?_⟩
      rw [events, kept, held_map_ran, childless, List.append_nil]

theorem Sound.kept {session : Session} (sound : explorer.Sound watched)
    (present : explorer.session = some session) : held watched.events = session.children := by
  cases sound with
  | disconnected link sessionless childless =>
      rw [present] at sessionless
      cases sessionless
  | connected link known running kept =>
      rw [present] at known
      cases known
      exact kept

theorem disconnect_of_idle
    (idle : ∀ session ∈ explorer.session, ¬ session.isRunning = true) :
    explorer.disconnect host = pure { explorer with session := none, link := .disconnected } := by
  unfold disconnect
  cases present : explorer.session with
  | none => rfl
  | some session =>
      dsimp only
      rw [Session.stop_of_not_running (idle session present)]
      rfl

theorem disconnect_ensures (sound : explorer.Sound watched) :
    Act.Ensures (explorer.disconnect host.observed) watched fun explorer later =>
      explorer.Sound later ∧ written later.events = written watched.events := by
  cases sound with
  | disconnected link sessionless childless =>
      rw [disconnect_of_idle (by simp [sessionless])]
      exact .pure ⟨.disconnected rfl rfl childless, rfl⟩
  | @connected session link present running kept =>
      unfold disconnect
      rw [present]
      refine .bind session.stop_achieves.ensures ?_
      rintro _ later ⟨-, events⟩
      refine .pure ⟨.disconnected rfl rfl ?_, ?_⟩
      · rw [events, Session.held_released kept]
      · rw [events, written_map_released]

/-- How an operation comes to the shell.  A connection that is there is used; where there is
none, one attempt is made at it or none at all. -/
inductive Approach (host : Host World) (reconnects : Bool) (explorer : Explorer)
    (watched : Observed World) : Explorer → Observed World → Prop
  | asIs (together : explorer.isConnected = true) :
      Approach host reconnects explorer watched explorer watched
  | refused (apart : explorer.isConnected = false) (refuses : reconnects = false) :
      Approach host reconnects explorer watched explorer watched
  | attempt {outcome : Except Failure Unit} {ready : Explorer} {middle : Observed World}
      (apart : explorer.isConnected = false) (tries : reconnects = true)
      (ran : (explorer.connect host.observed).runFrom watched = (.ok (outcome, ready), middle))
      (attempted : Attempted explorer watched.events (outcome, ready) middle.events)
      (told : ready.isConnected = outcome.isOk) :
      Approach host reconnects explorer watched ready middle

/-- How a command comes out that is run on the shell: it is refused without a connection; or
it is answered, and the connection stays; or it fails, and the connection is given up. -/
inductive Tried (host : Host World) (text : String) (ready : Explorer)
    (middle : Observed World) : Except Failure String × Explorer → Observed World → Prop
  | refused (apart : ready.isConnected = false) :
      Tried host text ready middle (.error .notConnected, ready) middle
  | answered {session next : Session} {shell : LiveShell} {output : String}
      {later : Observed World} (together : ready.isConnected = true)
      (present : ready.session = some session) (running : session.stage = .running shell)
      (ran : (session.execute host.observed text).runFrom middle = (.ok (.ok output, next), later))
      (asked : session.Asked shell text middle.events (.ok output, next) later.events) :
      Tried host text ready middle (.ok output, { ready with session := some next }) later
  | failed {session next : Session} {shell : LiveShell} {failure : Failure}
      {later : Observed World} (together : ready.isConnected = true)
      (present : ready.session = some session) (running : session.stage = .running shell)
      (ran : (session.execute host.observed text).runFrom middle =
        (.ok (.error failure, next), later))
      (asked : session.Asked shell text middle.events
        ((.error failure : Except Failure String), next) later.events) :
      Tried host text ready middle
        (.error failure, { ready with session := none, link := .disconnected }) later

theorem isConnected_iff : explorer.isConnected = true ↔ explorer.link = .connected := by
  unfold isConnected
  cases explorer.link <;> simp [LinkPhase.isConnected]

theorem Approach.sound {reconnects : Bool} (sound : explorer.Sound watched)
    (approach : Approach host reconnects explorer watched ready middle) : ready.Sound middle := by
  cases approach with
  | asIs together => exact sound
  | refused apart refuses => exact sound
  | attempt apart tries ran attempted =>
      cases sound with
      | disconnected link sessionless childless =>
          exact (attempted.settled sessionless childless).sound
      | connected link present running kept =>
          rw [isConnected_iff.mpr link] at apart
          cases apart

theorem Attempted.isConnected_eq {before now : List HostEvent}
    {result : Except Failure Unit × Explorer} (attempted : Attempted explorer before result now) :
    result.2.isConnected = result.1.isOk := by
  cases attempted <;> rfl

theorem connect_approaches (sound : explorer.Sound watched) :
    Act.Ensures (explorer.connect host.observed) watched fun result later =>
      Approach host true explorer watched result.2 later ∧
        result.2.isConnected = result.1.isOk ∧ Ordinary result.1 := by
  cases sound with
  | connected link present running kept =>
      have together := isConnected_iff.mpr link
      unfold connect
      rw [if_pos together]
      exact .pure ⟨.asIs together, together, ordinary_ok _⟩
  | disconnected link sessionless childless =>
      have apart : explorer.isConnected = false := by rw [isConnected, link]; rfl
      refine (connect_attempts link).ran.weaken ?_
      rintro result later ⟨ran, attempted, -⟩
      have told := attempted.isConnected_eq
      have settled := attempted.settled sessionless childless
      exact ⟨.attempt apart rfl ran attempted told, told, settled.ordinary⟩

theorem ensureConnected_approaches (sound : explorer.Sound watched) :
    Act.Ensures (explorer.ensureConnected host.observed) watched fun result later =>
      Approach host true explorer watched result.2 later ∧
        result.1 = if result.2.isConnected then .ok () else .error .notConnected := by
  unfold ensureConnected
  cases sound with
  | connected link present running kept =>
      have together := isConnected_iff.mpr link
      have isReady : explorer.isReady = true := by simp [isReady, together, present, running]
      rw [if_pos isReady]
      exact .pure ⟨.asIs together, (if_pos together).symm⟩
  | disconnected link sessionless childless =>
      have unready : ¬ explorer.isReady = true := by
        simp [isReady, isConnected, link, LinkPhase.isConnected]
      have idle : ∀ session ∈ explorer.session, ¬ session.isRunning = true := by
        simp [sessionless]
      have unchanged : { explorer with session := none, link := .disconnected } = explorer := by
        rw [← link, ← sessionless]
      rw [if_neg unready, disconnect_of_idle idle, unchanged]
      refine .pure_bind (.bind (connect_approaches (.disconnected link sessionless childless)) ?_)
      rintro ⟨outcome, ready⟩ middle ⟨approach, told, -⟩
      cases outcome with
      | ok _ => exact .pure ⟨approach, by rw [told]; rfl⟩
      | error failure => exact .pure ⟨approach, by rw [told]; rfl⟩

theorem ensureConnected_andThen {Answer : Type}
    {next : Except Failure Unit × Explorer → Act (Observed World) Answer}
    {post : Answer → Observed World → Prop} (sound : explorer.Sound watched)
    (goesOn : ∀ ready middle, Approach host true explorer watched ready middle →
      ready.isConnected = true → Act.Ensures (next (.ok (), ready)) middle post)
    (refused : ∀ ready middle, Approach host true explorer watched ready middle →
      ready.isConnected = false → Act.Ensures (next (.error .notConnected, ready)) middle post) :
    Act.Ensures (explorer.ensureConnected host.observed >>= next) watched post := by
  refine .bind (ensureConnected_approaches sound) ?_
  rintro ⟨outcome, ready⟩ middle ⟨approach, told⟩
  by_cases together : ready.isConnected = true
  · obtain rfl : outcome = .ok () := by simpa [together] using told
    exact goesOn ready middle approach together
  · obtain rfl : outcome = .error .notConnected := by simpa [together] using told
    exact refused ready middle approach (Bool.eq_false_iff.mpr together)

theorem Sound.exists_shell (sound : explorer.Sound watched)
    (together : explorer.isConnected = true) :
    ∃ session shell, explorer.session = some session ∧ session.stage = .running shell := by
  cases sound with
  | disconnected link sessionless childless =>
      rw [isConnected, link] at together
      cases together
  | @connected session link present running kept =>
      obtain ⟨shell, stage⟩ := Session.isRunning_iff.mp running
      exact ⟨session, shell, present, stage⟩

theorem tryCommand_tries (sound : explorer.Sound watched) (text : String) :
    Act.Ensures (explorer.tryCommand host.observed text) watched fun tried later =>
      ∃ ready middle, Approach host true explorer watched ready middle ∧
        Tried host text ready middle tried later := by
  unfold tryCommand
  refine ensureConnected_andThen sound ?_ ?_
  · intro ready middle approach together
    obtain ⟨session, shell, present, stage⟩ := (approach.sound sound).exists_shell together
    dsimp only
    rw [present]
    refine .bind (Session.execute_asks stage text).ran ?_
    rintro ⟨answer, next⟩ later ⟨ran, asked⟩
    dsimp only
    cases answer with
    | ok output =>
        have goesOn : next.isRunning = true := asked.isRunning_eq
        rw [if_pos goesOn]
        exact .pure ⟨ready, middle, approach, .answered together present stage ran asked⟩
    | error failure =>
        have ended : ¬ next.isRunning = true := Bool.eq_false_iff.mp asked.isRunning_eq
        have idle : ∀ session ∈ some next, ¬ session.isRunning = true := by
          rintro _ ⟨⟩
          exact ended
        rw [if_neg ended, disconnect_of_idle idle]
        exact .pure_bind
          (.pure ⟨ready, middle, approach, .failed together present stage ran asked⟩)
  · intro ready middle approach apart
    exact .pure ⟨ready, middle, approach, .refused apart⟩

theorem Tried.settled {text : String} {tried : Except Failure String × Explorer}
    (sound : ready.Sound middle) (ran : Tried host text ready middle tried later) :
    Settled tried later := by
  cases ran with
  | refused apart => exact ⟨ordinary_error rfl, sound⟩
  | answered together present stage ran asked =>
      have kept := asked.kept ((sound.kept present).trans (Session.children_of_running stage))
      exact ⟨asked.ordinary, .connected (isConnected_iff.mp together) rfl asked.isRunning_eq kept⟩
  | @failed session next shell failure later together present stage ran asked =>
      have ended : ¬ next.isRunning = true := Bool.eq_false_iff.mp asked.isRunning_eq
      have kept := asked.kept ((sound.kept present).trans (Session.children_of_running stage))
      rw [Session.children_of_not_running ended] at kept
      exact ⟨asked.ordinary, .disconnected rfl rfl kept⟩

theorem Sound.of_same {other : Explorer} (sound : explorer.Sound watched)
    (link : other.link = explorer.link)
    (session : other.session = explorer.session)
    (same : held later.events = held watched.events) : other.Sound later := by
  cases sound with
  | disconnected apart sessionless childless =>
      exact .disconnected (link.trans apart) (session.trans sessionless) (same.trans childless)
  | connected together present running kept =>
      exact .connected (link.trans together) (session.trans present) running (same.trans kept)

theorem call_ensures (explorer : Explorer) (arguments : List String) :
    Act.Ensures (explorer.call host.observed arguments) watched fun result later =>
      Ordinary result.1 ∧ OnlyRan watched later ∧
        ∃ finder, result.2 = { explorer with finder } := by
  unfold call
  refine .bind explorer.finder.find_ensures ?_
  rintro ⟨failure | adb, finder⟩ afterFind ⟨ordinary, quiet⟩
  · exact .pure ⟨ordinary_error (ordinary failure rfl), quiet, finder, rfl⟩
  · refine .bind (Adb.Call.run_ensures _) ?_
    intro answer later ran
    exact .pure ⟨ran.1, quiet.trans ran.2, finder, rfl⟩

end Explorer

end DeviceBrowser
