import DeviceBrowser.Proofs.Adb.Naming
import DeviceBrowser.Proofs.Adb.Probing
import DeviceBrowser.Proofs.Explorer.Operation
import DeviceBrowser.Proofs.Session.Make

/-!
What explorers ask adb for.

An operation looks for adb at most once, and only if nobody has done so before; it runs at most
one program besides, which is the adb that was found.  Whatever comes of it, the shell of an
explorer is the one that it was given or that of the adb that was found.
-/

namespace DeviceBrowser

open Calendar

def Operation.callsAdb : Operation → Bool
  | .call _ | .transfer _ _ _ => true
  | .connect | .disconnect | .command _ | .tryCommand _ | .workingDirectory | .enter _
  | .list _ _ | .removeFile _ | .removeTree _ | .makeDirectory _ => false

namespace Explorer

variable {World : Type} {host : Host World} {explorer middle next : Explorer}
  {log between later : Logged World} {calls : List ProgramRun}

def make (explorer : Explorer) : DeviceOptions × Option Launch :=
  (⟨explorer.serial, explorer.commandTimeout, explorer.callTimeout⟩, explorer.launch)

/-- The shell of an explorer, if it was given one or if an adb was found. -/
def shell? (explorer : Explorer) (outcome : Option (Option String)) : Option Launch :=
  explorer.launch.or (outcome.join.map (Adb.shell · explorer.serial))

def HasOwnShell (explorer : Explorer) (outcome : Option (Option String)) : Prop :=
  ∀ session ∈ explorer.session, explorer.shell? outcome = some session.launch

/-- What has become of an explorer while some programs were run, of which `calls` had nothing to
do with the search for adb. -/
structure Consulted (explorer : Explorer) (log : Logged World) (calls : List ProgramRun)
    (next : Explorer) (later : Logged World) : Prop where
  make : next.make = explorer.make
  shell : explorer.HasOwnShell explorer.finder.outcome → next.HasOwnShell next.finder.outcome
  trail : ∃ runs, later.runs = log.runs ++ runs ∧ explorer.finder.Trail calls next.finder runs

theorem Consulted.refl (explorer : Explorer) (log : Logged World) :
    explorer.Consulted log [] explorer log :=
  ⟨rfl, id, [], (List.append_nil _).symm, .quiet⟩

theorem Consulted.trans (first : explorer.Consulted log [] middle between)
    (second : middle.Consulted between calls next later) :
    explorer.Consulted log calls next later := by
  obtain ⟨early, before, trail⟩ := first.trail
  obtain ⟨late, after, more⟩ := second.trail
  refine ⟨second.make.trans first.make, second.shell ∘ first.shell, early ++ late, ?_,
    trail.trans more⟩
  rw [after, before, List.append_assoc]

theorem Consulted.of_same (make : next.make = explorer.make)
    (finder : next.finder = explorer.finder) (runs : later.runs = log.runs)
    (shell : explorer.HasOwnShell explorer.finder.outcome →
      next.HasOwnShell explorer.finder.outcome) :
    explorer.Consulted log [] next later := by
  refine ⟨make, ?_, [], ?_, ?_⟩
  · rwa [finder]
  · rw [runs, List.append_nil]
  · rw [finder]
    exact .quiet

/-- An adb that is found later is the shell of those only that have none. -/
theorem HasOwnShell.of_trail {finder found : Adb.Finder} {runs : List ProgramRun}
    (own : explorer.HasOwnShell finder.outcome) (trail : finder.Trail calls found runs) :
    explorer.HasOwnShell found.outcome := by
  cases trail with
  | quiet => exact own
  | searched unknown searched =>
      intro session present
      have given : explorer.launch = some session.launch := by
        simpa [shell?, unknown] using own session present
      simp [shell?, given]

theorem Consulted.of_trail {finder : Adb.Finder} {runs : List ProgramRun}
    (trail : explorer.finder.Trail calls finder runs) (ran : later.runs = log.runs ++ runs) :
    explorer.Consulted log calls { explorer with finder } later :=
  ⟨rfl, fun own => own.of_trail trail, runs, ran, trail⟩

theorem chooseLaunch_consults (explorer : Explorer) (log : Logged World) :
    Act.Ensures (explorer.chooseLaunch host.logged) log fun result later =>
      explorer.Consulted log [] result.2 later ∧
        ∀ launch, result.1 = .ok launch →
          result.2.shell? result.2.finder.outcome = some launch := by
  unfold chooseLaunch
  split
  next launch given =>
    refine .pure ⟨.refl explorer log, ?_⟩
    rintro _ ⟨⟩
    simp [shell?, given]
  next given =>
    refine .bind (explorer.finder.find_trails log).ensures ?_
    rintro ⟨_, finder⟩ later ⟨outcome, runs, rfl, known, ran, trail⟩
    cases outcome with
    | none => exact .pure ⟨.of_trail trail ran, by rintro _ ⟨⟩⟩
    | some adb =>
        refine .pure ⟨.of_trail trail ran, ?_⟩
        rintro _ ⟨⟩
        have known : finder.outcome = some (some adb) := known
        simp [shell?, given, known]

theorem openSession_runs (launch : Launch) (timeout : Span) (log : Logged World) :
    Act.Ensures (openSession host.logged launch timeout) log fun outcome later =>
      later.runs = log.runs ∧
        ∀ session path, outcome = .ok (session, path) → session.launch = launch := by
  unfold openSession
  refine .bind .question ?_
  intro clock told asked
  have asked := Host.runs_of_clock asked
  refine .bind ((Session.start_runs _).and (Session.start_sameMake _)) ?_
  rintro ⟨failure | _, opened⟩ started ⟨runs, same⟩
  · exact .pure ⟨runs.trans asked, by rintro _ _ ⟨⟩⟩
  · have asked := runs.trans asked
    refine .bind ((Session.execute_runs _ _).and (Session.execute_sameMake _ _)) ?_
    rintro ⟨failure | answer, session⟩ executed ⟨runs, still⟩
    · refine .bind (Session.stop_runs session) ?_
      intro _ later stopped
      exact .pure ⟨stopped.trans (runs.trans asked), by rintro _ _ ⟨⟩⟩
    · dsimp only
      split
      next =>
        refine .bind (Session.stop_runs session) ?_
        intro _ later stopped
        exact .pure ⟨stopped.trans (runs.trans asked), by rintro _ _ ⟨⟩⟩
      next =>
        refine .pure ⟨runs.trans asked, ?_⟩
        rintro _ _ ⟨⟩
        exact (same.trans still).launch

theorem changeLink_consulted (explorer : Explorer) (target : LinkPhase) (log : Logged World) :
    explorer.Consulted log [] (explorer.changeLink target).2 log := by
  unfold changeLink
  split
  next => exact .of_same rfl rfl rfl id
  next => exact .refl explorer log

theorem disconnect_consults (explorer : Explorer) (log : Logged World) :
    Act.Ensures (explorer.disconnect host.logged) log fun next later =>
      explorer.Consulted log [] next later := by
  have sessionless (outcome : Option (Option String)) :
      HasOwnShell { explorer with session := none, link := .disconnected } outcome := by
    rintro _ ⟨⟩
  unfold disconnect
  split
  next session _ =>
    refine .bind (Session.stop_runs session) ?_
    intro _ later runs
    exact .pure (.of_same rfl rfl runs fun _ => sessionless _)
  next => exact .pure (.of_same rfl rfl rfl fun _ => sessionless _)

theorem giveUp_consults (explorer : Explorer) (failure : Failure) (log : Logged World) :
    Act.Ensures
      (match explorer.changeLink .disconnected with
        | (.error refusal, explorer) => pure (.error refusal, explorer)
        | (.ok (), explorer) => pure (.error failure, explorer) :
          Act (Logged World) (Except Failure Unit × Explorer))
      log fun result later => explorer.Consulted log [] result.2 later := by
  have ends := explorer.changeLink_consulted .disconnected log
  generalize explorer.changeLink .disconnected = changed at ends ⊢
  rcases changed with ⟨refusal | _, after⟩
  · exact .pure ends
  · exact .pure ends

theorem connect_consults (explorer : Explorer) (log : Logged World) :
    Act.Ensures (explorer.connect host.logged) log fun result later =>
      explorer.Consulted log [] result.2 later := by
  unfold connect
  split
  next => exact .pure (.refl explorer log)
  next =>
    -- Whatever the phase, a change of it touches neither the finder nor the session.
    have begun := explorer.changeLink_consulted .connecting log
    generalize explorer.changeLink .connecting = changed at begun ⊢
    rcases changed with ⟨failure | _, begins⟩
    · exact .pure begun
    · refine .bind (begins.chooseLaunch_consults log) ?_
      rintro ⟨failure | launch, ready⟩ chosen ⟨chose, known⟩
      · refine .pure_bind ((ready.giveUp_consults failure chosen).weaken ?_)
        exact fun _ _ ends => (begun.trans chose).trans ends
      · refine .bind (openSession_runs launch _ chosen) ?_
        rintro (failure | ⟨session, path⟩) opened ⟨runs, started⟩
        · have quiet : ready.Consulted chosen [] ready opened :=
            .of_same rfl rfl runs id
          refine .pure_bind ((ready.giveUp_consults failure opened).weaken ?_)
          exact fun _ _ ends => ((begun.trans chose).trans quiet).trans ends
        · have opens : ready.Consulted chosen [] { ready with session := some session, path }
              opened := by
            refine .of_same rfl rfl runs ?_
            intro _ _ present
            obtain rfl := Option.some.inj present
            rw [started session path rfl]
            exact known launch rfl
          refine .pure_bind (.pure ?_)
          exact ((begun.trans chose).trans opens).trans (changeLink_consulted _ _ _)

theorem ensureConnected_consults (explorer : Explorer) (log : Logged World) :
    Act.Ensures (explorer.ensureConnected host.logged) log fun result later =>
      explorer.Consulted log [] result.2 later := by
  unfold ensureConnected
  split
  next => exact .pure (.refl explorer log)
  next =>
    refine .bind (explorer.disconnect_consults log) ?_
    intro idle middle gone
    refine .bind (idle.connect_consults middle) ?_
    rintro ⟨failure | _, ready⟩ later connected
    · exact .pure (gone.trans connected)
    · exact .pure (gone.trans connected)

theorem tryCommand_consults (explorer : Explorer) (text : String) (log : Logged World) :
    Act.Ensures (explorer.tryCommand host.logged text) log fun result later =>
      explorer.Consulted log [] result.2 later := by
  unfold tryCommand
  refine .bind (explorer.ensureConnected_consults log) ?_
  rintro ⟨failure | _, ready⟩ middle connected
  · exact .pure connected
  · dsimp only
    split
    next => exact .pure connected
    next session present =>
      refine .bind ((session.execute_runs text).and (session.execute_sameMake text)) ?_
      rintro ⟨answer, after⟩ executed ⟨runs, same⟩
      have ran : ready.Consulted middle [] { ready with session := some after } executed := by
        refine .of_same rfl rfl runs ?_
        intro own _ known
        obtain rfl := Option.some.inj known
        rw [same.launch]
        exact own session present
      dsimp only
      split
      next => exact .pure (connected.trans ran)
      next =>
        refine .bind (disconnect_consults _ executed) ?_
        intro gone later disconnected
        exact .pure ((connected.trans ran).trans disconnected)

/-- How a call of adb comes out, and which program is run for it besides the search, by the outcome
of that. -/
inductive Called (options : DeviceOptions) (arguments : List String) :
    Option String → Except Failure Adb.Result → List ProgramRun → Prop
  | lacking : Called options arguments none (.error .adbNotFound) []
  | ran {adb : String} {call : Adb.Call} (completion : Completion)
      (own : call = ⟨adb, options.serial, arguments, options.callTimeout⟩) :
      Called options arguments (some adb) (call.outcome completion) [call.ran completion]

/-- How an operation is answered, and which programs are run for it besides the search, by what is
known of adb after it. -/
inductive Carries (options : DeviceOptions) :
    Option (Option String) → Operation → OperationAnswer → List ProgramRun → Prop
  | alone (known : Option (Option String)) {operation : Operation} (answer : OperationAnswer)
      (alone : operation.callsAdb = false) : Carries options known operation answer []
  | refused (known : Option (Option String)) (direction : Direction) (source target : String)
      (failure : Failure) :
      Carries options known (.transfer direction source target) (.done (.error failure)) []
  | call {arguments : List String} {outcome : Option String} {answer : Except Failure Adb.Result}
      {calls : List ProgramRun} (called : Called options arguments outcome answer calls) :
      Carries options (some outcome) (.call arguments) (.called answer) calls
  | transfer {direction : Direction} {source target : String} {outcome : Option String}
      {answer : Except Failure Adb.Result} {calls : List ProgramRun}
      (called : Called options [direction.verb, source, target] outcome answer calls) :
      Carries options (some outcome) (.transfer direction source target)
        (.done (answer.bind checkTransfer)) calls

theorem Carries.eq_nil {options : DeviceOptions} {operation : Operation} {answer : OperationAnswer}
    (carried : Carries options none operation answer calls) : calls = [] := by
  cases carried with
  | alone | refused => rfl

theorem call_consults (explorer : Explorer) (arguments : List String) (log : Logged World) :
    Act.Ensures (explorer.call host.logged arguments) log fun result later =>
      ∃ calls outcome, explorer.Consulted log calls result.2 later ∧
        result.2.finder.outcome = some outcome ∧
        Called explorer.make.1 arguments outcome result.1 calls := by
  unfold call
  refine .bind (explorer.finder.find_trails log).ensures ?_
  rintro ⟨_, finder⟩ middle ⟨outcome, runs, rfl, known, ran, trail⟩
  cases outcome with
  | none => exact .pure ⟨[], none, .of_trail trail ran, known, .lacking⟩
  | some adb =>
      refine .bind (Adb.Call.run_achieves _ middle).ensures ?_
      rintro _ later ⟨completion, rfl, called⟩
      refine .pure ⟨_, some adb, .of_trail (trail.trans .quiet) ?_, known, .ran completion rfl⟩
      rw [called, ran, List.append_assoc]

theorem transfer_consults (explorer : Explorer) (direction : Direction) (source target : String)
    (log : Logged World) :
    Act.Ensures (explorer.transfer host.logged direction source target) log fun result later =>
      ∃ calls, explorer.Consulted log calls result.2 later ∧
        Carries explorer.make.1 result.2.finder.outcome (.transfer direction source target)
          (.done result.1) calls := by
  unfold transfer
  refine .bind (explorer.ensureConnected_consults log) ?_
  rintro ⟨failure | _, ready⟩ middle connected
  · exact .pure ⟨[], connected, .refused _ direction source target failure⟩
  · refine .bind (ready.call_consults _ middle) ?_
    rintro ⟨answer, after⟩ later ⟨calls, outcome, consulted, known, called⟩
    rw [connected.make] at called
    have carried : Carries explorer.make.1 after.finder.outcome (.transfer direction source target)
        (.done (answer.bind checkTransfer)) calls := by
      rw [known]
      exact .transfer called
    cases answer with
    | error failure => exact .pure ⟨calls, connected.trans consulted, carried⟩
    | ok result => exact .pure ⟨calls, connected.trans consulted, carried⟩

theorem change_consults (explorer : Explorer) (command : Shell.Command) (log : Logged World) :
    Act.Ensures (explorer.change host.logged command) log fun result later =>
      explorer.Consulted log [] result.2 later := by
  unfold change
  refine .bind (explorer.ensureConnected_consults log) ?_
  rintro ⟨failure | _, ready⟩ middle connected
  · exact .pure connected
  · refine .bind (ready.tryCommand_consults _ middle) ?_
    rintro ⟨failure | output, after⟩ later tried
    · exact .pure (connected.trans tried)
    · exact .pure (connected.trans tried)

theorem Consulted.moved (consulted : explorer.Consulted log [] next later) (path : String) :
    explorer.Consulted log [] { next with path } later :=
  consulted.trans (.of_same rfl rfl rfl id)

theorem workingDirectory_consults (explorer : Explorer) (log : Logged World) :
    Act.Ensures (explorer.workingDirectory host.logged) log fun result later =>
      explorer.Consulted log [] result.2 later := by
  unfold workingDirectory
  split
  next => exact .pure (.refl explorer log)
  next =>
    refine .bind (explorer.tryCommand_consults _ log) ?_
    rintro ⟨failure | answer, after⟩ later tried
    · exact .pure tried
    · exact .pure tried

theorem enter_consults (explorer : Explorer) (path : String) (log : Logged World) :
    Act.Ensures (explorer.enter host.logged path) log fun result later =>
      explorer.Consulted log [] result.2 later := by
  unfold enter
  split
  next => exact .pure (.refl explorer log)
  next =>
    refine .bind (explorer.tryCommand_consults _ log) ?_
    rintro ⟨failure | answer, after⟩ later tried
    · exact .pure tried
    · dsimp only
      split
      next => exact .pure tried
      next => exact .pure (tried.moved _)

theorem list_consults (explorer : Explorer) (reading : Listing.Reading) (path : String)
    (log : Logged World) :
    Act.Ensures (explorer.list host.logged reading path) log fun result later =>
      explorer.Consulted log [] result.2 later := by
  unfold list
  split
  next => exact .pure (.refl explorer log)
  next =>
    refine .bind (explorer.tryCommand_consults _ log) ?_
    rintro ⟨failure | answer, after⟩ later tried
    · exact .pure tried
    · dsimp only
      split
      next => exact .pure tried
      next => exact .pure (tried.moved _)

theorem command_consults (explorer : Explorer) (text : String) (log : Logged World) :
    Act.Ensures (explorer.command host.logged text) log fun result later =>
      explorer.Consulted log [] result.2 later := by
  unfold command
  refine .bind (explorer.tryCommand_consults text log) ?_
  rintro ⟨failure | answer, after⟩ later tried
  · exact .pure tried
  · exact .pure tried

/-- Every operation looks for adb if need be, and then runs what it has to run itself. -/
theorem perform_consults (explorer : Explorer) (operation : Operation) (log : Logged World) :
    Act.Ensures (explorer.perform host.logged operation) log fun result later =>
      ∃ calls, explorer.Consulted log calls result.2 later ∧
        Carries explorer.make.1 result.2.finder.outcome operation result.1 calls := by
  have alone {Answer : Type} {act : Act (Logged World) (Answer × Explorer)}
      (consults : Act.Ensures act log fun result later =>
        explorer.Consulted log [] result.2 later) (told : Answer → OperationAnswer)
      (alone : operation.callsAdb = false) :
      Act.Ensures (do let (answer, next) ← act; return (told answer, next)) log
        fun result later => ∃ calls, explorer.Consulted log calls result.2 later ∧
          Carries explorer.make.1 result.2.finder.outcome operation result.1 calls := by
    refine .bind consults ?_
    intro result later consulted
    exact .pure ⟨[], consulted, .alone _ _ alone⟩
  cases operation with
  | connect => exact alone (explorer.connect_consults log) .done rfl
  | disconnect =>
      refine .bind (explorer.disconnect_consults log) ?_
      intro next later consulted
      exact .pure ⟨[], consulted, .alone _ _ rfl⟩
  | command text => exact alone (explorer.command_consults text log) .text rfl
  | tryCommand text => exact alone (explorer.tryCommand_consults text log) .tried rfl
  | workingDirectory => exact alone (explorer.workingDirectory_consults log) .text rfl
  | enter path => exact alone (explorer.enter_consults path log) .entered rfl
  | list reading path => exact alone (explorer.list_consults reading path log) .listed rfl
  | removeFile path | removeTree path | makeDirectory path =>
      exact alone (explorer.change_consults _ log) .done rfl
  | call arguments =>
      refine .bind (explorer.call_consults arguments log) ?_
      rintro ⟨answer, next⟩ later ⟨calls, outcome, consulted, known, called⟩
      refine .pure ⟨calls, consulted, ?_⟩
      rw [known]
      exact .call called
  | transfer direction source target =>
      refine .bind (explorer.transfer_consults direction source target log) ?_
      intro result later carried
      exact .pure carried

end Explorer

end DeviceBrowser
