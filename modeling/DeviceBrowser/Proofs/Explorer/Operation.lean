import DeviceBrowser.Proofs.Explorer.Connection
import DeviceBrowser.Proofs.Session.Conversation

/-!
Sequences of operations on one explorer.

`perform` is one operation by name, and `performAll` performs a list of them.  What an
operation does with the shell is its `ShellUse`, and `perform_follows` says that it does just
that.  From a new explorer on, every sequence that comes to its end leaves it either
disconnected or connected, with as many children as that takes.
-/

namespace DeviceBrowser

open Calendar

inductive Operation where
  | connect
  | disconnect
  | command (text : String)
  | tryCommand (text : String)
  | call (arguments : List String)
  | workingDirectory
  | enter (path : String)
  | list (reading : Listing.Reading) (path : String)
  | transfer (direction : Explorer.Direction) (source target : String)
  | removeFile (path : String)
  | removeTree (path : String)
  | makeDirectory (path : String)

inductive OperationAnswer where
  | done (outcome : Except Failure Unit)
  | text (text : String)
  | tried (outcome : Except Failure String)
  | called (outcome : Except Failure Adb.Result)
  | entered (outcome : Except Failure Bool)
  | listed (outcome : Except Failure Listing)

def failureOf? {Answer : Type} : Except Failure Answer → Option Failure
  | .ok _ => none
  | .error failure => some failure

def OperationAnswer.failure? : OperationAnswer → Option Failure
  | .done outcome => failureOf? outcome
  | .text _ => none
  | .tried outcome => failureOf? outcome
  | .called outcome => failureOf? outcome
  | .entered outcome => failureOf? outcome
  | .listed outcome => failureOf? outcome

namespace Explorer

variable {World : Type} (host : Host World)

def perform (explorer : Explorer) : Operation → Act World (OperationAnswer × Explorer)
  | .connect => do
      let (outcome, explorer) ← explorer.connect host
      return (.done outcome, explorer)
  | .disconnect => return (.done (.ok ()), ← explorer.disconnect host)
  | .command text => do
      let (answer, explorer) ← explorer.command host text
      return (.text answer, explorer)
  | .tryCommand text => do
      let (outcome, explorer) ← explorer.tryCommand host text
      return (.tried outcome, explorer)
  | .call arguments => do
      let (outcome, explorer) ← explorer.call host arguments
      return (.called outcome, explorer)
  | .workingDirectory => do
      let (answer, explorer) ← explorer.workingDirectory host
      return (.text answer, explorer)
  | .enter path => do
      let (outcome, explorer) ← explorer.enter host path
      return (.entered outcome, explorer)
  | .list reading path => do
      let (outcome, explorer) ← explorer.list host reading path
      return (.listed outcome, explorer)
  | .transfer direction source target => do
      let (outcome, explorer) ← explorer.transfer host direction source target
      return (.done outcome, explorer)
  | .removeFile path => do
      let (outcome, explorer) ← explorer.removeFile host path
      return (.done outcome, explorer)
  | .removeTree path => do
      let (outcome, explorer) ← explorer.removeTree host path
      return (.done outcome, explorer)
  | .makeDirectory path => do
      let (outcome, explorer) ← explorer.makeDirectory host path
      return (.done outcome, explorer)

def performAll (explorer : Explorer) :
    List Operation → Act World (List OperationAnswer × Explorer)
  | [] => return ([], explorer)
  | operation :: operations => do
      let (answer, explorer) ← explorer.perform host operation
      let (answers, explorer) ← explorer.performAll operations
      return (answer :: answers, explorer)

end Explorer

structure ShellUse where
  text : String
  /-- Whether a connection is made for it where there is none. -/
  reconnects : Bool
  read : String → OperationAnswer
  failing : Failure → OperationAnswer
  /-- Where the explorer has moved to, if it has. -/
  reached : String → Option String := fun _ => none

namespace ShellUse

/-- What an operation makes of the outcome of its command. -/
def conclude (use : ShellUse) : Except Failure String × Explorer → OperationAnswer × Explorer
  | (.ok output, explorer) =>
      (use.read output, { explorer with path := (use.reached output).getD explorer.path })
  | (.error failure, explorer) => (use.failing failure, explorer)

/-- Whatever keeps a command from being answered counts as an empty answer. -/
def command (text : String) : ShellUse where
  text
  reconnects := true
  read := .text
  failing _ := .text ""

def tryCommand (text : String) : ShellUse where
  text
  reconnects := true
  read output := .tried (.ok output)
  failing failure := .tried (.error failure)

def workingDirectory : ShellUse where
  text := Shell.Command.workingDirectory.text
  reconnects := false
  read output := .text (if output.isEmpty then "/" else output)
  failing _ := .text "/"

def change (command : Shell.Command) : ShellUse where
  text := command.text
  reconnects := true
  read output := .done (Explorer.checkOutput output)
  failing failure := .done (.error failure)

def enter (path : String) : ShellUse where
  text := (Shell.Command.enter path).text
  reconnects := false
  read output := .entered (.ok !(Terminal.withoutLineEnds output).isEmpty)
  failing failure := .entered (.error failure)
  reached output :=
    let reached := Terminal.withoutLineEnds output
    if reached.isEmpty then none else some reached

/-- A listing that does not say where it is from is from the directory that was asked for. -/
def located (path : String) (listing : Listing) : Listing :=
  { listing with path := if listing.path.isEmpty then path else listing.path }

def list (reading : Listing.Reading) (path : String) : ShellUse where
  text := (Shell.Command.list path).text
  reconnects := false
  read output := .listed ((Listing.read reading output).map (located path))
  failing failure := .listed (.error failure)
  reached output := (Listing.read reading output).toOption.map fun listing =>
    (located path listing).path

end ShellUse

def Operation.shellUse? : Operation → Option ShellUse
  | .command text => some (.command text)
  | .tryCommand text => some (.tryCommand text)
  | .workingDirectory => some .workingDirectory
  | .enter path => some (.enter path)
  | .list reading path => some (.list reading path)
  | .removeFile path => some (.change (.removeFile path))
  | .removeTree path => some (.change (.removeTree path))
  | .makeDirectory path => some (.change (.makeDirectory path))
  | .connect | .disconnect | .call _ | .transfer _ _ _ => none

namespace Explorer

variable {World : Type} {host : Host World} {watched : Observed World} {explorer : Explorer}

/-- An operation with a command of its own comes to the shell, tries the command there, and
concludes from what has come of it. -/
def Follows (host : Host World) (use : ShellUse) (explorer : Explorer) (watched : Observed World)
    (result : OperationAnswer × Explorer) (later : Observed World) : Prop :=
  ∃ ready middle tried, Approach host use.reconnects explorer watched ready middle ∧
    Tried host use.text ready middle tried later ∧ result = use.conclude tried

theorem follows_of_tries (use : ShellUse) {Answer : Type}
    {act : Act (Observed World) (Except Failure String × Explorer)}
    {first : Except Failure String × Explorer → Act (Observed World) (Answer × Explorer)}
    {last : Answer × Explorer → Act (Observed World) (OperationAnswer × Explorer)}
    (tries : Act.Ensures act watched fun tried later => ∃ ready middle,
      Approach host use.reconnects explorer watched ready middle ∧
        Tried host use.text ready middle tried later)
    (concludes : ∀ tried, (first tried >>= last) = pure (use.conclude tried)) :
    Act.Ensures ((act >>= first) >>= last) watched (Follows host use explorer watched) := by
  rw [bind_assoc]
  refine tries.bind ?_
  rintro tried later ⟨ready, middle, approach, ran⟩
  rw [concludes]
  exact .pure ⟨ready, middle, tried, approach, ran, rfl⟩

theorem tryCommand_tries_of_connected (sound : explorer.Sound watched)
    (together : explorer.isConnected = true) (text : String) :
    Act.Ensures (explorer.tryCommand host.observed text) watched fun tried later =>
      Tried host text explorer watched tried later := by
  refine (tryCommand_tries sound text).weaken ?_
  rintro tried later ⟨ready, middle, approach, ran⟩
  cases approach with
  | asIs _ => exact ran
  | refused apart | attempt apart =>
      rw [together] at apart
      cases apart

theorem follows_if_connected (use : ShellUse) {Answer : Type}
    {first : Except Failure String × Explorer → Act (Observed World) (Answer × Explorer)}
    {refusal : Act (Observed World) (Answer × Explorer)}
    {last : Answer × Explorer → Act (Observed World) (OperationAnswer × Explorer)}
    (sound : explorer.Sound watched) (waits : use.reconnects = false)
    (concludes : ∀ tried, (first tried >>= last) = pure (use.conclude tried))
    (refuses : (refusal >>= last) = pure (use.failing .notConnected, explorer)) :
    Act.Ensures
      ((if !explorer.isConnected then refusal
        else explorer.tryCommand host.observed use.text >>= first) >>= last)
      watched (Follows host use explorer watched) := by
  by_cases together : explorer.isConnected = true
  · rw [if_neg (by simp [together])]
    refine follows_of_tries use ?_ concludes
    refine (tryCommand_tries_of_connected sound together use.text).weaken ?_
    intro tried later ran
    exact ⟨explorer, watched, .asIs together, ran⟩
  · have apart : explorer.isConnected = false := Bool.eq_false_iff.mpr together
    rw [if_pos (by simp [apart]), refuses]
    exact .pure ⟨explorer, watched, _, .refused apart waits, .refused apart, rfl⟩

/-- A change of files asks for a connection twice, and the second time there is one. -/
theorem change_follows (sound : explorer.Sound watched) (command : Shell.Command) :
    Act.Ensures
      (explorer.change host.observed command >>= fun result => pure (.done result.1, result.2))
      watched (Follows host (.change command) explorer watched) := by
  unfold change
  rw [bind_assoc]
  refine ensureConnected_andThen sound ?_ ?_
  · intro ready middle approach together
    dsimp only
    rw [bind_assoc]
    refine .bind (tryCommand_tries_of_connected (approach.sound sound) together _) ?_
    rintro ⟨failure | output, after⟩ later ran
    · exact .pure_bind (.pure ⟨ready, middle, _, approach, ran, rfl⟩)
    · exact .pure_bind (.pure ⟨ready, middle, _, approach, ran, rfl⟩)
  · intro ready middle approach apart
    exact .pure_bind (.pure ⟨ready, middle, _, approach, .refused apart, rfl⟩)

theorem perform_follows (sound : explorer.Sound watched) {operation : Operation} {use : ShellUse}
    (uses : operation.shellUse? = some use) :
    Act.Ensures (explorer.perform host.observed operation) watched
      (Follows host use explorer watched) := by
  cases operation with
  | command text =>
      cases uses
      rw [perform, command]
      refine follows_of_tries (.command text) (tryCommand_tries sound text) ?_
      rintro ⟨_ | _, _⟩ <;> rfl
  | tryCommand text =>
      cases uses
      rw [perform]
      refine .bind (tryCommand_tries sound text) ?_
      rintro ⟨failure | output, after⟩ later ⟨ready, middle, approach, ran⟩
      · exact .pure ⟨ready, middle, _, approach, ran, rfl⟩
      · exact .pure ⟨ready, middle, _, approach, ran, rfl⟩
  | workingDirectory =>
      cases uses
      rw [perform, workingDirectory]
      refine follows_if_connected .workingDirectory sound rfl ?_ rfl
      rintro ⟨_ | _, _⟩ <;> rfl
  | enter path =>
      cases uses
      rw [perform, enter]
      refine follows_if_connected (.enter path) sound rfl ?_ rfl
      rintro ⟨_ | output, _⟩
      · rfl
      · simp only [ShellUse.conclude, ShellUse.enter]
        split <;> simp [*]
  | list reading path =>
      cases uses
      rw [perform, list]
      refine follows_if_connected (.list reading path) sound rfl ?_ rfl
      rintro ⟨_ | output, _⟩
      · rfl
      · simp only [ShellUse.conclude, ShellUse.list]
        split
        next found => rw [found]; rfl
        next found => rw [found]; rfl
  | removeFile path | removeTree path | makeDirectory path =>
      cases uses
      exact change_follows sound _
  | connect | disconnect | call | transfer => cases uses

/-- How a transfer comes out: it is refused without a connection, and leaves the one that is
there alone. -/
inductive Carried (host : Host World) (direction : Direction) (source target : String)
    (ready : Explorer) (middle : Observed World) :
    OperationAnswer × Explorer → Observed World → Prop
  | refused (apart : ready.isConnected = false) :
      Carried host direction source target ready middle (.done (.error .notConnected), ready) middle
  | carried {outcome : Except Failure Adb.Result} {finder : Adb.Finder} {later : Observed World}
      (together : ready.isConnected = true)
      (ran : (ready.call host.observed [direction.verb, source, target]).runFrom middle =
        (.ok (outcome, { ready with finder }), later))
      (quiet : OnlyRan middle later) :
      Carried host direction source target ready middle
        (.done (outcome.bind checkTransfer), { ready with finder }) later

theorem transfer_carries (sound : explorer.Sound watched) (direction : Direction)
    (source target : String) :
    Act.Ensures
      (explorer.transfer host.observed direction source target >>= fun result =>
        pure (.done result.1, result.2))
      watched fun result later =>
        ∃ ready middle, Approach host true explorer watched ready middle ∧
          Carried host direction source target ready middle result later := by
  unfold transfer
  rw [bind_assoc]
  refine ensureConnected_andThen sound ?_ ?_
  · intro ready middle approach together
    dsimp only
    rw [bind_assoc]
    refine .bind (ready.call_ensures _).ran ?_
    rintro ⟨failure | result, _⟩ later ⟨ran, ordinary, quiet, finder, rfl⟩
    · exact .pure_bind (.pure ⟨ready, middle, approach, .carried together ran quiet⟩)
    · exact .pure_bind (.pure ⟨ready, middle, approach, .carried together ran quiet⟩)
  · intro ready middle approach apart
    exact .pure_bind (.pure ⟨ready, middle, approach, .refused apart⟩)

structure Performed (result : OperationAnswer × Explorer) (watched : Observed World) : Prop where
  ordinary : ∀ failure ∈ result.1.failure?, failure.isInternal = false
  sound : result.2.Sound watched

theorem ordinary_failureOf {Answer : Type} {outcome : Except Failure Answer}
    (ordinary : Ordinary outcome) : ∀ failure ∈ failureOf? outcome, failure.isInternal = false := by
  intro failure told
  cases outcome with
  | ok value => cases told
  | error cause =>
      rw [failureOf?, Option.mem_some_iff] at told
      exact ordinary failure (congrArg Except.error told)

theorem ordinary_checkOutput (output : String) : Ordinary (checkOutput output) := by
  unfold checkOutput
  split
  next => exact ordinary_ok _
  next => exact ordinary_error rfl

theorem ordinary_checkTransfer (result : Adb.Result) : Ordinary (checkTransfer result) := by
  unfold checkTransfer
  dsimp only
  split
  next => exact ordinary_ok _
  next => exact ordinary_error rfl

theorem ordinary_read (reading : Listing.Reading) (answer : String) :
    Ordinary (Listing.read reading answer) := by
  unfold Listing.read
  dsimp only
  split
  next => exact ordinary_error rfl
  next => exact ordinary_ok _

theorem ordinary_map {First Second : Type} {outcome : Except Failure First}
    (ordinary : Ordinary outcome) (change : First → Second) : Ordinary (outcome.map change) := by
  cases outcome with
  | ok value => exact ordinary_ok _
  | error failure => exact ordinary_error (ordinary failure rfl)

theorem ordinary_bind {First Second : Type} {outcome : Except Failure First}
    {next : First → Except Failure Second} (ordinary : Ordinary outcome)
    (rest : ∀ value, Ordinary (next value)) : Ordinary (outcome.bind next) := by
  cases outcome with
  | ok value => exact rest value
  | error failure => exact ordinary_error (ordinary failure rfl)

theorem ordinary_conclude {operation : Operation} {use : ShellUse}
    (uses : operation.shellUse? = some use) {tried : Except Failure String × Explorer}
    (ordinary : Ordinary tried.1) :
    ∀ failure ∈ (use.conclude tried).1.failure?, failure.isInternal = false := by
  rcases tried with ⟨cause | output, explorer⟩
  · have plain := ordinary_failureOf ordinary
    cases operation with
    | command | workingDirectory => cases uses; rintro _ ⟨⟩
    | tryCommand | enter | list | removeFile | removeTree | makeDirectory =>
        cases uses
        exact plain
    | connect | disconnect | call | transfer => cases uses
  · cases operation with
    | command | workingDirectory | tryCommand | enter => cases uses; rintro _ ⟨⟩
    | list reading path =>
        cases uses
        exact ordinary_failureOf (ordinary_map (ordinary_read reading output) _)
    | removeFile | removeTree | makeDirectory =>
        cases uses
        exact ordinary_failureOf (ordinary_checkOutput output)
    | connect | disconnect | call | transfer => cases uses

/-- Every operation keeps an explorer sound and does not fail because of a phase. -/
theorem perform_ensures (sound : explorer.Sound watched) (operation : Operation) :
    Act.Ensures (explorer.perform host.observed operation) watched Performed := by
  cases uses : operation.shellUse? with
  | some use =>
      refine (perform_follows sound uses).weaken ?_
      rintro _ later ⟨ready, middle, tried, approach, ran, rfl⟩
      obtain ⟨ordinary, soundAfter⟩ := ran.settled (approach.sound sound)
      refine ⟨ordinary_conclude uses ordinary, ?_⟩
      rcases tried with ⟨failure | output, after⟩
      · exact soundAfter
      · exact soundAfter.of_same rfl rfl rfl
  | none =>
      cases operation with
      | connect =>
          refine .bind (connect_approaches sound) ?_
          rintro ⟨outcome, after⟩ later ⟨approach, -, ordinary⟩
          exact .pure ⟨ordinary_failureOf ordinary, approach.sound sound⟩
      | disconnect =>
          refine .bind (disconnect_ensures sound) ?_
          rintro after later ⟨soundAfter, -⟩
          exact .pure ⟨by rintro failure ⟨⟩, soundAfter⟩
      | call arguments =>
          refine .bind (explorer.call_ensures arguments) ?_
          rintro ⟨outcome, _⟩ later ⟨ordinary, quiet, finder, rfl⟩
          exact .pure ⟨ordinary_failureOf ordinary, sound.of_same rfl rfl quiet.held_eq⟩
      | transfer direction source target =>
          refine (transfer_carries sound direction source target).weaken ?_
          rintro _ later ⟨ready, middle, approach, carried⟩
          have soundReady := approach.sound sound
          cases carried with
          | refused apart =>
              refine ⟨?_, soundReady⟩
              rintro _ ⟨⟩
              rfl
          | carried together ran quiet =>
              obtain ⟨ordinary, -⟩ := ready.call_ensures _ _ _ ran
              refine ⟨ordinary_failureOf (ordinary_bind ordinary ordinary_checkTransfer), ?_⟩
              exact soundReady.of_same rfl rfl quiet.held_eq
      | command | tryCommand | workingDirectory | enter | list | removeFile | removeTree
        | makeDirectory => cases uses

theorem performAll_ensures {explorer : Explorer} (sound : explorer.Sound watched)
    (operations : List Operation) :
    Act.Ensures (explorer.performAll host.observed operations) watched fun result later =>
      (∀ answer ∈ result.1, ∀ failure ∈ answer.failure?, failure.isInternal = false) ∧
        result.2.Sound later := by
  induction operations generalizing explorer watched with
  | nil => exact .pure ⟨by simp, sound⟩
  | cons operation operations inductionHypothesis =>
      refine .bind (perform_ensures sound operation) ?_
      intro result afterFirst first
      obtain ⟨answer, explorer⟩ := result
      refine .bind (inductionHypothesis first.sound) ?_
      intro result later rest
      obtain ⟨answers, explorer⟩ := result
      exact .pure ⟨List.forall_mem_cons.mpr ⟨first.ordinary, rest.1⟩, rest.2⟩

theorem sound_new (finder : Adb.Finder) (options : DeviceOptions) (launch : Option Launch)
    (world : World) : (new finder options launch).Sound (⟨world, []⟩ : Observed World) :=
  .disconnected rfl rfl rfl

/-- After any operations an explorer is disconnected without a session and without a child,
or connected with a running session and the one child that takes.  No operation fails
because of a phase. -/
theorem phase_matches_session {finder : Adb.Finder} {options : DeviceOptions}
    {launch : Option Launch} {operations : List Operation} {world : World}
    {answers : List OperationAnswer} {explorer : Explorer} {later : Observed World}
    (completed : ((new finder options launch).performAll host.observed operations).runFrom ⟨world, []⟩ =
      (.ok (answers, explorer), later)) :
    explorer.link ≠ .connecting ∧
      (explorer.link = .connected ↔ ∃ session, explorer.session = some session) ∧
      (∀ session ∈ explorer.session, session.isRunning = true) ∧
      (held later.events).length = (if explorer.isConnected then 1 else 0) ∧
      ∀ answer ∈ answers, ∀ failure ∈ answer.failure?,
        (∀ phase, failure ≠ .notRunning phase) ∧
          ∀ source target, failure ≠ .phaseChange source target := by
  obtain ⟨ordinary, sound⟩ :=
    performAll_ensures (sound_new finder options launch world) operations _ _ completed
  have plain : ∀ answer ∈ answers, ∀ failure ∈ answer.failure?,
      (∀ phase, failure ≠ .notRunning phase) ∧
        ∀ source target, failure ≠ .phaseChange source target := by
    intro answer listed failure told
    have external := ordinary answer listed failure told
    constructor
    · rintro phase rfl
      cases external
    · rintro source target rfl
      cases external
  have sound : explorer.Sound later := sound
  cases sound with
  | disconnected link sessionless childless =>
      have apart : explorer.isConnected = false := by rw [isConnected, link]; rfl
      refine ⟨by simp [link], by simp [link, sessionless], by simp [sessionless], ?_, plain⟩
      simp [childless, apart]
  | @connected session link present running kept =>
      have together : explorer.isConnected = true := by rw [isConnected, link]; rfl
      have one : (held later.events).length = 1 := by
        obtain ⟨shell, stage⟩ := Session.isRunning_iff.mp running
        rw [kept, Session.children, stage]
        rfl
      refine ⟨by simp [link], by simp [link, present], by simp [present, running], ?_, plain⟩
      rw [one, together]
      rfl

/-- The first command is answered and the second is not, so the connection is given up. -/
theorem phase_matches_session_silent_shell :
    let operations : List Operation := [.connect, .tryCommand "ls", .tryCommand "ls"]
    let batches := [[Text.Utf8.encode "/sdcard\n__MARK_0_0__\n".toList]]
    ∃ answers explorer later,
      ((new .new {} (some (.shell "sh"))).performAll Host.replaying.observed operations).runFrom
        ⟨batches, []⟩ = (.ok (answers, explorer), later) ∧
      explorer.link ≠ .connecting ∧
      (explorer.link = .connected ↔ ∃ session, explorer.session = some session) ∧
      (∀ session ∈ explorer.session, session.isRunning = true) ∧
      (held later.events).length = (if explorer.isConnected then 1 else 0) ∧
      ∀ answer ∈ answers, ∀ failure ∈ answer.failure?,
        (∀ phase, failure ≠ .notRunning phase) ∧
          ∀ source target, failure ≠ .phaseChange source target := by
  intro operations batches
  have completes : (((new .new {} (some (.shell "sh"))).performAll Host.replaying.observed
      operations).runFrom ⟨batches, []⟩).1.isOk = true := by
    decide +kernel
  cases ran : ((new .new {} (some (.shell "sh"))).performAll Host.replaying.observed
      operations).runFrom ⟨batches, []⟩ with
  | mk outcome later =>
      cases outcome with
      | error abort =>
          rw [ran] at completes
          cases completes
      | ok result => exact ⟨result.1, result.2, later, rfl, phase_matches_session ran⟩

end Explorer

end DeviceBrowser
