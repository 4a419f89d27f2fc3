import DeviceBrowser.Proofs.Explorer.Operation

/-!
Where an explorer is after an operation.

A new connection begins in the directory that its shell tells.  Beyond that only entering and
listing a directory move the explorer, and only if they work; whatever fails leaves it where
it was.
-/

namespace DeviceBrowser

open Terminal

variable {World : Type} {host : Host World} {watched middle later : Observed World}

def Operation.connects : Operation → Bool
  | .connect | .command _ | .tryCommand _ | .transfer _ _ _ | .removeFile _ | .removeTree _
    | .makeDirectory _ => true
  | .disconnect | .call _ | .workingDirectory | .enter _ | .list _ _ => false

def Operation.moves : Operation → OperationAnswer → Bool
  | .enter _, .entered (.ok true) => true
  | .list _ _, .listed (.ok _) => true
  | _, _ => false

theorem Operation.connects_eq {operation : Operation} {use : ShellUse}
    (uses : operation.shellUse? = some use) : operation.connects = use.reconnects := by
  cases operation <;> cases uses <;> rfl

theorem Operation.eq_entered_of_moves {path : String} {answer : OperationAnswer}
    (moves : (Operation.enter path).moves answer = true) : answer = .entered (.ok true) := by
  unfold Operation.moves at moves
  split at moves
  next entering => rfl
  next listing => cases listing
  next => cases moves

namespace Explorer

variable {explorer ready : Explorer}

/-- A connection that is there, or cannot be made, leaves the explorer where it is.  A new one
begins where its shell says. -/
structure Arrival (host : Host World) (explorer : Explorer) (watched : Observed World)
    (ready : Explorer) (middle : Observed World) : Prop where
  stays : explorer.isConnected = true ∨ ready.isConnected = false → ready.path = explorer.path
  begins : explorer.isConnected = false → ready.isConnected = true →
    ∃ session, ready.session = some session ∧ Told host watched session ready.path middle

theorem Arrival.of_same (explorer : Explorer) (watched : Observed World) :
    Arrival host explorer watched explorer watched := by
  refine ⟨fun _ => rfl, ?_⟩
  intro apart together
  rw [apart] at together
  cases together

theorem Attempted.path_of_error {before now : List HostEvent} {failure : Failure}
    (attempted : Attempted explorer before (.error failure, ready) now) :
    ready.path = explorer.path := by
  cases attempted
  rfl

theorem Sound.link_of_apart (sound : explorer.Sound watched)
    (apart : explorer.isConnected = false) : explorer.link = .disconnected := by
  cases sound with
  | disconnected link sessionless childless => exact link
  | connected link present running kept =>
      rw [isConnected_iff.mpr link] at apart
      cases apart

theorem Approach.arrival {reconnects : Bool} (sound : explorer.Sound watched)
    (approach : Approach host reconnects explorer watched ready middle) :
    Arrival host explorer watched ready middle := by
  cases approach with
  | asIs together => exact .of_same explorer watched
  | refused apart refuses => exact .of_same explorer watched
  | @attempt outcome _ _ apart tries ran attempted told =>
      obtain ⟨-, tells⟩ := connect_attempts (sound.link_of_apart apart) _ _ ran
      refine ⟨?_, ?_⟩
      · intro unmade
        cases outcome with
        | error failure => exact attempted.path_of_error
        | ok _ => simp [apart, told, Except.isOk, Except.toBool] at unmade
      · intro _ together
        rw [told] at together
        cases outcome with
        | error failure => cases together
        | ok _ => exact tells rfl

theorem Tried.path_eq {text : String} {tried : Except Failure String × Explorer}
    (ran : Tried host text ready middle tried later) : tried.2.path = ready.path := by
  cases ran <;> rfl

theorem disconnect_path (explorer : Explorer) :
    Act.Ensures (explorer.disconnect host.observed) watched fun after _ =>
      after.path = explorer.path := by
  unfold disconnect
  cases explorer.session with
  | none => exact .pure rfl
  | some session =>
      refine .bind session.stop_achieves.ensures ?_
      intro _ _ _
      exact .pure rfl

/-- Where an explorer is after an operation that came to the shell by way of `ready`. -/
structure Moved (host : Host World) (operation : Operation) (explorer : Explorer)
    (watched : Observed World) (ready : Explorer) (middle : Observed World)
    (result : OperationAnswer × Explorer) (later : Observed World) : Prop where
  approach : Approach host operation.connects explorer watched ready middle
  arrival : Arrival host explorer watched ready middle
  /-- An explorer that has entered a directory is where the shell says. -/
  entered : ∀ path, operation = .enter path → result.1 = .entered (.ok true) →
    ∃ output tried, Tried host (Shell.Command.enter path).text ready middle (.ok output, tried)
        later ∧
      result.2.path = withoutLineEnds output ∧ result.2.path ≠ ""
  /-- An explorer that has listed a directory is where the listing says, or where it was asked
  to be. -/
  listed : ∀ reading path listing, operation = .list reading path →
    result.1 = .listed (.ok listing) →
    ∃ output tried parsed, Tried host (Shell.Command.list path).text ready middle
        (.ok output, tried) later ∧
      Listing.read reading output = .ok parsed ∧
      listing = { parsed with path := if parsed.path.isEmpty then path else parsed.path } ∧
      result.2.path = listing.path
  stays : operation.moves result.1 = false → result.2.path = ready.path

theorem conclude_enter {path : String} {tried : Except Failure String × Explorer}
    (entered : ((ShellUse.enter path).conclude tried).1 = .entered (.ok true)) :
    ∃ output after, tried = (.ok output, after) ∧
      ((ShellUse.enter path).conclude tried).2.path = withoutLineEnds output ∧
      ((ShellUse.enter path).conclude tried).2.path ≠ "" := by
  rcases tried with ⟨failure | output, after⟩
  · cases entered
  · have filled : withoutLineEnds output ≠ "" := by
      simpa [ShellUse.conclude, ShellUse.enter] using entered
    have reached : ((ShellUse.enter path).conclude (.ok output, after)).2.path =
        withoutLineEnds output := by
      simp [ShellUse.conclude, ShellUse.enter, filled]
    refine ⟨output, after, rfl, reached, ?_⟩
    rwa [reached]

theorem conclude_list {reading : Listing.Reading} {path : String} {listing : Listing}
    {tried : Except Failure String × Explorer}
    (listed : ((ShellUse.list reading path).conclude tried).1 = .listed (.ok listing)) :
    ∃ output after parsed, tried = (.ok output, after) ∧
      Listing.read reading output = .ok parsed ∧ listing = ShellUse.located path parsed ∧
      ((ShellUse.list reading path).conclude tried).2.path = listing.path := by
  rcases tried with ⟨failure | output, after⟩
  · cases listed
  · cases found : Listing.read reading output with
    | error failure =>
        simp [ShellUse.conclude, ShellUse.list, found, Except.map] at listed
    | ok parsed =>
        simp only [ShellUse.conclude, ShellUse.list, found, Except.map,
          OperationAnswer.listed.injEq, Except.ok.injEq] at listed
        refine ⟨output, after, parsed, rfl, found, listed.symm, ?_⟩
        simp [ShellUse.conclude, ShellUse.list, found, Except.toOption, listed]

theorem conclude_stays {operation : Operation} {use : ShellUse}
    (uses : operation.shellUse? = some use) {tried : Except Failure String × Explorer}
    (still : operation.moves (use.conclude tried).1 = false) :
    (use.conclude tried).2.path = tried.2.path := by
  rcases tried with ⟨failure | output, after⟩
  · rfl
  · cases operation with
    | command | tryCommand | workingDirectory | removeFile | removeTree | makeDirectory =>
        cases uses
        rfl
    | enter path =>
        cases uses
        cases filled : (withoutLineEnds output).isEmpty with
        | true =>
            simp only [ShellUse.conclude, ShellUse.enter, filled, if_true, Option.getD_none]
        | false => simp [ShellUse.conclude, ShellUse.enter, filled, Operation.moves] at still
    | list reading path =>
        cases uses
        cases found : Listing.read reading output with
        | error failure => simp [ShellUse.conclude, ShellUse.list, found, Except.toOption]
        | ok parsed =>
            simp [ShellUse.conclude, ShellUse.list, found, Except.map, Operation.moves] at still
    | connect | disconnect | call | transfer => cases uses

theorem Moved.of_follows {operation : Operation} {use : ShellUse}
    {result : OperationAnswer × Explorer} (uses : operation.shellUse? = some use)
    (sound : explorer.Sound watched) (follows : Follows host use explorer watched result later) :
    ∃ ready middle, Moved host operation explorer watched ready middle result later := by
  obtain ⟨ready, middle, tried, approach, ran, rfl⟩ := follows
  refine ⟨ready, middle, ?_, approach.arrival sound, ?_, ?_, ?_⟩
  · rwa [Operation.connects_eq uses]
  · rintro path rfl entered
    cases uses
    obtain ⟨output, after, rfl, reached⟩ := conclude_enter entered
    exact ⟨output, after, ran, reached⟩
  · rintro reading path listing rfl listed
    cases uses
    obtain ⟨output, after, parsed, rfl, found, located, reached⟩ := conclude_list listed
    exact ⟨output, after, parsed, ran, found, located, reached⟩
  · intro still
    rw [conclude_stays uses still, ran.path_eq]

/-- Without a command of its own an operation moves an explorer only by connecting it. -/
theorem Moved.of_approach {operation : Operation} {result : OperationAnswer × Explorer}
    (unused : operation.shellUse? = none) (sound : explorer.Sound watched)
    (approach : Approach host operation.connects explorer watched ready middle)
    (same : result.2.path = ready.path) :
    Moved host operation explorer watched ready middle result later := by
  refine ⟨approach, approach.arrival sound, ?_, ?_, fun _ => same⟩
  · rintro path rfl
    cases unused
  · rintro reading path listing rfl
    cases unused

theorem Approach.of_waiting (explorer : Explorer) (watched : Observed World) :
    Approach host false explorer watched explorer watched := by
  by_cases together : explorer.isConnected = true
  · exact .asIs together
  · exact .refused (Bool.eq_false_iff.mpr together) rfl

theorem perform_moves (sound : explorer.Sound watched) (operation : Operation) :
    Act.Ensures (explorer.perform host.observed operation) watched fun result later =>
      ∃ ready middle, Moved host operation explorer watched ready middle result later := by
  cases uses : operation.shellUse? with
  | some use =>
      refine (perform_follows sound uses).weaken ?_
      intro result later follows
      exact Moved.of_follows uses sound follows
  | none =>
      cases operation with
      | connect =>
          refine .bind (connect_approaches sound) ?_
          intro ⟨outcome, after⟩ later ⟨approach, _⟩
          exact .pure ⟨after, later, .of_approach uses sound approach rfl⟩
      | disconnect =>
          refine .bind explorer.disconnect_path ?_
          intro after later same
          exact .pure ⟨explorer, watched, .of_approach uses sound (.of_waiting _ _) same⟩
      | call arguments =>
          refine .bind (explorer.call_ensures arguments) ?_
          rintro ⟨outcome, _⟩ later ⟨-, -, finder, rfl⟩
          exact .pure ⟨explorer, watched, .of_approach uses sound (.of_waiting _ _) rfl⟩
      | transfer direction source target =>
          refine (transfer_carries sound direction source target).weaken ?_
          intro _ later ⟨ready, middle, approach, carried⟩
          refine ⟨ready, middle, .of_approach uses sound approach ?_⟩
          cases carried <;> rfl
      | command | tryCommand | workingDirectory | enter | list | removeFile | removeTree
        | makeDirectory => cases uses

theorem Moved.path_eq {operation : Operation} {result : OperationAnswer × Explorer}
    (moved : Moved host operation explorer watched ready middle result later)
    (waits : operation.connects = false) (still : operation.moves result.1 = false) :
    result.2.path = explorer.path := by
  obtain ⟨approach, -, -, -, stays⟩ := moved
  rw [stays still]
  cases approach with
  | asIs together => rfl
  | refused apart refuses => rfl
  | attempt apart tries ran attempted told =>
      rw [waits] at tries
      cases tries

theorem perform_connect_path (sound : explorer.Sound watched) :
    Act.Ensures (explorer.perform host.observed .connect) watched fun result _ =>
      ∀ failure, result.1 = .done (.error failure) → result.2.path = explorer.path := by
  refine .bind (connect_approaches sound) ?_
  intro ⟨outcome, after⟩ later ⟨approach, told, _⟩
  refine .pure ?_
  rintro failure ⟨⟩
  exact (approach.arrival sound).stays (.inr told)

structure Steady (operation : Operation) (answer : OperationAnswer) (before after : String) :
    Prop where
  entry : ∀ path, operation = .enter path → answer ≠ .entered (.ok true) → after = before
  listing : ∀ reading path failure, operation = .list reading path →
    answer = .listed (.error failure) → after = before
  connection : ∀ failure, operation = .connect → answer = .done (.error failure) →
    after = before
  disconnection : operation = .disconnect → after = before

theorem perform_steady (sound : explorer.Sound watched) (operation : Operation) :
    Act.Ensures (explorer.perform host.observed operation) watched fun result _ =>
      Steady operation result.1 explorer.path result.2.path := by
  intro result later completed
  obtain ⟨ready, middle, moved⟩ := perform_moves sound operation _ _ completed
  refine ⟨?_, ?_, ?_, ?_⟩
  · rintro path rfl refused
    apply moved.path_eq rfl
    rw [Bool.eq_false_iff]
    intro moves
    exact refused (Operation.eq_entered_of_moves moves)
  · rintro reading path failure rfl failed
    apply moved.path_eq rfl
    rw [failed]
    rfl
  · rintro failure rfl failed
    exact perform_connect_path sound _ _ completed failure failed
  · rintro rfl
    exact moved.path_eq rfl rfl

/-- Whatever an explorer has been asked before, an operation leaves it where it was, or where a
connection that was made for it begins, unless it enters or lists a directory with success. -/
theorem path_after_operation {finder : Adb.Finder} {options : DeviceOptions}
    {launch : Option Launch} {operations : List Operation} {world : World}
    {answers : List OperationAnswer} {operation : Operation} {answer : OperationAnswer}
    {after : Explorer}
    (reached : ((new finder options launch).performAll host.observed operations).runFrom
      ⟨world, []⟩ = (.ok (answers, explorer), watched))
    (completed : (explorer.perform host.observed operation).runFrom watched =
      (.ok (answer, after), later)) :
    (∃ ready middle, Moved host operation explorer watched ready middle (answer, after) later) ∧
      Steady operation answer explorer.path after.path := by
  have sound : explorer.Sound watched :=
    (performAll_ensures (sound_new finder options launch world) operations _ _ reached).2
  exact ⟨perform_moves sound operation _ _ completed, perform_steady sound operation _ _ completed⟩

/-- An explorer connects in one directory and enters another one. -/
theorem path_after_operation_entered :
    let operation : Operation := .enter "Music"
    let start := new .new {} (some (.shell "sh"))
    let batches := [[Text.Utf8.encode "/sdcard\n__MARK_0_0__\n".toList],
      [Text.Utf8.encode "/sdcard/Music\n__MARK_0_1__\n".toList]]
    ∃ answers explorer watched answer after later,
      (start.performAll Host.replaying.observed [.connect]).runFrom ⟨batches, []⟩ =
        (.ok (answers, explorer), watched) ∧
      (explorer.perform Host.replaying.observed operation).runFrom watched =
        (.ok (answer, after), later) ∧
      (∃ ready middle,
        Moved Host.replaying operation explorer watched ready middle (answer, after) later) ∧
      Steady operation answer explorer.path after.path := by
  intro operation start batches
  have completes : ((start.performAll Host.replaying.observed [.connect] >>= fun connected =>
      connected.2.perform Host.replaying.observed operation).runFrom ⟨batches, []⟩).1.isOk =
        true := by
    decide +kernel
  obtain ⟨⟨answer, after⟩, later, ran⟩ := Act.exists_of_isOk completes
  obtain ⟨⟨answers, explorer⟩, watched, reached, ran⟩ := Act.exists_of_bind ran
  exact ⟨answers, explorer, watched, answer, after, later, reached, ran,
    path_after_operation reached ran⟩

end Explorer

end DeviceBrowser
