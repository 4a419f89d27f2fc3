import DeviceBrowser.Proofs.Explorer.Operation

/-!
The course of an operation, whatever the children do.

Failures come in two tiers.  If the shell cannot be made to answer, the connection is given
up; whatever it answers, and whatever becomes of a transfer, the connection stays.  In either
case an operation's own command has been written once at most.
-/

namespace DeviceBrowser

variable {World : Type} {host : Host World} {watched middle later : Observed World}

def AtMostOnce (command : String) (lines : List String) : Prop :=
  lines = [] ∨ ∃ marker, lines = [Session.commandLine command marker]

namespace Explorer

variable {explorer ready : Explorer}

theorem Opened.writes {before now : List HostEvent} {outcome : Except Failure (Session × String)}
    (opening : Opened before outcome now) :
    ∃ lines, AtMostOnce Shell.Command.workingDirectory.text lines ∧
      written now = lines ++ written before := by
  cases opening with
  | unlaunched failure plain => exact ⟨[], .inl rfl, rfl⟩
  | lost child marker failure plain => exact ⟨[_], .inr ⟨marker, rfl⟩, rfl⟩
  | opened session shell running marker path => exact ⟨[_], .inr ⟨marker, rfl⟩, rfl⟩

theorem Attempted.writes {before now : List HostEvent} {result : Except Failure Unit × Explorer}
    (attempted : Attempted explorer before result now) :
    ∃ lines, AtMostOnce Shell.Command.workingDirectory.text lines ∧
      written now = lines ++ written before := by
  cases attempted with
  | failed finder ran opening | connected finder ran opening =>
      obtain ⟨lines, once, events⟩ := opening.writes
      rw [written_map_ran] at events
      exact ⟨lines, once, events⟩

/-- Where there is no connection, all that is written on the way to the shell is the question
for its directory. -/
theorem Approach.writes {reconnects : Bool}
    (approach : Approach host reconnects explorer watched ready middle) :
    ∃ opening, (explorer.isConnected = true → opening = []) ∧
      AtMostOnce Shell.Command.workingDirectory.text opening ∧
      written middle.events = opening ++ written watched.events := by
  cases approach with
  | asIs together => exact ⟨[], fun _ => rfl, .inl rfl, rfl⟩
  | refused apart refuses => exact ⟨[], fun _ => rfl, .inl rfl, rfl⟩
  | attempt apart tries ran attempted told =>
      obtain ⟨lines, once, events⟩ := attempted.writes
      refine ⟨lines, ?_, once, events⟩
      intro together
      rw [together] at apart
      cases apart

theorem Tried.writes {text : String} {tried : Except Failure String × Explorer}
    (ran : Tried host text ready middle tried later) :
    ∃ own, AtMostOnce text own ∧ written later.events = own ++ written middle.events := by
  cases ran with
  | refused apart => exact ⟨[], .inl rfl, rfl⟩
  | answered together present running ran asked | failed together present running ran asked =>
      obtain ⟨marker, events⟩ := asked.writes
      exact ⟨[_], .inr ⟨marker, rfl⟩, events⟩

/-- In the meantime the operation's own command was written once at most, and nothing else but
the question for the directory of a new connection. -/
def WritesOnce (operation : Operation) (explorer : Explorer) (before now : List HostEvent) :
    Prop :=
  ∃ own opening, written now = own ++ (opening ++ written before) ∧
    (explorer.isConnected = true → opening = []) ∧
    AtMostOnce Shell.Command.workingDirectory.text opening ∧
    match operation.shellUse? with
    | some use => AtMostOnce use.text own
    | none => own = []

theorem Approach.writesOnce {reconnects : Bool} {operation : Operation} {now : List HostEvent}
    (approach : Approach host reconnects explorer watched ready middle)
    (silent : operation.shellUse? = none) (same : written now = written middle.events) :
    WritesOnce operation explorer watched.events now := by
  obtain ⟨opening, needed, asked, events⟩ := approach.writes
  refine ⟨[], opening, ?_, needed, asked, ?_⟩
  · rw [same, events, List.nil_append]
  · rw [silent]

theorem perform_call_ensures (arguments : List String) :
    Act.Ensures (explorer.perform host.observed (.call arguments)) watched fun result later =>
      OnlyRan watched later ∧ ∃ finder, result.2 = { explorer with finder } := by
  refine .bind (explorer.call_ensures arguments) ?_
  rintro result later ⟨-, quiet, unchanged⟩
  exact .pure ⟨quiet, unchanged⟩

theorem perform_writesOnce (sound : explorer.Sound watched) (operation : Operation) :
    Act.Ensures (explorer.perform host.observed operation) watched fun _ later =>
      WritesOnce operation explorer watched.events later.events := by
  cases uses : operation.shellUse? with
  | some use =>
      refine (perform_follows sound uses).weaken ?_
      rintro result later ⟨ready, middle, tried, approach, ran, -⟩
      obtain ⟨opening, needed, asked, before⟩ := approach.writes
      obtain ⟨own, once, after⟩ := ran.writes
      refine ⟨own, opening, ?_, needed, asked, ?_⟩
      · rw [after, before]
      · rw [uses]
        exact once
  | none =>
      have alone : ∀ {later : Observed World}, written later.events = written watched.events →
          WritesOnce operation explorer watched.events later.events := by
        intro later same
        refine ⟨[], [], same, fun _ => rfl, .inl rfl, ?_⟩
        rw [uses]
      cases operation with
      | connect =>
          refine .bind (connect_approaches sound) ?_
          rintro result later ⟨approach, -⟩
          exact .pure (approach.writesOnce uses rfl)
      | disconnect =>
          refine .bind (disconnect_ensures sound) ?_
          rintro after later ⟨-, same⟩
          exact .pure (alone same)
      | call arguments =>
          refine (perform_call_ensures arguments).weaken ?_
          rintro result later ⟨quiet, -⟩
          exact alone quiet.written_eq
      | transfer direction source target =>
          refine (transfer_carries sound direction source target).weaken ?_
          rintro result later ⟨ready, middle, approach, carried⟩
          cases carried with
          | refused apart => exact approach.writesOnce uses rfl
          | carried together ran quiet => exact approach.writesOnce uses quiet.written_eq
      | command | tryCommand | workingDirectory | enter | list | removeFile | removeTree
        | makeDirectory => cases uses

structure Course (host : Host World) (operation : Operation) (explorer : Explorer)
    (watched : Observed World) (result : OperationAnswer × Explorer) (later : Observed World) :
    Prop where
  once : WritesOnce operation explorer watched.events later.events
  /-- If the shell has been asked at all, it has been asked exactly once. -/
  follows : ∀ use, operation.shellUse? = some use → Follows host use explorer watched result later
  carries : ∀ direction source target, operation = .transfer direction source target →
    ∃ ready middle, Approach host true explorer watched ready middle ∧
      Carried host direction source target ready middle result later
  /-- Any other call of adb leaves the connection alone. -/
  calls : ∀ arguments, operation = .call arguments →
    OnlyRan watched later ∧ ∃ finder, result.2 = { explorer with finder }

/-- Whatever an explorer has been asked before, an operation comes to the shell with one attempt
to connect at most, writes its command there once at most, and loses the connection only if the
shell fails to answer. -/
theorem course_of_operation {finder : Adb.Finder} {options : DeviceOptions}
    {launch : Option Launch} {operations : List Operation} {world : World}
    {answers : List OperationAnswer} {operation : Operation} {answer : OperationAnswer}
    {after : Explorer}
    (reached : ((new finder options launch).performAll host.observed operations).runFrom
      ⟨world, []⟩ = (.ok (answers, explorer), watched))
    (completed : (explorer.perform host.observed operation).runFrom watched =
      (.ok (answer, after), later)) :
    Course host operation explorer watched (answer, after) later := by
  have sound : explorer.Sound watched :=
    (performAll_ensures (sound_new finder options launch world) operations _ _ reached).2
  refine { once := ?_, follows := ?_, carries := ?_, calls := ?_ }
  · exact perform_writesOnce sound operation _ _ completed
  · intro use uses
    exact perform_follows sound uses _ _ completed
  · rintro direction source target rfl
    exact transfer_carries sound direction source target _ _ completed
  · rintro arguments rfl
    exact perform_call_ensures arguments _ _ completed

/-- A connection is made for the removal of a tree, and lost because there is no answer. -/
theorem course_of_operation_unanswered :
    let operation : Operation := .removeTree "/sdcard/Music"
    let explorer := new .new {} (some (.shell "sh"))
    let batches := [[Text.Utf8.encode "/sdcard\n__MARK_0_0__\n".toList]]
    ∃ answer after later,
      (explorer.performAll Host.replaying.observed []).runFrom ⟨batches, []⟩ =
        (.ok ([], explorer), ⟨batches, []⟩) ∧
      (explorer.perform Host.replaying.observed operation).runFrom ⟨batches, []⟩ =
        (.ok (answer, after), later) ∧
      Course Host.replaying operation explorer ⟨batches, []⟩ (answer, after) later := by
  intro operation explorer batches
  have reached : (explorer.performAll Host.replaying.observed []).runFrom ⟨batches, []⟩ =
      (.ok ([], explorer), ⟨batches, []⟩) := rfl
  have completes : ((explorer.perform Host.replaying.observed operation).runFrom
      ⟨batches, []⟩).1.isOk = true := by
    decide +kernel
  obtain ⟨⟨answer, after⟩, later, ran⟩ := Act.exists_of_isOk completes
  exact ⟨answer, after, later, reached, ran, course_of_operation reached ran⟩

end Explorer

end DeviceBrowser
