import DeviceBrowser.Proofs.Host.Act
import DeviceBrowser.Proofs.Session.Framing
import DeviceBrowser.Proofs.Session.Marker
import DeviceBrowser.Proofs.Text.Lines
import DeviceBrowser.Session.Basic

/-!
Whole conversations with a shell.

An exchange is a command together with what the shell prints for it.  Whatever the outputs
are, and however the stream of outputs and marker lines is cut into chunks, every command
is answered with its own output and nothing else, as long as no output contains the stem of
its marker and no marker is late.
-/

namespace DeviceBrowser

open Calendar Text

variable {World : Type} {host : Host World} {child : Child} {timeout : Span}

/-- What a shell has printed, as far as it has come, stands for a framing state. -/
def LiveShell.Holds (shell : LiveShell) (state : Framing) : Prop :=
  shell.framing.Settled ∧ ∃ chunks : List (List UInt8),
    shell.unread = chunks.map .data ∧ shell.framing.receive chunks.flatten = state

theorem LiveShell.holds_fresh (child : Child) : LiveShell.Holds { child } {} :=
  ⟨Framing.settled_fresh, [], rfl, rfl⟩

namespace Host

def marker (host : Host World) (source : MarkerSource) (world : World) : String :=
  (source.issue (host.clock world).1).1

def markersAfter (host : Host World) (source : MarkerSource) (world : World) : MarkerSource :=
  (source.issue (host.clock world).1).2

/-- A command is written to a shell, and the shell brings some chunks before the deadline. -/
def Brings (host : Host World) (child : Child) (timeout : Span) (source : MarkerSource)
    (command : String) (world : World) (chunks : List (List UInt8)) (later : World) : Prop :=
  deadlineAfter? (host.clock world).1.elapsed timeout ≠ none ∧
    ∃ silence,
      host.submit child (Session.commandLine command (host.marker source world))
          (host.clock world).2 =
        (.ok ⟨chunks.map .data, silence⟩, later)

end Host

namespace Framing

/-- A framing state with nothing in it, but perhaps with a line end yet to be skipped. -/
def after : Option LineEnd → Framing
  | none => {}
  | some _ => ⟨[], true⟩

end Framing

def leadBytes : Option LineEnd → List UInt8
  | none => []
  | some ending => ending.bytes

namespace Framing

theorem receive_after (lead : Option LineEnd) (bytes : List UInt8) :
    (after lead).receive (leadBytes lead ++ bytes) = ⟨bytes, false⟩ := by
  rcases lead with _ | _ | _ <;> rfl

theorem cut?_output (source : MarkerSource) (clock : Clock) {output : List UInt8}
    (clear : ¬ MarkerSource.stem (source.issue clock).1 <:+: output) (ending : LineEnd)
    (rest : List UInt8) :
    cut? ⟨output ++ (Utf8.encode (source.issue clock).1.toList ++ rest), false⟩
        (Utf8.encode (source.issue clock).1.toList) 0 =
      some (output, (after (some ending)).receive rest) := by
  simp only [cut?, List.drop_zero, source.firstIndex?_issue clock clear rest, Option.map_some,
    Nat.zero_add, List.take_left, ← List.drop_drop, List.drop_left]
  rfl

end Framing

namespace Session

/-- A command is answered with the bytes before its marker, and the shell keeps the rest. -/
theorem run_request {world later : World} {session : Session} {shell : LiveShell} {state rest : Framing}
    {command : String} {chunks : List (List UInt8)} {answer : List UInt8}
    (running : session.stage = .running shell) (holds : shell.Holds state)
    (brings : host.Brings shell.child session.timeout session.markers command world chunks later)
    (found : (state.receive chunks.flatten).cut?
      (Utf8.encode (host.marker session.markers world).toList) 0 = some (answer, rest)) :
    ∃ left : LiveShell, left.child = shell.child ∧ left.Holds rest ∧
      (session.request host command).runFrom world =
        (.ok (.ok answer, { session with
          markers := host.markersAfter session.markers world
          stage := .running left }), later) := by
  obtain ⟨settled, unread, waiting, rfl⟩ := holds
  obtain ⟨timely, silence, submitted⟩ := brings
  have nonempty := session.markers.encode_issue_ne_nil (host.clock world).1
  rw [Framing.receive_receive, ← List.flatten_append] at found
  obtain ⟨remaining, left, searched, resettled, stands⟩ :=
    Framing.search_data nonempty settled [] (unread ++ chunks) found
  simp only [List.map_append, List.append_nil] at searched
  refine ⟨⟨shell.child, remaining, left.map .data⟩, rfl, ⟨resettled, left, rfl, stands⟩, ?_⟩
  unfold request
  rw [running]
  simp only [Host.marker] at submitted
  simp [submitted, timely, waiting, searched, Host.markersAfter]

def requestAll (host : Host World) (session : Session) :
    List String → Act World (List (Except Failure (List UInt8)) × Session)
  | [] => return ([], session)
  | command :: commands => do
      let (answer, session) ← session.request host command
      let (answers, session) ← requestAll host session commands
      return (answer :: answers, session)

def executeAll (host : Host World) (session : Session) :
    List String → Act World (List (Except Failure String) × Session)
  | [] => return ([], session)
  | command :: commands => do
      let (answer, session) ← session.execute host command
      let (answers, session) ← executeAll host session commands
      return (answer :: answers, session)

theorem run_executeAll (host : Host World) (session : Session) (commands : List String)
    (world : World) :
    (session.executeAll host commands).runFrom world =
      match (session.requestAll host commands).runFrom world with
      | (.ok (answers, session), world) => (.ok (answers.map (·.map answerText), session), world)
      | (.error abort, world) => (.error abort, world) := by
  induction commands generalizing session world with
  | nil => rfl
  | cons command commands inductionHypothesis =>
      simp only [executeAll, requestAll, execute, Act.runFrom_bind]
      rcases (session.request host command).runFrom world with ⟨_ | ⟨answer, session⟩, world⟩
      · rfl
      · simp only [Act.runFrom_pure, inductionHypothesis]
        rcases (session.requestAll host commands).runFrom world with ⟨_ | ⟨answers, session⟩, world⟩ <;>
          rfl

end Session

/-- Commands are given to a shell one after another.  Each is written with a marker of its
own, and before its deadline a batch of chunks comes. -/
inductive Conversation (host : Host World) (child : Child) (timeout : Span) :
    MarkerSource → World → List String → List String → List (List (List UInt8)) → World → Prop
  | done {source world} : Conversation host child timeout source world [] [] [] world
  | command {source world command chunks middle commands markers batches later} :
      host.Brings child timeout source command world chunks middle →
      Conversation host child timeout (host.markersAfter source world) middle commands markers
        batches later →
      Conversation host child timeout source world (command :: commands)
        (host.marker source world :: markers) (chunks :: batches) later

structure Exchange where
  command : String
  output : List UInt8
  ending : LineEnd

def transcript : List Exchange → List String → List UInt8
  | exchange :: exchanges, marker :: markers =>
      exchange.output ++ (Utf8.encode marker.toList ++
        (exchange.ending.bytes ++ transcript exchanges markers))
  | _, _ => []

def Clear (exchanges : List Exchange) (markers : List String) : Prop :=
  ∀ (place : Nat) (exchange : Exchange) (marker : String),
    exchanges[place]? = some exchange → markers[place]? = some marker →
      ¬ MarkerSource.stem marker <:+: exchange.output

/-- Whenever a command's deadline comes, its marker has come. -/
def Timely (exchanges : List Exchange) (markers : List String)
    (batches : List (List (List UInt8))) : Prop :=
  ∀ (place : Nat) (exchange : Exchange) (marker : String),
    exchanges[place]? = some exchange → markers[place]? = some marker →
      transcript (exchanges.take place) (markers.take place) ++
          (exchange.output ++ Utf8.encode marker.toList) <+:
        (batches.take (place + 1)).flatten.flatten

theorem run_requestAll {source : MarkerSource} {world later : World} {commands : List String}
    {markers : List String} {batches : List (List (List UInt8))}
    (conversation : Conversation host child timeout source world commands markers batches later)
    {exchanges : List Exchange} {lead : Option LineEnd} {early : List UInt8} {session : Session}
    {shell : LiveShell} (asked : exchanges.map Exchange.command = commands)
    (running : session.stage = .running shell) (same : shell.child = child)
    (limit : session.timeout = timeout) (fresh : session.markers = source)
    (holds : shell.Holds ((Framing.after lead).receive early))
    (clear : Clear exchanges markers)
    (printed : early ++ batches.flatten.flatten <+:
      leadBytes lead ++ transcript exchanges markers)
    (timely : ∀ (place : Nat) (exchange : Exchange) (marker : String),
      exchanges[place]? = some exchange → markers[place]? = some marker →
        leadBytes lead ++ (transcript (exchanges.take place) (markers.take place) ++
            (exchange.output ++ Utf8.encode marker.toList)) <+:
          early ++ (batches.take (place + 1)).flatten.flatten) :
    ∃ finished : Session, finished.isRunning = true ∧
      (session.requestAll host commands).runFrom world =
        (.ok (exchanges.map fun exchange => .ok exchange.output, finished), later) := by
  induction conversation generalizing exchanges lead early session shell with
  | done =>
      rw [List.map_eq_nil_iff] at asked
      subst asked
      refine ⟨session, ?_, rfl⟩
      simp [Session.isRunning, Session.phase, running, SessionPhase.takesCommands]
  | @command source world command chunks middle commands markers batches later brings _
      inductionHypothesis =>
      cases exchanges with
      | nil => simp at asked
      | cons exchange exchanges =>
          rw [List.map_cons, List.cons.injEq] at asked
          obtain ⟨rfl, asked⟩ := asked
          subst same limit fresh
          -- What has come since the last marker is the output, the marker and some bytes more.
          obtain ⟨rest, come⟩ := timely 0 exchange (host.marker session.markers world) rfl rfl
          simp only [List.take_zero, transcript, List.nil_append, List.take_succ_cons,
            List.flatten_cons, List.flatten_nil, List.append_nil, List.append_assoc] at come
          have received : ((Framing.after lead).receive early).receive chunks.flatten =
              ⟨exchange.output ++ (Utf8.encode (host.marker session.markers world).toList ++ rest),
                false⟩ := by
            rw [Framing.receive_receive, ← come, Framing.receive_after]
          have found : (((Framing.after lead).receive early).receive chunks.flatten).cut?
              (Utf8.encode (host.marker session.markers world).toList) 0 =
                some (exchange.output, (Framing.after (some exchange.ending)).receive rest) := by
            rw [received]
            exact Framing.cut?_output _ _ (clear 0 exchange _ rfl rfl) _ _
          obtain ⟨left, unchanged, stands, answered⟩ :=
            session.run_request running holds brings found
          have clearRest : Clear exchanges markers := fun place => clear (place + 1)
          have printedRest : rest ++ batches.flatten.flatten <+:
              leadBytes (some exchange.ending) ++ transcript exchanges markers := by
            have whole := printed
            rw [List.flatten_cons, List.flatten_append, ← List.append_assoc, ← come] at whole
            simpa [transcript, leadBytes, List.prefix_append_right_inj] using whole
          have timelyRest : ∀ (place : Nat) (later : Exchange) (marker : String),
              exchanges[place]? = some later → markers[place]? = some marker →
                leadBytes (some exchange.ending) ++
                    (transcript (exchanges.take place) (markers.take place) ++
                      (later.output ++ Utf8.encode marker.toList)) <+:
                  rest ++ (batches.take (place + 1)).flatten.flatten := by
            intro place later marker atPlace markerAtPlace
            have whole := timely (place + 1) later marker atPlace markerAtPlace
            rw [List.take_succ_cons, List.take_succ_cons, List.take_succ_cons, List.flatten_cons,
              List.flatten_append, ← List.append_assoc early, ← come] at whole
            simpa [transcript, leadBytes, List.prefix_append_right_inj] using whole
          let next : Session := { session with
            markers := host.markersAfter session.markers world, stage := .running left }
          have nextRunning : next.stage = .running left := rfl
          obtain ⟨finished, stillRunning, answers⟩ := inductionHypothesis asked nextRunning
            unchanged rfl rfl stands clearRest printedRest timelyRest
          refine ⟨finished, stillRunning, ?_⟩
          simp only [next] at answers
          simp [Session.requestAll, answered, answers]

/-- A new shell answers every command with the command's own output, byte for byte, however
its stream of outputs and marker lines is cut into chunks. -/
theorem Session.answers_eq_outputs {session : Session} {world started later : World}
    {exchanges : List Exchange} {markers : List String} {batches : List (List (List UInt8))}
    (idle : session.isRunning = false)
    (launched : host.launch session.launch world = (.ok child, started))
    (conversation : Conversation host child session.timeout session.markers started
      (exchanges.map Exchange.command) markers batches later)
    (clear : Clear exchanges markers)
    (printed : batches.flatten.flatten <+: transcript exchanges markers)
    (timely : Timely exchanges markers batches) :
    ∃ opened finished : Session,
      (session.start host).runFrom world = (.ok (.ok (), opened), started) ∧
      (opened.requestAll host (exchanges.map Exchange.command)).runFrom started =
        (.ok (exchanges.map fun exchange => .ok exchange.output, finished), later) ∧
      (opened.executeAll host (exchanges.map Exchange.command)).runFrom started =
        (.ok (exchanges.map fun exchange =>
          .ok (Terminal.withoutLineEnds (Terminal.plainText exchange.output)), finished), later) ∧
      finished.isRunning = true := by
  let opened : Session := { session with stage := .running { child }, lastFailure := none }
  have opens : (session.start host).runFrom world = (.ok (.ok (), opened), started) := by
    unfold Session.start
    simp [idle, launched, opened]
  have running : opened.stage = .running { child } := rfl
  have nothingCame : LiveShell.Holds { child } ((Framing.after none).receive []) :=
    LiveShell.holds_fresh child
  obtain ⟨finished, stillRunning, answered⟩ :=
    run_requestAll conversation rfl running rfl rfl rfl nothingCame clear printed timely
  refine ⟨opened, finished, opens, answered, ?_, stillRunning⟩
  rw [opened.run_executeAll, answered]
  simp [Except.map, Session.answerText]

/-- A host on which time stands still and each line written to a shell is answered by the
next of some batches of chunks. -/
def Host.replaying : Host (List (List (List UInt8))) where
  clock := return ⟨0, 0, 0⟩
  launch _ := return .ok ⟨0⟩
  submit _ _ := do
    match ← get with
    | [] => return .ok ⟨[], .deadline⟩
    | batch :: batches =>
        set batches
        return .ok ⟨batch.map .data, .deadline⟩
  release _ := return ()
  run _ _ := return .deadline

/-- The first marker's line end is cut in two, and its line feed comes with the next batch. -/
theorem Session.answers_eq_outputs_cut_line_end :
    let session := Session.new (.shell "sh") Session.defaultTimeout ⟨0, 0, 0⟩
    let commands := ["cat a", "true"]
    let batches :=
      [[Utf8.encode "\r\na\x1B[0m\r__MARK".toList, Utf8.encode "_0_0__\r".toList],
        [Utf8.encode "\n__MARK_0_1_".toList, Utf8.encode "_".toList]]
    session.isRunning = false ∧ ∃ opened finished : Session,
      (session.start Host.replaying).runFrom batches = (.ok (.ok (), opened), batches) ∧
      (opened.requestAll Host.replaying commands).runFrom batches =
        (.ok ([.ok (Utf8.encode "\r\na\x1B[0m\r".toList), .ok []], finished), []) ∧
      (opened.executeAll Host.replaying commands).runFrom batches =
        (.ok ([.ok "\r\na", .ok ""], finished), []) ∧
      finished.isRunning = true := by
  intro session commands batches
  let exchanges : List Exchange :=
    [⟨"cat a", Utf8.encode "\r\na\x1B[0m\r".toList, .returnFeed⟩, ⟨"true", [], .feed⟩]
  have inTime : deadlineAfter? 0 session.timeout ≠ none := by decide
  have first : Host.replaying.marker session.markers batches = "__MARK_0_0__" := by decide
  have second : Host.replaying.marker (Host.replaying.markersAfter session.markers batches)
      batches.tail = "__MARK_0_1__" := by decide
  have conversation : Conversation Host.replaying ⟨0⟩ session.timeout session.markers batches
      (exchanges.map Exchange.command) ["__MARK_0_0__", "__MARK_0_1__"] batches [] := by
    rw [← first, ← second]
    exact .command ⟨inTime, .deadline, rfl⟩ (.command ⟨inTime, .deadline, rfl⟩ .done)
  have clear : Clear exchanges ["__MARK_0_0__", "__MARK_0_1__"] := by
    rintro (_ | _ | place) exchange marker ⟨⟩ ⟨⟩
    · exact occursIn_eq_false_iff.mp (by decide)
    · exact occursIn_eq_false_iff.mp (by decide)
  have printed : batches.flatten.flatten <+:
      transcript exchanges ["__MARK_0_0__", "__MARK_0_1__"] := by
    decide
  have timely : Timely exchanges ["__MARK_0_0__", "__MARK_0_1__"] batches := by
    rintro (_ | _ | place) exchange marker ⟨⟩ ⟨⟩
    · decide
    · decide
  have text : Terminal.withoutLineEnds
      (Terminal.plainText (Utf8.encode "\r\na\x1B[0m\r".toList)) = "\r\na" := by
    decide
  obtain ⟨opened, finished, opens, raw, texts, running⟩ :=
    answers_eq_outputs rfl rfl conversation clear printed timely
  refine ⟨rfl, opened, finished, opens, raw, ?_, running⟩
  simp only [exchanges, List.map_cons, List.map_nil, text] at texts
  exact texts

end DeviceBrowser
