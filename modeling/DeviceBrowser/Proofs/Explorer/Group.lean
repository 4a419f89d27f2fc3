import DeviceBrowser.Proofs.Explorer.Consulting

/-!
Explorers that share one finder.

Whoever needs adb first has it looked for, on behalf of all.  From then on the outcome is known
to everyone, whether an adb was found or none, and no candidate is asked again.
-/

namespace DeviceBrowser

open Calendar Adb

/-- Explorers, and the finder that all of them ask for adb. -/
structure ExplorerGroup where
  finder : Finder
  explorers : List Explorer
  deriving DecidableEq, Repr

inductive FinderUse where
  | find
  | listDevices (timeout : Span)
  | operate (number : Nat) (operation : Operation)

inductive UseAnswer where
  | found (answer : Except Failure String)
  | listed (answer : Except Failure (List Attached))
  | operated (answer : OperationAnswer)
  | absent

/-- A use that was made: its answer, the programs that were run for it, and what was known of adb
after it. -/
structure Used where
  use : FinderUse
  answer : UseAnswer
  runs : List ProgramRun
  known : Option (Option String)

namespace ExplorerGroup

variable {World : Type}

def new (finder : Finder) (members : List (DeviceOptions × Option Launch)) :
    ExplorerGroup where
  finder
  explorers := members.map fun (options, launch) => Explorer.new finder options launch

/-- An explorer works with the finder of its group, and what it comes to know all of them know. -/
def use (host : Host World) (group : ExplorerGroup) :
    FinderUse → Act World (UseAnswer × ExplorerGroup)
  | .find => do
      let (answer, finder) ← group.finder.find host
      return (.found answer, { group with finder })
  | .listDevices timeout => do
      let (answer, finder) ← Attached.listAll host group.finder timeout
      return (.listed answer, { group with finder })
  | .operate number operation =>
      match group.explorers[number]? with
      | none => return (.absent, group)
      | some explorer => do
          let (answer, explorer) ← { explorer with finder := group.finder }.perform host operation
          return (.operated answer, ⟨explorer.finder, group.explorers.set number explorer⟩)

def takeRuns : StateM (Logged World) (List ProgramRun) := fun log =>
  (log.runs, { log with runs := [] })

def useAll (host : Host World) (group : ExplorerGroup) :
    List FinderUse → Act (Logged World) (List Used × ExplorerGroup)
  | [] => return ([], group)
  | use :: uses => do
      let (answer, next) ← group.use host.logged use
      let runs ← (takeRuns : StateM (Logged World) _)
      let (history, last) ← next.useAll host uses
      return (⟨use, answer, runs, next.finder.outcome⟩ :: history, last)

end ExplorerGroup

/-- How a use is answered, and which programs are run for it besides the search, by what is known
of adb after it. -/
inductive FinderUse.Comes (members : List (DeviceOptions × Option Launch)) :
    FinderUse → Option (Option String) → UseAnswer → List ProgramRun → Prop
  | find (outcome : Option String) :
      Comes members .find (some outcome) (.found (Finder.answer outcome)) []
  | listDevices {timeout : Span} {outcome : Option String}
      {answer : Except Failure (List Attached)} {calls : List ProgramRun}
      (listed : Attached.Listed timeout (Finder.answer outcome) answer calls) :
      Comes members (.listDevices timeout) (some outcome) (.listed answer) calls
  | operate {known : Option (Option String)} {number : Nat} {operation : Operation}
      {options : DeviceOptions} {launch : Option Launch} {answer : OperationAnswer}
      {calls : List ProgramRun} (member : members[number]? = some (options, launch))
      (carried : Explorer.Carries options known operation answer calls) :
      Comes members (.operate number operation) known (.operated answer) calls
  | absent (known : Option (Option String)) {number : Nat} (operation : Operation)
      (missing : members[number]? = none) :
      Comes members (.operate number operation) known .absent []

theorem FinderUse.Comes.eq_nil {members : List (DeviceOptions × Option Launch)}
    {use : FinderUse} {answer : UseAnswer} {calls : List ProgramRun}
    (comes : use.Comes members none answer calls) : calls = [] := by
  cases comes with
  | operate member carried => exact carried.eq_nil
  | absent => rfl

namespace ExplorerGroup

variable {World : Type} {host : Host World} {group : ExplorerGroup} {log : Logged World}
  {members : List (DeviceOptions × Option Launch)}

/-- The explorers of a group are as they were made, and each has its own shell. -/
structure Stands (members : List (DeviceOptions × Option Launch)) (group : ExplorerGroup) :
    Prop where
  made : group.explorers.map Explorer.make = members
  shells : ∀ explorer ∈ group.explorers, explorer.HasOwnShell group.finder.outcome

structure UseStep (members : List (DeviceOptions × Option Launch)) (group : ExplorerGroup)
    (use : FinderUse) (log : Logged World) (result : UseAnswer × ExplorerGroup)
    (later : Logged World) : Prop where
  trail : ∃ runs calls, later.runs = log.runs ++ runs ∧
    group.finder.Trail calls result.2.finder runs ∧
    use.Comes members result.2.finder.outcome result.1 calls
  stands : result.2.Stands members

theorem listAll_runs (finder : Finder) (timeout : Span) (log : Logged World) :
    Act.Ensures (Attached.listAll host.logged finder timeout) log fun result later =>
      ∃ runs calls outcome, later.runs = log.runs ++ runs ∧ finder.Trail calls result.2 runs ∧
        result.2.outcome = some outcome ∧
        Attached.Listed timeout (Finder.answer outcome) result.1 calls := by
  unfold Attached.listAll
  refine .bind (finder.find_trails log).ensures ?_
  rintro ⟨_, next⟩ middle ⟨outcome, runs, rfl, known, ran, trail⟩
  cases outcome with
  | none => exact .pure ⟨runs, [], none, ran, trail, known, .notFound _⟩
  | some adb =>
      refine .bind (Call.run_achieves _ middle).ensures ?_
      rintro _ listed ⟨completion, rfl, called⟩
      replace called : listed.runs =
          log.runs ++ (runs ++ [Attached.listRun adb timeout completion]) := by
        rw [← List.append_assoc, ← ran]
        exact called
      cases completion with
      | spawnFault fault =>
          exact .pure ⟨_, _, _, called, trail.trans .quiet, known, .notStarted adb fault⟩
      | deadline => exact .pure ⟨_, _, _, called, trail.trans .quiet, known, .late adb⟩
      | ended output errors exitCode =>
          have isRead : ∀ device ∈ Attached.onlineRows output errors, device.IsRead :=
            fun device online => Attached.isRead_of_mem_readAll (List.mem_of_mem_filter online)
          refine .bind (Attached.nameAll_achieves adb timeout isRead listed).ensures ?_
          intro devices later asked
          obtain ⟨completions, each, named, asked⟩ := asked
          rw [named]
          refine .pure ⟨_, Attached.listRun adb timeout (.ended output errors exitCode) ::
            List.zipWith (Attached.nameRun adb timeout) (Attached.onlineRows output errors)
              completions, some adb, ?_, trail.trans .quiet, known,
            .named adb output errors exitCode completions each⟩
          rw [asked, called, List.append_assoc, List.append_assoc]
          rfl

theorem Stands.of_trail {finder : Finder} {calls runs : List ProgramRun}
    (stands : group.Stands members) (trail : group.finder.Trail calls finder runs) :
    Stands members { group with finder } :=
  ⟨stands.made, fun explorer present => (stands.shells explorer present).of_trail trail⟩

theorem Stands.of_set {number : Nat} {explorer next : Explorer} {finder : Finder}
    {calls runs : List ProgramRun} (stands : group.Stands members)
    (known : group.explorers[number]? = some explorer) (same : next.make = explorer.make)
    (own : next.HasOwnShell finder.outcome) (trail : group.finder.Trail calls finder runs) :
    Stands members ⟨finder, group.explorers.set number next⟩ := by
  obtain ⟨bound, rfl⟩ := List.getElem?_eq_some_iff.mp known
  refine ⟨?_, ?_⟩
  · rw [List.map_set, same, ← List.map_set, List.set_getElem_self, stands.made]
  · intro explorer present
    rcases List.mem_or_eq_of_mem_set present with old | rfl
    · exact (stands.shells explorer old).of_trail trail
    · exact own

theorem use_steps (stands : group.Stands members) (use : FinderUse) (log : Logged World) :
    Act.Ensures (group.use host.logged use) log fun result later =>
      UseStep members group use log result later := by
  cases use with
  | find =>
      refine .bind (group.finder.find_trails log).ensures ?_
      rintro ⟨_, finder⟩ later ⟨outcome, runs, rfl, known, ran, trail⟩
      refine .pure ⟨⟨runs, [], ran, trail, ?_⟩, stands.of_trail trail⟩
      exact known ▸ .find outcome
  | listDevices timeout =>
      refine .bind (listAll_runs group.finder timeout log) ?_
      rintro ⟨answer, finder⟩ later ⟨runs, calls, outcome, ran, trail, known, listed⟩
      refine .pure ⟨⟨runs, calls, ran, trail, ?_⟩, stands.of_trail trail⟩
      exact known ▸ .listDevices listed
  | operate number operation =>
      have listed (number : Nat) :
          members[number]? = group.explorers[number]?.map Explorer.make := by
        rw [← stands.made, List.getElem?_map]
      unfold use
      dsimp only
      split
      next missing =>
        have missing : members[number]? = none := by rw [listed, missing]; rfl
        exact .pure ⟨⟨[], [], (List.append_nil _).symm, .quiet, .absent _ _ missing⟩, stands⟩
      next explorer known =>
        have member : members[number]? = some explorer.make := by rw [listed, known]; rfl
        refine .bind (Explorer.perform_consults _ operation log) ?_
        rintro ⟨answer, next⟩ later ⟨calls, consulted, carried⟩
        obtain ⟨runs, ran, trail⟩ := consulted.trail
        have own := consulted.shell (stands.shells explorer (List.mem_of_getElem? known))
        refine .pure ⟨⟨runs, calls, ran, trail, .operate member carried⟩, ?_⟩
        exact stands.of_set known consulted.make own trail

end ExplorerGroup

structure Used.GoesBy (members : List (DeviceOptions × Option Launch))
    (outcome : Option (Option String)) (used : Used) (calls : List ProgramRun) : Prop where
  known : used.known = outcome
  comes : used.use.Comes members outcome used.answer calls

namespace ExplorerGroup

variable {World : Type} {host : Host World} {group : ExplorerGroup} {log : Logged World}
  {members : List (DeviceOptions × Option Launch)}

/-- The course of some uses, and the finder at their end.  What is known at the start is never
looked for.  Else the first use that needs adb has the candidates asked, and all that come later
go by the outcome of that. -/
inductive Course (members : List (DeviceOptions × Option Launch)) (finder : Finder) :
    List Used → Finder → Prop
  | known {history : List Used} {outcome : Option String} (known : finder.outcome = some outcome)
      (late : ∀ used ∈ history, used.GoesBy members (some outcome) used.runs) :
      Course members finder history finder
  | unasked {history : List Used} (unknown : finder.outcome = none)
      (early : ∀ used ∈ history, used.runs = [] ∧ used.GoesBy members none []) :
      Course members finder history finder
  | searched {before after : List Used} {first : Used} {probes calls : List ProgramRun}
      {outcome : Option String} (unknown : finder.outcome = none)
      (early : ∀ used ∈ before, used.runs = [] ∧ used.GoesBy members none [])
      (probed : Finder.Probes finder.candidates probes outcome)
      (runs : first.runs = probes ++ calls) (goes : first.GoesBy members (some outcome) calls)
      (late : ∀ used ∈ after, used.GoesBy members (some outcome) used.runs) :
      Course members finder (before ++ first :: after) { finder with outcome := some outcome }

theorem Course.cons {finder next last : Finder} {history : List Used} {used : Used}
    {calls : List ProgramRun} (course : Course members next history last)
    (trail : finder.Trail calls next used.runs) (goes : used.GoesBy members next.outcome calls) :
    Course members finder (used :: history) last := by
  have idle (unknown : next.outcome = none) (runs : used.runs = calls) :
      used.runs = [] ∧ used.GoesBy members none [] := by
    rw [unknown] at goes
    obtain rfl := goes.comes.eq_nil
    exact ⟨runs, goes⟩
  generalize runs : used.runs = ran at trail
  cases trail with
  | quiet =>
      -- What is known has not changed, so the use belongs to the part that the course begins with.
      cases course with
      | known known late =>
          rw [known, ← runs] at goes
          exact .known known (List.forall_mem_cons.mpr ⟨goes, late⟩)
      | unasked unknown early =>
          exact .unasked unknown (List.forall_mem_cons.mpr ⟨idle unknown runs, early⟩)
      | searched unknown early probed ran begins late =>
          rw [← List.cons_append]
          refine .searched unknown ?_ probed ran begins late
          exact List.forall_mem_cons.mpr ⟨idle unknown runs, early⟩
  | searched unknown probed =>
      -- The outcome is known from here on, so no later use can be the one that searches.
      cases course with
      | known known late =>
          cases known
          rw [← List.nil_append (used :: history)]
          exact .searched unknown (by simp) probed runs goes late
      | unasked unlearned | searched unlearned => cases unlearned

theorem useAll_course (stands : group.Stands members) (uses : List FinderUse)
    (fresh : log.runs = []) :
    Act.Ensures (group.useAll host uses) log fun result _ =>
      result.1.map Used.use = uses ∧ Course members group.finder result.1 result.2.finder ∧
        result.2.Stands members := by
  induction uses generalizing group log with
  | nil =>
      refine .pure ⟨rfl, ?_, stands⟩
      cases known : group.finder.outcome with
      | some outcome => exact .known known (by simp)
      | none => exact .unasked known (by simp)
  | cons use uses inductionHypothesis =>
      refine .bind (use_steps stands use log) ?_
      rintro ⟨answer, next⟩ middle ⟨⟨runs, calls, ran, trail, comes⟩, stands⟩
      rw [fresh, List.nil_append] at ran
      rw [← ran] at trail
      refine .bind .question ?_
      rintro _ cleared ⟨⟩
      refine .bind (inductionHypothesis stands rfl) ?_
      rintro ⟨history, last⟩ later ⟨made, course, stands⟩
      exact .pure ⟨congrArg (use :: ·) made, course.cons trail ⟨rfl, comes⟩, stands⟩

theorem stands_new (finder : Finder) (members : List (DeviceOptions × Option Launch)) :
    (new finder members).Stands members := by
  refine ⟨?_, ?_⟩
  · rw [new, List.map_map]
    exact List.map_id _
  · intro explorer present session started
    obtain ⟨member, -, rfl⟩ := List.mem_map.mp present
    cases started

structure ProbedOnce (host : Host World) (members : List (DeviceOptions × Option Launch))
    (finder : Finder) (uses : List FinderUse) (history : List Used) (last : ExplorerGroup) :
    Prop where
  made : history.map Used.use = uses
  /-- The candidates are asked for one use at most, and the others go by what that has told. -/
  course : Course members finder history last.finder
  /-- No explorer has a session with the shell of another adb than the one that is known. -/
  stands : last.Stands members
  /-- Whatever the candidates do, whoever asks for adb next is answered. -/
  next : ∀ log, Act.Achieves (last.finder.find host.logged) log fun result later =>
    ∃ outcome runs, result.1 = Finder.answer outcome ∧ result.2.outcome = some outcome ∧
      later.runs = log.runs ++ runs ∧ last.finder.Trail [] result.2 runs

/-- Explorers that share a finder have its candidates asked once, for the first use that needs adb,
in order and up to the first that is accepted; from then on all of them go by the outcome. -/
theorem probed_once {finder : Finder} {uses : List FinderUse} {world : World}
    {history : List Used} {last : ExplorerGroup}
    (completed : ((new finder members).useAll host uses).runFrom ⟨world, []⟩ =
      (.ok (history, last), log)) :
    ProbedOnce host members finder uses history last := by
  obtain ⟨made, course, stands⟩ :=
    useAll_course (stands_new finder members) uses rfl _ _ completed
  exact ⟨made, course, stands, last.finder.find_trails⟩

def endingHost : Host (List Completion) where
  clock := return ⟨0, 0, 0⟩
  launch _ := return .error (.spawn .noSuchFile)
  submit _ _ := return .error .brokenPipe
  release _ := return ()
  run _ _ := do
    match ← get with
    | [] => return .deadline
    | completion :: rest =>
        set rest
        return completion

/-- The first candidate is not there, the second prints something else and the third does not end;
the fifth is not asked. -/
theorem probed_once_fourth_candidate :
    let finder : Finder := { candidates := ["a", "b", "c", "d", "e"] }
    let members : List (DeviceOptions × Option Launch) :=
      [({}, none), ({ serial := some "x" }, none)]
    let uses : List FinderUse :=
      [.operate 0 .disconnect, .operate 0 (.call ["version"]), .find, .operate 1 .connect,
        .operate 1 (.call ["reconnect"])]
    let complaint := Text.Utf8.encode "sh: b: inaccessible or not found\n".toList
    let banner := Text.Utf8.encode "Android Debug Bridge version 1.0.41\n".toList
    let completions : List Completion :=
      [.spawnFault .noSuchFile, .ended [] complaint (some 127), .deadline,
        .ended banner [] (some 0), .ended banner [] (some 0)]
    ∃ history last log,
      ((new finder members).useAll endingHost uses).runFrom ⟨completions, []⟩ =
          (.ok (history, last), log) ∧
        last.finder.outcome = some (some "d") ∧
        ProbedOnce endingHost members finder uses history last := by
  intro finder members uses complaint banner completions
  have ends : (((new finder members).useAll endingHost uses).runFrom ⟨completions, []⟩).1.map
      (·.2.finder.outcome) = .ok (some (some "d")) := by
    decide +kernel
  rcases ran : ((new finder members).useAll endingHost uses).runFrom ⟨completions, []⟩ with
    ⟨abort | ⟨history, last⟩, log⟩
  · rw [ran] at ends
    cases ends
  · rw [ran] at ends
    exact ⟨history, last, log, rfl, Except.ok.inj ends, probed_once ran⟩

end ExplorerGroup

end DeviceBrowser
