import DeviceBrowser.Proofs.Session.Account

/-!
Where the answers of a session come from.

The answers are slices of the bytes that the child which was launched last has delivered, one
after another and each up to the marker of its own command, and nothing lies between them but
the ends of the marker lines.  No byte of another child gets into them.
-/

namespace DeviceBrowser

open Calendar Text

variable {World : Type} {host : Host World}

/-- An answer and the place that it was cut from. -/
structure Segment where
  /-- The end of the marker's line before. -/
  gap : List UInt8
  answer : List UInt8
  command : String
  marker : String

namespace Segment

def bytes (segment : Segment) : List UInt8 :=
  segment.gap ++ (segment.answer ++ Utf8.encode segment.marker.toList)

def line (segment : Segment) : String :=
  Session.commandLine segment.command segment.marker

def reply (segment : Segment) : Reply :=
  ⟨segment.command, Session.answerText segment.answer⟩

end Segment

namespace Service

/-- What a child has delivered consists of the segments of the answers, and of bytes that are
in no answer. -/
structure Balanced (service : Service) (segments : List Segment) (rest : List UInt8) : Prop where
  delivered : service.delivered = segments.flatMap Segment.bytes ++ rest
  replies : service.replies = segments.map Segment.reply
  /-- The markers are those of the lines that were written.  The last line may have failed. -/
  lines : segments.map Segment.line <+: service.lines
  gaps : ∀ segment ∈ segments, Framing.IsLineEndRun segment.gap
  first : ∀ segment ∈ segments.head?, segment.gap = []

/-- All answers are slices of what the child has delivered. -/
def Conserved (service : Service) : Prop :=
  ∃ segments rest, service.Balanced segments rest

theorem balanced_fresh (child : Child) : Balanced { child } [] [] :=
  ⟨rfl, rfl, List.prefix_rfl, by simp, by simp⟩

variable {service : Service} {segments : List Segment} {segment : Segment}
  {rest bytes late : List UInt8}

/-- A line that is not answered leaves the answers before it as they are. -/
theorem Balanced.exchange (balanced : service.Balanced segments rest) (line : String)
    (bytes : List UInt8) : (service.exchange line bytes).Balanced segments (rest ++ bytes) := by
  obtain ⟨delivered, replies, lines, gaps, first⟩ := balanced
  refine ⟨?_, replies, lines.trans (List.prefix_append _ _), gaps, first⟩
  rw [Service.exchange, delivered, List.append_assoc]

/-- A line that is answered adds its answer after those before it. -/
theorem Balanced.answer (balanced : service.Balanced segments rest)
    (asked : service.lines = segments.map Segment.line)
    (stream : rest ++ bytes = segment.bytes ++ late)
    (run : Framing.IsLineEndRun segment.gap) (fresh : segments = [] → segment.gap = []) :
    ((service.exchange segment.line bytes).reply (some segment.reply)).Balanced
      (segments ++ [segment]) late := by
  obtain ⟨delivered, replies, -, gaps, first⟩ := balanced
  refine ⟨?_, ?_, ?_, ?_, ?_⟩
  · calc
      service.delivered ++ bytes = segments.flatMap Segment.bytes ++ (rest ++ bytes) := by
        rw [delivered, List.append_assoc]
      _ = (segments ++ [segment]).flatMap Segment.bytes ++ late := by
        rw [stream, List.flatMap_append, List.flatMap_singleton, List.append_assoc]
  · rw [List.map_append, ← replies]
    rfl
  · rw [List.map_append, ← asked]
    exact List.prefix_rfl
  · rw [List.forall_mem_append, List.forall_mem_singleton]
    exact ⟨gaps, run⟩
  · cases segments with
    | nil => simpa using fresh rfl
    | cons head tail => exact first

end Service

namespace LiveShell

/-- A shell holds those bytes of a child that are in no answer yet: `kept` has been looked at,
up to the end of the last marker's line, and the rest has not. -/
structure Serves (shell : LiveShell) (service : Service) (segments : List Segment)
    (kept : List UInt8) : Prop where
  child : service.child = shell.child
  balanced : service.Balanced segments (kept ++ dataOf shell.unread)
  asked : service.lines = segments.map Segment.line
  framing : shell.framing = Framing.skipLineEnd ⟨kept, !segments.isEmpty⟩

theorem serves_fresh (child : Child) : Serves { child } { child } [] [] :=
  ⟨rfl, Service.balanced_fresh child, rfl, rfl⟩

variable {shell : LiveShell} {service : Service} {segments : List Segment} {kept : List UInt8}

theorem Serves.answered {command marker : String} {deliveries : List Delivery}
    {answer : List UInt8} {found : Framing.Search} (serves : shell.Serves service segments kept)
    (searched : shell.framing.search (Utf8.encode marker.toList) (shell.unread ++ deliveries) =
      found)
    (success : found.answer = .ok answer) :
    ∃ segments late, Serves { shell with framing := found.framing, unread := found.unread }
      ((service.exchange (Session.commandLine command marker) (dataOf deliveries)).reply
        (some ⟨command, Session.answerText answer⟩)) segments late := by
  obtain ⟨child, balanced, asked, held⟩ := serves
  obtain ⟨_, framing, unread⟩ := found
  subst success
  rw [held] at searched
  obtain ⟨chunks, used, cut⟩ := Framing.exists_of_search (Framing.skipLineEnd_settled _) searched
  rw [Framing.skipLineEnd_receive] at cut
  obtain ⟨gap, late, split, run, fresh, rfl⟩ := Framing.exists_of_cut? cut
  let segment : Segment := ⟨gap, answer, command, marker⟩
  -- The framing state says which bytes were looked at, and the account has all of them.
  have stream : kept ++ dataOf shell.unread ++ dataOf deliveries =
      segment.bytes ++ (late ++ dataOf unread) := by
    calc
      _ = kept ++ dataOf (shell.unread ++ deliveries) := by
        rw [dataOf_append, List.append_assoc]
      _ = kept ++ chunks.flatten ++ dataOf unread := by
        rw [used, dataOf_append, dataOf_map_data, List.append_assoc]
      _ = segment.bytes ++ (late ++ dataOf unread) := by
        rw [split]
        simp only [segment, Segment.bytes, List.append_assoc]
  have unmarked : segments = [] → segment.gap = [] := by
    intro none
    apply fresh
    rw [none]
    rfl
  have answered := balanced.answer asked stream run unmarked
  refine ⟨segments ++ [segment], late, child, answered, ?_, ?_⟩
  · rw [List.map_append, ← asked]
    rfl
  · cases segments with
    | nil | cons head tail => rfl

end LiveShell

namespace Session

variable {session : Session} {account : Accounted World}

/-- The session's shell, if it has one, serves the child that was launched last. -/
structure Accounts (session : Session) (services : List Service) : Prop where
  conserved : ∀ service ∈ services, service.Conserved
  current : ∀ shell, session.stage = .running shell → ∃ service others segments kept,
    services = service :: others ∧ shell.Serves service segments kept

theorem Accounts.of_idle {services : List Service} (idle : ¬ session.isRunning = true)
    (conserved : ∀ service ∈ services, service.Conserved) : session.Accounts services := by
  refine ⟨conserved, ?_⟩
  intro shell running
  exact absurd (isRunning_iff.mpr ⟨shell, running⟩) idle

theorem Accounts.of_serves {shell : LiveShell} {service : Service} {others : List Service}
    {segments : List Segment} {kept : List UInt8} (running : session.stage = .running shell)
    (serves : shell.Serves service segments kept)
    (conserved : ∀ service ∈ others, service.Conserved) :
    session.Accounts (service :: others) := by
  refine ⟨List.forall_mem_cons.mpr ⟨⟨_, _, serves.balanced⟩, conserved⟩, ?_⟩
  intro same sameRunning
  rw [running] at sameRunning
  cases sameRunning
  exact ⟨service, others, segments, kept, rfl, serves⟩

theorem start_accounts (accounts : session.Accounts account.services) :
    Act.Ensures (session.start host.accounted) account fun result later =>
      result.2.Accounts later.services ∧ repliesOf later.services = repliesOf account.services := by
  by_cases running : session.isRunning = true
  · rw [start_of_running running]
    exact .pure ⟨accounts, rfl⟩
  · unfold start
    rw [if_neg running]
    refine .bind (host.accounted_launch account session.launch) ?_
    intro answer later services
    rcases answer with fault | child
    · refine .pure ?_
      rw [services]
      exact ⟨.of_idle (by rintro ⟨⟩) accounts.conserved, rfl⟩
    · refine .pure ?_
      rw [services]
      exact ⟨.of_serves rfl (LiveShell.serves_fresh child) accounts.conserved, by simp [repliesOf]⟩

theorem stop_accounts (session : Session) :
    Act.Ensures (session.stop host.accounted) account fun stopped later =>
      ¬ stopped.isRunning = true ∧ later.services = account.services := by
  by_cases running : session.isRunning = true
  · obtain ⟨shell, stage⟩ := isRunning_iff.mp running
    refine (stop_of_running stage).weaken ?_
    rintro _ _ ⟨rfl, rfl⟩
    exact ⟨by rintro ⟨⟩, rfl⟩
  · rw [stop_of_not_running running]
    exact .pure ⟨by rintro ⟨⟩, rfl⟩

inductive Supplied (command : String) (service : Service) (others : List Service) :
    Except Failure String × Session → List Service → Prop
  | answered (text line : String) (bytes : List UInt8) (next : Session) (left : LiveShell)
      (running : next.stage = .running left) (segments : List Segment) (kept : List UInt8)
      (serves : left.Serves ((service.exchange line bytes).reply (some ⟨command, text⟩))
        segments kept) :
      Supplied command service others (.ok text, next) (service.exchange line bytes :: others)
  | failed (failure : Failure) (line : String) (bytes : List UInt8) (next : Session)
      (idle : ¬ next.isRunning = true) :
      Supplied command service others (.error failure, next)
        (service.exchange line bytes :: others)

section

variable {shell : LiveShell} {service : Service} {others : List Service}
  {segments : List Segment} {kept : List UInt8}

/-- A command that is answered takes its answer from what the shell's child has delivered. -/
theorem request_supplies (running : session.stage = .running shell)
    (latest : account.services = service :: others)
    (serves : shell.Serves service segments kept) (command : String) :
    Act.Ensures (session.request host.accounted command) account fun result later =>
      Supplied command service others (result.1.map answerText, result.2) later.services := by
  refine (request_ensures running command).weaken ?_
  intro result later requested
  have entered : ∀ {clock : Clock} {asked brought : Accounted World} {line : String}
      {answer : Except SystemFault Arrivals}, host.accounted.clock account = (clock, asked) →
      host.accounted.submit shell.child line asked = (answer, brought) →
      brought.services = service.exchange line (broughtBy answer) :: others := by
    intro clock asked brought line answer told written
    rw [Host.services_of_submit written, Host.services_of_clock told, latest,
      Service.enter_cons serves.child]
  cases requested with
  | answered told written searched success =>
      obtain ⟨segments, kept, serves⟩ := serves.answered searched success
      rw [entered told written]
      exact .answered _ _ _ _ _ rfl segments kept serves
  | @failed clock asked brought answer failure told written plain =>
      have released : (host.accounted.release shell.child brought).2.services =
        brought.services := rfl
      rw [released, entered told written]
      exact .failed failure _ _ _ (by rintro ⟨⟩)

theorem execute_supplies (running : session.stage = .running shell)
    (latest : account.services = service :: others)
    (serves : shell.Serves service segments kept) (command : String) :
    Act.Ensures (session.execute host.accounted command) account fun result later =>
      Supplied command service others result later.services := by
  unfold execute
  refine .bind (request_supplies running latest serves command) ?_
  intro _ _ supplied
  exact .pure supplied

end

structure Continues (before : List Service) (result : Option Reply × Session)
    (services : List Service) : Prop where
  accounts : result.2.Accounts (services.modifyHead (·.reply result.1))
  replies : repliesOf (services.modifyHead (·.reply result.1)) =
    repliesOf before ++ result.1.toList

theorem continues_none {before services : List Service} (accounts : session.Accounts services)
    (same : repliesOf services = repliesOf before) :
    Continues before (none, session) services := by
  refine ⟨?_, ?_⟩
  · rwa [Service.modifyHead_reply_none]
  · rw [Service.modifyHead_reply_none, same]
    simp

theorem execute_continues (accounts : session.Accounts account.services) (command : String) :
    Act.Ensures (session.answer host.accounted (.execute command)) account fun result later =>
      Continues account.services result later.services := by
  rw [answer]
  by_cases running : session.isRunning = true
  · obtain ⟨shell, stage⟩ := isRunning_iff.mp running
    obtain ⟨service, others, segments, kept, latest, serves⟩ := accounts.current shell stage
    have conserved := accounts.conserved
    rw [latest, List.forall_mem_cons] at conserved
    refine .bind (execute_supplies stage latest serves command) ?_
    intro result later supplied
    refine .pure ?_
    generalize later.services = services at supplied
    cases supplied with
    | answered text line bytes next left running segments kept serves =>
        refine ⟨.of_serves running serves conserved.2, ?_⟩
        rw [latest, repliesOf_cons, List.append_assoc]
        exact repliesOf_cons _ _
    | failed failure line bytes next idle =>
        apply continues_none
        · apply Accounts.of_idle idle
          rw [List.forall_mem_cons]
          exact ⟨⟨_, _, serves.balanced.exchange line bytes⟩, conserved.2⟩
        · rw [latest, repliesOf_cons, repliesOf_cons]
          rfl
  · rw [execute_of_not_running running]
    exact .pure_bind (.pure (continues_none accounts rfl))

theorem answer_continues (accounts : session.Accounts account.services) (call : SessionCall) :
    Act.Ensures (session.answer host.accounted call) account fun result later =>
      Continues account.services result later.services := by
  cases call with
  | start =>
      refine .bind (start_accounts accounts) ?_
      intro ⟨_, next⟩ later ⟨accounts, same⟩
      exact .pure (continues_none accounts same)
  | execute command => exact execute_continues accounts command
  | stop =>
      refine .bind (stop_accounts _) ?_
      intro next later ⟨idle, services⟩
      refine .pure ?_
      rw [services]
      exact continues_none (.of_idle idle accounts.conserved) rfl

theorem answerAll_accounts (accounts : session.Accounts account.services)
    (calls : List SessionCall) :
    Act.Ensures (session.answerAll host.accounted Accounted.reply calls) account
      fun result later =>
        result.2.Accounts later.services ∧
          repliesOf later.services = repliesOf account.services ++ result.1 := by
  induction calls generalizing session account with
  | nil => exact .pure ⟨accounts, by simp⟩
  | cons call calls inductionHypothesis =>
      refine .bind (answer_continues accounts call) ?_
      intro ⟨reply, next⟩ afterCall ⟨accounts, replies⟩
      refine .bind (Accounted.reply_ensures afterCall reply) ?_
      intro _ afterReply services
      dsimp only at accounts replies
      rw [← services] at accounts replies
      refine .bind (inductionHypothesis accounts) ?_
      intro ⟨rest, last⟩ later ⟨accounts, restReplies⟩
      refine .pure ⟨accounts, ?_⟩
      rw [restReplies, replies, List.append_assoc]

/-- Whatever is asked of a session, an account of every child can be kept in which each answer
is a slice of what the child that was launched last has delivered, and of no other.  The slices
are in the order of the commands, and what lies between them is the marker of the earlier and
the end of its line. -/
theorem answers_conserved {launch : Launch} {timeout : Span} {clock : Clock}
    {calls : List SessionCall} {world later : World} {replies : List Reply} {session : Session}
    (completed : ((new launch timeout clock).answerAll host (fun _ => pure ()) calls).runFrom
      world = (.ok (replies, session), later)) :
    ∃ services,
      ((new launch timeout clock).answerAll host.accounted Accounted.reply calls).runFrom
          ⟨world, []⟩ = (.ok (replies, session), ⟨later, services⟩) ∧
      replies = repliesOf services ∧ ∀ service ∈ services, service.Conserved := by
  let account : Accounted World := ⟨world, []⟩
  have mirrored := answerAll_mirrors host.accounted_mirrors Accounted.reply_mirrors
    (new launch timeout clock) calls account
  rw [show account.world = world from rfl, completed] at mirrored
  rcases ran : ((new launch timeout clock).answerAll host.accounted Accounted.reply calls).runFrom
    account with ⟨result, ⟨world, services⟩⟩
  rw [ran] at mirrored
  cases mirrored
  have fresh : (new launch timeout clock).Accounts account.services :=
    .of_idle (by rintro ⟨⟩) (by rintro _ ⟨⟩)
  obtain ⟨accounts, entered⟩ := answerAll_accounts fresh calls _ _ ran
  exact ⟨services, rfl, entered.symm, accounts.conserved⟩

/-- One child leaves a line end and some text behind, and the next one begins anew. -/
theorem answers_conserved_restarted :
    let session := new (.shell "sh") defaultTimeout ⟨0, 0, 0⟩
    let calls : List SessionCall :=
      [.start, .execute "pwd", .execute "cat a", .start, .execute "cat b"]
    let batches :=
      [[Text.Utf8.encode "/\n__MARK_0_0__\r".toList], [Text.Utf8.encode "\nlost".toList],
        [Text.Utf8.encode "b__MARK_0_2__\n".toList]]
    ∃ last later services,
      (session.answerAll Host.replaying (fun _ => pure ()) calls).runFrom batches =
          (.ok ([⟨"pwd", "/"⟩, ⟨"cat b", "b"⟩], last), later) ∧
      (session.answerAll Host.replaying.accounted Accounted.reply calls).runFrom ⟨batches, []⟩ =
          (.ok ([⟨"pwd", "/"⟩, ⟨"cat b", "b"⟩], last), ⟨later, services⟩) ∧
      [⟨"pwd", "/"⟩, ⟨"cat b", "b"⟩] = repliesOf services ∧
      ∀ service ∈ services, service.Conserved := by
  intro session calls batches
  have answered : ((session.answerAll Host.replaying (fun _ => pure ()) calls).runFrom
      batches).1.map Prod.fst = .ok [⟨"pwd", "/"⟩, ⟨"cat b", "b"⟩] := by
    decide +kernel
  rcases ran : (session.answerAll Host.replaying (fun _ => pure ()) calls).runFrom batches with
    ⟨abort | ⟨replies, last⟩, later⟩
  · rw [ran] at answered
    cases answered
  · rw [ran] at answered
    cases answered
    obtain ⟨services, accounted, replies, conserved⟩ := answers_conserved ran
    exact ⟨last, later, services, rfl, accounted, replies, conserved⟩

end Session

end DeviceBrowser
