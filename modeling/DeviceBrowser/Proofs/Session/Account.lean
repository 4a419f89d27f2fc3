import DeviceBrowser.Proofs.Session.History

/-!
Accounts of what goes to and comes from children.

An account holds the lines that were written to a child, the bytes that it has delivered, and
the texts that commands were answered with while it was the last child to be launched.  A
session goes the same way whether accounts are kept or not.
-/

namespace DeviceBrowser

variable {World : Type} {host : Host World}

def dataOf : List Delivery → List UInt8
  | [] => []
  | .data bytes :: rest => bytes ++ dataOf rest
  | .fault _ :: rest => dataOf rest

theorem dataOf_append (first second : List Delivery) :
    dataOf (first ++ second) = dataOf first ++ dataOf second := by
  induction first with
  | nil => rfl
  | cons delivery first inductionHypothesis =>
      cases delivery with
      | data bytes =>
          rw [List.cons_append, dataOf, dataOf, inductionHypothesis, List.append_assoc]
      | fault fault => exact inductionHypothesis

theorem dataOf_map_data (chunks : List (List UInt8)) :
    dataOf (chunks.map .data) = chunks.flatten := by
  induction chunks with
  | nil => rfl
  | cons chunk chunks inductionHypothesis => exact congrArg (chunk ++ ·) inductionHypothesis

def broughtBy : Except SystemFault Arrivals → List UInt8
  | .ok arrivals => dataOf arrivals.deliveries
  | .error _ => []

structure Reply where
  command : String
  text : String
  deriving DecidableEq, Repr

/-- What has gone to and come from a child since it was launched, earliest first. -/
structure Service where
  child : Child
  lines : List String := []
  delivered : List UInt8 := []
  replies : List Reply := []
  deriving DecidableEq, Repr

namespace Service

def exchange (service : Service) (line : String) (bytes : List UInt8) : Service :=
  { service with lines := service.lines ++ [line], delivered := service.delivered ++ bytes }

def reply (service : Service) (reply : Option Reply) : Service :=
  { service with replies := service.replies ++ reply.toList }

/-- Enter a line and the bytes that it brought for the last child of that number. -/
def enter (child : Child) (line : String) (bytes : List UInt8) : List Service → List Service
  | [] => []
  | service :: earlier =>
      if service.child == child then service.exchange line bytes :: earlier
      else service :: enter child line bytes earlier

theorem enter_cons {service : Service} {child : Child} (same : service.child = child)
    (line : String) (bytes : List UInt8) (others : List Service) :
    enter child line bytes (service :: others) = service.exchange line bytes :: others := by
  rw [enter, same, beq_self_eq_true, if_pos rfl]

theorem modifyHead_reply_none (services : List Service) :
    services.modifyHead (·.reply none) = services := by
  cases services with
  | nil => rfl
  | cons service services => simp [reply]

end Service

def repliesOf (services : List Service) : List Reply :=
  services.reverse.flatMap Service.replies

theorem repliesOf_cons (service : Service) (others : List Service) :
    repliesOf (service :: others) = repliesOf others ++ service.replies := by
  rw [repliesOf, List.reverse_cons, List.flatMap_append, List.flatMap_singleton]
  rfl

/-- A world with the accounts of all children that were launched in it, latest first. -/
structure Accounted (World : Type) where
  world : World
  services : List Service := []

def Accounted.reply (reply : Option Reply) : Act (Accounted World) Unit :=
  modify fun account =>
    { account with services := account.services.modifyHead (·.reply reply) }

def Host.accounted (host : Host World) : Host (Accounted World) where
  clock account :=
    let (clock, world) := host.clock account.world
    (clock, { account with world })
  launch launch account :=
    match host.launch launch account.world with
    | (.ok child, world) => (.ok child, ⟨world, { child } :: account.services⟩)
    | (.error fault, world) => (.error fault, { account with world })
  submit child text account :=
    let (answer, world) := host.submit child text account.world
    (answer, ⟨world, Service.enter child text (broughtBy answer) account.services⟩)
  release child account :=
    let ((), world) := host.release child account.world
    ((), { account with world })
  run invocation limit account :=
    let (completion, world) := host.run invocation limit account.world
    (completion, { account with world })

namespace Host

variable (host : Host World) (account : Accounted World)

theorem accounted_launch (launch : Launch) :
    Act.Ensures (liftM (host.accounted.launch launch)) account fun answer later =>
      later.services = match answer with
        | .ok child => { child } :: account.services
        | .error _ => account.services := by
  refine .lift ?_
  simp only [accounted]
  rcases host.launch launch account.world with ⟨_ | child, world⟩ <;> rfl

variable {host account} {later : Accounted World}

theorem services_of_clock {clock : Clock}
    (told : host.accounted.clock account = (clock, later)) : later.services = account.services :=
  (congrArg (·.2.services) told).symm

theorem services_of_submit {child : Child} {text : String} {answer : Except SystemFault Arrivals}
    (written : host.accounted.submit child text account = (answer, later)) :
    later.services = Service.enter child text (broughtBy answer) account.services := by
  cases written
  rfl

end Host

theorem Accounted.reply_ensures (account : Accounted World) (reply : Option Reply) :
    Act.Ensures (Accounted.reply reply) account fun _ later =>
      later.services = account.services.modifyHead (·.reply reply) := by
  rintro _ _ ⟨⟩
  rfl

/-- A host answers as a plainer one does in what is viewed of its world. -/
structure Host.Mirrors {Rich Plain : Type} (view : Rich → Plain) (rich : Host Rich)
    (plain : Host Plain) : Prop where
  clock : Act.Mirrors view (liftM rich.clock) (liftM plain.clock)
  launch (launch : Launch) :
    Act.Mirrors view (liftM (rich.launch launch)) (liftM (plain.launch launch))
  submit (child : Child) (text : String) :
    Act.Mirrors view (liftM (rich.submit child text)) (liftM (plain.submit child text))
  release (child : Child) :
    Act.Mirrors view (liftM (rich.release child)) (liftM (plain.release child))

theorem Host.accounted_mirrors (host : Host World) :
    Host.Mirrors Accounted.world host.accounted host where
  clock _ := rfl
  launch launch account := by
    simp only [Act.runFrom_lift, accounted]
    rcases host.launch launch account.world with ⟨fault | child, world⟩ <;> rfl
  submit _ _ _ := rfl
  release _ _ := rfl

theorem Accounted.reply_mirrors (reply : Option Reply) :
    Act.Mirrors Accounted.world (Accounted.reply reply : Act (Accounted World) Unit) (pure ()) :=
  fun _ => rfl

namespace Session

variable {Rich Plain : Type} {view : Rich → Plain} {rich : Host Rich} {plain : Host Plain}

theorem start_mirrors (mirrors : Host.Mirrors view rich plain) (session : Session) :
    Act.Mirrors view (session.start rich) (session.start plain) := by
  unfold start
  split
  · exact .pure _
  · refine .bind (mirrors.launch session.launch) ?_
    intro answer
    cases answer with
    | error fault | ok child => exact .pure _

theorem stop_mirrors (mirrors : Host.Mirrors view rich plain) (session : Session) :
    Act.Mirrors view (session.stop rich) (session.stop plain) := by
  unfold stop
  cases session.stage with
  | running shell =>
      refine .bind (mirrors.release shell.child) ?_
      intro _
      exact .pure _
  | notStarted | stopped => exact .pure _

theorem fail_mirrors {Answer : Type} (mirrors : Host.Mirrors view rich plain)
    (session : Session) (failure : Failure) :
    Act.Mirrors view (session.fail rich failure : Act _ (Except Failure Answer × Session))
      (session.fail plain failure) := by
  unfold fail
  refine .bind (stop_mirrors mirrors _) ?_
  intro _
  exact .pure _

theorem request_mirrors (mirrors : Host.Mirrors view rich plain) (session : Session)
    (command : String) :
    Act.Mirrors view (session.request rich command) (session.request plain command) := by
  unfold request
  cases session.stage with
  | notStarted | stopped => exact .pure _
  | running shell =>
      refine .bind mirrors.clock ?_
      intro clock
      refine .bind (mirrors.submit _ _) ?_
      intro answer
      rcases answer with fault | arrivals
      · exact fail_mirrors mirrors _ _
      · dsimp only
        split
        next late =>
          intro _
          rfl
        next inTime =>
          split
          next answer _ => exact .pure _
          next gap _ => exact fail_mirrors mirrors _ _

theorem execute_mirrors (mirrors : Host.Mirrors view rich plain) (session : Session)
    (command : String) :
    Act.Mirrors view (session.execute rich command) (session.execute plain command) := by
  unfold execute
  refine .bind (request_mirrors mirrors session command) ?_
  intro _
  exact .pure _

def answer (host : Host World) (session : Session) :
    SessionCall → Act World (Option Reply × Session)
  | .start => do
      let (_, session) ← session.start host
      return (none, session)
  | .execute command => do
      let (answer, session) ← session.execute host command
      return (answer.toOption.map (⟨command, ·⟩), session)
  | .stop => do
      let session ← session.stop host
      return (none, session)

def answerAll (host : Host World) (note : Option Reply → Act World Unit) (session : Session) :
    List SessionCall → Act World (List Reply × Session)
  | [] => return ([], session)
  | call :: calls => do
      let (reply, next) ← session.answer host call
      note reply
      let (replies, last) ← next.answerAll host note calls
      return (reply.toList ++ replies, last)

theorem answer_mirrors (mirrors : Host.Mirrors view rich plain) (session : Session)
    (call : SessionCall) :
    Act.Mirrors view (session.answer rich call) (session.answer plain call) := by
  cases call with
  | start =>
      refine .bind (start_mirrors mirrors session) ?_
      intro _
      exact .pure _
  | execute command =>
      refine .bind (execute_mirrors mirrors session command) ?_
      intro _
      exact .pure _
  | stop =>
      refine .bind (stop_mirrors mirrors session) ?_
      intro _
      exact .pure _

theorem answerAll_mirrors (mirrors : Host.Mirrors view rich plain)
    {richNote : Option Reply → Act Rich Unit} {plainNote : Option Reply → Act Plain Unit}
    (noteMirrors : ∀ reply, Act.Mirrors view (richNote reply) (plainNote reply))
    (session : Session) (calls : List SessionCall) :
    Act.Mirrors view (session.answerAll rich richNote calls)
      (session.answerAll plain plainNote calls) := by
  induction calls generalizing session with
  | nil => exact .pure _
  | cons call calls inductionHypothesis =>
      refine .bind (answer_mirrors mirrors session call) ?_
      intro ⟨reply, next⟩
      refine .bind (noteMirrors reply) ?_
      intro _
      refine .bind (inductionHypothesis next) ?_
      intro _
      exact .pure _

end Session

end DeviceBrowser
