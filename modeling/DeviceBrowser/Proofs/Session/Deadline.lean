import DeviceBrowser.Proofs.Session.Make

/-!
Deadlines that the clock cannot hold.

A session never changes the timeout that it is made with.  The deadline of a command is the
timeout after the reading of the clock, and it is only reckoned once the command has been
written.  Where the clock cannot get that far the run comes to an abrupt end, and it does so
for no other reason.
-/

namespace DeviceBrowser

open Calendar

/-- Only the full seconds that have passed count: a deadline that is too late is so by a second. -/
theorem deadlineAfter?_isSome_iff (elapsed seconds : Nat) :
    (deadlineAfter? elapsed (Span.ofSeconds seconds)).isSome = true ↔
      elapsed / 1_000_000_000 + seconds < clockLimit := by
  unfold deadlineAfter? Span.ofSeconds
  generalize clockLimit = limit
  dsimp only
  split
  next inTime =>
    simp only [Option.isSome_some, true_iff]
    omega
  next late =>
    simp only [Option.isSome_none, Bool.false_eq_true, false_iff]
    omega

def Host.takes {World : Type} (host : Host World) (child : Child) (source : MarkerSource)
    (command : String) (world : World) : Bool :=
  (host.submit child (Session.commandLine command (host.marker source world))
    (host.clock world).2).1.isOk

namespace Session

variable {World : Type} {host : Host World} {world : World} {session : Session}

theorem fail_isOk {Answer : Type} (session : Session) (failure : Failure) :
    ((session.fail host failure :
      Act World (Except Failure Answer × Session)).runFrom world).1.isOk = true := by
  unfold fail stop
  cases stage : session.stage <;> simp [Except.isOk, Except.toBool]

theorem execute_isOk (session : Session) (command : String) :
    ((session.execute host command).runFrom world).1.isOk =
      ((session.request host command).runFrom world).1.isOk := by
  unfold execute
  rw [Act.runFrom_bind]
  rcases (session.request host command).runFrom world with ⟨abort | result, later⟩ <;> rfl

/-- A command on a shell comes to its end, with an answer or a failure, just if it cannot be
written or the clock can hold its deadline. -/
theorem execute_isOk_iff_of_running {shell : LiveShell} (running : session.stage = .running shell)
    (command : String) :
    ((session.execute host command).runFrom world).1.isOk = true ↔
      (host.takes shell.child session.markers command world = true →
        (deadlineAfter? (host.clock world).1.elapsed session.timeout).isSome = true) := by
  rcases told : host.clock world with ⟨clock, asked⟩
  rcases brought : host.submit shell.child
    (commandLine command (session.markers.issue clock).1) asked with ⟨answer, later⟩
  rw [execute_isOk, request, running]
  simp only [Host.takes, Host.marker, Act.runFrom_bind, Act.runFrom_lift, told, brought]
  cases answer with
  | error fault => exact iff_of_true (fail_isOk _ _) (by rintro ⟨⟩)
  | ok arrivals =>
      have taken : (Except.ok arrivals : Except SystemFault Arrivals).isOk = true := rfl
      simp only [taken, forall_const]
      cases deadline : deadlineAfter? clock.elapsed session.timeout with
      | none => exact iff_of_false (by rintro ⟨⟩) (by rintro ⟨⟩)
      | some reading =>
          refine iff_of_true ?_ rfl
          simp only [Option.isNone_some, Bool.false_eq_true, if_false]
          split
          next => rfl
          next => exact fail_isOk _ _

end Session

end DeviceBrowser
