import DeviceBrowser.Proofs.Session.History

/-!
What every call leaves a session as it was made: how its shell is started, and how much time
its commands have.  And no call of a session runs a program to its end.
-/

namespace DeviceBrowser.Session

variable {World : Type} {host : Host World} {world : World} {session : Session}

/-- What a session is made with: its shell is always started in the same way, and its commands
always have the same time. -/
structure SameMake (session next : Session) : Prop where
  launch : next.launch = session.launch
  timeout : next.timeout = session.timeout

theorem SameMake.refl (session : Session) : SameMake session session := ⟨rfl, rfl⟩

theorem SameMake.trans {first second third : Session} (made : SameMake first second)
    (remade : SameMake second third) : SameMake first third :=
  ⟨remade.launch.trans made.launch, remade.timeout.trans made.timeout⟩

theorem start_sameMake (session : Session) :
    Act.Ensures (session.start host) world fun result _ => SameMake session result.2 := by
  by_cases running : session.isRunning = true
  · rw [start_of_running running]
    exact .pure (.refl session)
  · unfold start
    rw [if_neg running]
    refine .bind .question ?_
    rintro (fault | child) _ _
    · exact .pure ⟨rfl, rfl⟩
    · exact .pure ⟨rfl, rfl⟩

theorem stop_sameMake (session : Session) :
    Act.Ensures (session.stop host) world fun next _ => SameMake session next := by
  by_cases running : session.isRunning = true
  · obtain ⟨shell, stage⟩ := isRunning_iff.mp running
    refine (stop_of_running stage).weaken ?_
    rintro _ _ ⟨rfl, -⟩
    exact ⟨rfl, rfl⟩
  · rw [stop_of_not_running running]
    exact .pure ⟨rfl, rfl⟩

theorem execute_sameMake (session : Session) (command : String) :
    Act.Ensures (session.execute host command) world fun result _ => SameMake session result.2 := by
  by_cases running : session.isRunning = true
  · obtain ⟨shell, stage⟩ := isRunning_iff.mp running
    unfold execute
    refine .bind (request_ensures stage command) ?_
    intro result later requested
    cases requested with
    | answered | failed => exact .pure ⟨rfl, rfl⟩
  · rw [execute_of_not_running running]
    exact .pure (.refl session)

theorem perform_sameMake (session : Session) (call : SessionCall) :
    Act.Ensures (session.perform host call) world fun next _ => SameMake session next := by
  cases call with
  | start =>
      refine .bind session.start_sameMake ?_
      intro _ _ same
      exact .pure same
  | execute command =>
      refine .bind (session.execute_sameMake command) ?_
      intro _ _ same
      exact .pure same
  | stop => exact session.stop_sameMake

theorem performAll_sameMake (session : Session) (calls : List SessionCall) :
    Act.Ensures (session.performAll host calls) world fun result _ =>
      SameMake session result.2 := by
  induction calls generalizing session world with
  | nil => exact .pure (.refl session)
  | cons call calls inductionHypothesis =>
      refine .bind (session.perform_sameMake call) ?_
      intro next _ made
      refine .bind (inductionHypothesis next) ?_
      intro _ _ remade
      exact .pure (made.trans remade)

section Runs

variable {log : Logged World}

theorem start_runs (session : Session) :
    Act.Ensures (session.start host.logged) log fun _ later => later.runs = log.runs := by
  by_cases running : session.isRunning = true
  · rw [start_of_running running]
    exact .pure rfl
  · unfold start
    rw [if_neg running]
    refine .bind .question ?_
    rintro (fault | child) later launched
    · exact .pure (Host.runs_of_launch launched)
    · exact .pure (Host.runs_of_launch launched)

theorem stop_runs (session : Session) :
    Act.Ensures (session.stop host.logged) log fun _ later => later.runs = log.runs := by
  by_cases running : session.isRunning = true
  · obtain ⟨shell, stage⟩ := isRunning_iff.mp running
    refine (stop_of_running stage).weaken ?_
    rintro _ _ ⟨-, rfl⟩
    rfl
  · rw [stop_of_not_running running]
    exact .pure rfl

theorem execute_runs (session : Session) (command : String) :
    Act.Ensures (session.execute host.logged command) log fun _ later =>
      later.runs = log.runs := by
  by_cases running : session.isRunning = true
  · obtain ⟨shell, stage⟩ := isRunning_iff.mp running
    unfold execute
    refine .bind (request_ensures stage command) ?_
    intro result later requested
    refine .pure ?_
    cases requested with
    | answered told written =>
        exact (Host.runs_of_submit written).trans (Host.runs_of_clock told)
    | failed told written =>
        exact (Host.runs_of_submit written).trans (Host.runs_of_clock told)
  · rw [execute_of_not_running running]
    exact .pure rfl

end Runs

end DeviceBrowser.Session
