import DeviceBrowser.Adb.Finder
import DeviceBrowser.Proofs.Host.Observed

/-!
Looking for adb, once.

The candidates are asked for their versions in order, up to the first that answers as an adb
does; whatever the others do, the search goes on to the next.  Its outcome is remembered, and
so is that there is none.
-/

namespace DeviceBrowser.Adb.Finder

open Text

variable {World : Type} {host : Host World} {finder : Finder} {log : Logged World}

def probeRun (candidate : String) (completion : Completion) : ProgramRun :=
  ⟨⟨candidate, ["version"]⟩, probeTimeout, completion⟩

/-- A candidate is accepted only for what it prints until it ends. -/
def accepts : Completion → Bool
  | .ended output errors _ => isVersionText (Utf8.decodeLossy output ++ Utf8.decodeLossy errors)
  | .spawnFault _ | .deadline => false

/-- Which programs a search runs, by the outcome that it has. -/
inductive Probes (candidates : List String) : List ProgramRun → Option String → Prop
  | found {before after : List String} {adb : String} {completions : List Completion}
      {last : Completion} (listed : candidates = before ++ adb :: after)
      (each : completions.length = before.length)
      (rejected : ∀ completion ∈ completions, accepts completion = false)
      (accepted : accepts last = true) :
      Probes candidates (List.zipWith probeRun before completions ++ [probeRun adb last]) (some adb)
  | exhausted {completions : List Completion} (each : completions.length = candidates.length)
      (rejected : ∀ completion ∈ completions, accepts completion = false) :
      Probes candidates (List.zipWith probeRun candidates completions) none

def answer : Option String → Except Failure String
  | some adb => .ok adb
  | none => .error .adbNotFound

theorem probe_runs (candidate : String) (log : Logged World) :
    Act.Achieves (probe host.logged candidate) log fun accepted later =>
      ∃ completion, accepted = accepts completion ∧
        later.runs = log.runs ++ [probeRun candidate completion] := by
  unfold probe
  refine .bind (host.run_achieves log _ _) ?_
  intro completion later runs
  cases completion with
  | spawnFault fault | deadline | ended output errors exitCode => exact .pure ⟨_, rfl, runs⟩

theorem Probes.cons {candidates : List String} {probes : List ProgramRun}
    {outcome : Option String} {completion : Completion} (rejected : accepts completion = false)
    (searched : Probes candidates probes outcome) (candidate : String) :
    Probes (candidate :: candidates) (probeRun candidate completion :: probes) outcome := by
  cases searched with
  | @found before after adb completions last listed each others accepted =>
      change Probes _
        (List.zipWith probeRun (candidate :: before) (completion :: completions) ++ _) _
      refine .found (congrArg (candidate :: ·) listed) ?_ ?_ accepted
      · rw [List.length_cons, List.length_cons, each]
      · exact List.forall_mem_cons.mpr ⟨rejected, others⟩
  | @exhausted completions each others =>
      change Probes _
        (List.zipWith probeRun (candidate :: candidates) (completion :: completions)) _
      refine .exhausted ?_ ?_
      · rw [List.length_cons, List.length_cons, each]
      · exact List.forall_mem_cons.mpr ⟨rejected, others⟩

theorem probes_nil : Probes [] [] none :=
  @Probes.exhausted [] [] rfl (by simp)

theorem probes_first {candidate : String} {candidates : List String} {completion : Completion}
    (accepted : accepts completion = true) :
    Probes (candidate :: candidates) [probeRun candidate completion] (some candidate) :=
  @Probes.found _ [] candidates candidate [] completion rfl rfl (by simp) accepted

theorem firstWorking_runs (candidates : List String) (log : Logged World) :
    Act.Achieves (firstWorking host.logged candidates) log fun outcome later =>
      ∃ probes, Probes candidates probes outcome ∧ later.runs = log.runs ++ probes := by
  induction candidates generalizing log with
  | nil => exact .pure ⟨[], probes_nil, (List.append_nil _).symm⟩
  | cons candidate candidates inductionHypothesis =>
      unfold firstWorking
      refine .bind (probe_runs candidate log) ?_
      rintro accepted middle ⟨completion, judged, first⟩
      cases accepted with
      | true => exact .pure ⟨_, probes_first judged.symm, first⟩
      | false =>
          obtain ⟨outcome, later, ran, probes, searched, rest⟩ := inductionHypothesis middle
          refine ⟨outcome, later, ran, _, searched.cons judged.symm candidate, ?_⟩
          rw [rest, first, List.append_assoc]
          rfl

theorem find_of_known {outcome : Option String} (known : finder.outcome = some outcome) :
    finder.find host = pure (answer outcome, finder) := by
  obtain ⟨candidates, _⟩ := finder
  cases known
  cases outcome <;> rfl

theorem find_of_unknown (unknown : finder.outcome = none) (log : Logged World) :
    Act.Achieves (finder.find host.logged) log fun result later =>
      ∃ probes outcome, Probes finder.candidates probes outcome ∧
        result = (answer outcome, { finder with outcome := some outcome }) ∧
        later.runs = log.runs ++ probes := by
  unfold find
  rw [unknown]
  refine .bind (firstWorking_runs finder.candidates log) ?_
  rintro outcome later ⟨probes, searched, runs⟩
  refine .pure ⟨probes, outcome, searched, ?_, runs⟩
  cases outcome <;> rfl

/-- What has become of a finder while some programs were run, of which `calls` had nothing to do
with the search. -/
inductive Trail (finder : Finder) (calls : List ProgramRun) : Finder → List ProgramRun → Prop
  | quiet : Trail finder calls finder calls
  | searched {probes : List ProgramRun} {outcome : Option String}
      (unknown : finder.outcome = none) (searched : Probes finder.candidates probes outcome) :
      Trail finder calls { finder with outcome := some outcome } (probes ++ calls)

theorem Trail.trans {middle last : Finder} {first rest calls : List ProgramRun}
    (trail : Trail finder [] middle first) (more : Trail middle calls last rest) :
    Trail finder calls last (first ++ rest) := by
  cases trail with
  | quiet => exact more
  | searched unknown searched =>
      cases more with
      | quiet =>
          rw [List.append_nil]
          exact .searched unknown searched
      | searched known => cases known

/-- Asking for adb comes to an end, and what is answered then is known from then on. -/
theorem find_trails (finder : Finder) (log : Logged World) :
    Act.Achieves (finder.find host.logged) log fun result later =>
      ∃ outcome runs, result.1 = answer outcome ∧ result.2.outcome = some outcome ∧
        later.runs = log.runs ++ runs ∧ Trail finder [] result.2 runs := by
  cases known : finder.outcome with
  | some outcome =>
      rw [find_of_known known]
      exact .pure ⟨outcome, [], rfl, known, (List.append_nil _).symm, .quiet⟩
  | none =>
      obtain ⟨_, later, ran, probes, outcome, searched, rfl, runs⟩ :
          Act.Achieves (finder.find host.logged) log _ := find_of_unknown known log
      have trail : Trail finder [] { finder with outcome := some outcome } (probes ++ []) :=
        .searched known searched
      rw [List.append_nil] at trail
      exact ⟨_, later, ran, outcome, probes, rfl, rfl, runs, trail⟩

end DeviceBrowser.Adb.Finder
