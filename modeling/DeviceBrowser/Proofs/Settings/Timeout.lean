import DeviceBrowser.Proofs.Arguments.CommandLine
import DeviceBrowser.Proofs.Session.Deadline
import DeviceBrowser.Proofs.Settings.Loading
import DeviceBrowser.Proofs.Settings.Numeral

/-!
Timeouts, from where they are given to the deadlines of commands.

The command line, the environment and a file can each give any number of seconds that has
64 bits and is not zero.  The clock has one bit less for them.  So a timeout that is long
enough ends the program with the first command, and how long that is depends on the reading
of the clock.
-/

namespace DeviceBrowser.Settings

open Calendar Text

inductive TimeoutSource where
  | commandLine
  | environment
  | file
  deriving DecidableEq, Repr

namespace TimeoutSource

variable (seconds : UInt64)

def document : List Char :=
  Document.single "adb" (Document.single "command_timeout_secs" (decimal seconds.toNat))

def words : TimeoutSource → List Arguments.Word
  | .commandLine =>
      [Arguments.longWord Arguments.Setting.timeout.name, Utf8.encode (decimal seconds.toNat)]
  | .environment => []
  | .file => [Arguments.longWord Arguments.Setting.settingsFile.name, Arguments.wordOf "a.json"]

def exported : TimeoutSource → Environment
  | .environment => fun name =>
      if name = "ADB_SHELLFS_TIMEOUT" then some (String.ofList (decimal seconds.toNat)) else none
  | .commandLine | .file => fun _ => none

def files : TimeoutSource → Files
  | .file => fun _ => .ok (Utf8.encode (document seconds))
  | .commandLine | .environment => fun _ => .error .noSuchFile

/-- A number of seconds is accepted where it is given, and kept as it is. -/
def Accepts (source : TimeoutSource) : Prop :=
  ∃ arguments settings, Arguments.parse (source.words seconds) = .ok arguments ∧
    load arguments (source.exported seconds) (source.files seconds) = .ok settings ∧
    settings.adb.commandSeconds = seconds

variable {seconds}

theorem toNat_pos (positive : 1 ≤ seconds) : 0 < seconds.toNat :=
  UInt64.le_iff_toNat_le.mp positive

open Document in
theorem readRecord_document (positive : 1 ≤ seconds) :
    readRecord members {} (document seconds) =
      .ok ({ adb := { commandSeconds := seconds } }, []) := by
  have number : readUnsigned (decimal seconds.toNat ++ ['\x7d', '\x7d']) =
      .ok (seconds, ['\x7d', '\x7d']) := by
    have read := @readUnsigned_decimal '\x7d' ['\x7d'] _ (toNat_pos positive)
      seconds.toNat_lt (by decide) (by decide) (by decide)
    rwa [UInt64.ofNat_toNat] at read
  have inner : readRecord adbMembers {}
      (single "command_timeout_secs" (decimal seconds.toNat) ++ ['\x7d']) =
        .ok ({ commandSeconds := seconds }, ['\x7d']) := by
    refine readRecord_single adbMembers adbMembers[2] rfl (by decide) ?_
    change (readUnsigned _ >>= _) = _
    rw [number]
    rfl
  have outer : readRecord members {} (document seconds ++ []) =
      .ok ({ adb := { commandSeconds := seconds } }, []) := by
    refine readRecord_single members members[0] rfl (by decide) ?_
    change (readRecord adbMembers _ _ >>= _) = _
    rw [inner]
    rfl
  rwa [List.append_nil] at outer

theorem ofContent_document (positive : 1 ≤ seconds) :
    ofContent (.ok (Utf8.encode (document seconds))) =
      .ok { adb := { commandSeconds := seconds } } := by
  rw [ofContent, Utf8.decode?_encode]
  simp only [Document.read, readRecord_document positive]
  rfl

theorem parse_words (source : TimeoutSource) (positive : 1 ≤ seconds) :
    Arguments.parse (source.words seconds) = .ok (match source with
      | .commandLine => { timeout := some seconds }
      | .environment => {}
      | .file => { settingsFile := some "a.json" }) := by
  have single (setting : Arguments.Setting) (value : Arguments.Word) :
      Arguments.parse [Arguments.longWord setting.name, value] =
        ({} : Arguments).assign setting value >>= (·.readWords .anything []) := by
    have read := (Arguments.Spells.apart setting value).readWords_append {} []
    rwa [Arguments.foldlM_grant_singleton] at read
  cases source with
  | commandLine =>
      have value : Utf8.encode (decimal seconds.toNat) =
          Arguments.wordOf (String.ofList (decimal seconds.toNat)) := by
        rw [Arguments.wordOf, String.toList_ofList]
      rw [words, single, Arguments.assign, value, Arguments.readText_wordOf]
      simp only [bind, Except.bind,
        Arguments.readTimeout_decimal (Layer.one_le_iff_ne_zero.mp positive)]
      rfl
  | environment => rfl
  | file =>
      rw [words, single, Arguments.assign, Arguments.readText_wordOf]
      rfl

theorem exists_load (source : TimeoutSource) (positive : 1 ≤ seconds) :
    ∃ arguments, Arguments.parse (source.words seconds) = .ok arguments ∧
      load arguments (source.exported seconds) (source.files seconds) =
        .ok { adb := { commandSeconds := seconds } } := by
  refine ⟨_, source.parse_words positive, ?_⟩
  have checked : ({ adb := { commandSeconds := seconds } } : Settings).check = .ok () := by
    simp [check, Layer.one_le_iff_ne_zero.mp positive]
  suffices overridden : load _ (source.exported seconds) (source.files seconds) =
      ({ adb := { commandSeconds := seconds } } : Settings).check >>=
        fun _ => .ok { adb := { commandSeconds := seconds } } by
    rw [overridden, checked]
    rfl
  cases source with
  | commandLine => rfl
  | environment =>
      have given : valueOf? (exported seconds .environment) "ADB_SHELLFS_TIMEOUT" =
          some (String.ofList (decimal seconds.toNat)) :=
        Layer.valueOf?_eq_some_iff.mpr ⟨rfl, by simp [decimal]⟩
      have read : readUnsigned? UInt64.size (decimal seconds.toNat) = some seconds.toNat :=
        readUnsigned?_decimal seconds.toNat_lt
      have set : ({} : Settings).withEnvironment (exported seconds .environment) =
          (.ok (), { adb := { commandSeconds := seconds } }) := by
        simp only [withEnvironment, given, String.toList_ofList, read, UInt64.ofNat_toNat]
        rfl
      simp only [load, pure_bind, set]
      rfl
  | file =>
      simp only [load, files, ofContent_document positive]
      rfl

end TimeoutSource

theorem one_le_commandSeconds {arguments : Arguments} {environment : Environment} {files : Files}
    {settings : Settings} (loaded : load arguments environment files = .ok settings) :
    1 ≤ settings.adb.commandSeconds := by
  have outcome := Layer.load_outcome arguments environment files
  rw [loaded] at outcome
  cases outcome with
  | loaded read reads lasting => exact lasting.command

theorem TimeoutSource.accepts_iff (source : TimeoutSource) (seconds : UInt64) :
    source.Accepts seconds ↔ 1 ≤ seconds := by
  constructor
  · rintro ⟨arguments, settings, -, loaded, rfl⟩
    exact one_le_commandSeconds loaded
  · intro positive
    obtain ⟨arguments, parsed, loaded⟩ := source.exists_load positive
    exact ⟨arguments, _, parsed, loaded, rfl⟩

/-- A number of seconds is accepted from everywhere, if it is not zero.  In a session that has it
as its timeout, a command that is written to the shell comes to its end just if these seconds and
those on the clock stay below 2 ^ 63 together; otherwise the program does not go on. -/
theorem execute_isOk_iff_of_load (seconds : UInt64) :
    (∀ source : TimeoutSource, source.Accepts seconds ↔ 1 ≤ seconds) ∧
      ∀ {arguments environment files settings},
        load arguments environment files = .ok settings →
        settings.adb.commandSeconds = seconds →
        ∀ {World : Type} (host : Host World) {launch start calls world made later}
          {session : Session} {shell : LiveShell},
          ((Session.new launch settings.deviceOptions.commandTimeout start).performAll host
            calls).runFrom world = (.ok (made, session), later) →
          session.stage = .running shell →
          ∀ command, ((session.execute host command).runFrom later).1.isOk = true ↔
            (host.takes shell.child session.markers command later = true →
              (host.clock later).1.elapsed / 1_000_000_000 + seconds.toNat < 2 ^ 63) := by
  refine ⟨fun source => source.accepts_iff seconds, ?_⟩
  rintro arguments environment files settings loaded rfl
  intro World host launch start calls world made later session shell reached running command
  have same := Session.performAll_sameMake _ calls _ _ reached
  have timeout : session.timeout = Span.ofSeconds settings.adb.commandSeconds.toNat := same.timeout
  rw [Session.execute_isOk_iff_of_running running, timeout, deadlineAfter?_isSome_iff]
  rfl

/-- A host without any answers, on which most of the first second has passed. -/
def lateHost : Host (List (List (List UInt8))) :=
  { Host.replaying with clock := return ⟨0, 0, 999_999_999⟩ }

/-- The longest timeout within the first second. -/
theorem execute_isOk_iff_of_load_longest :
    ∃ settings made session,
      load { timeout := some 9223372036854775807 } (fun _ => none)
        (fun _ => .error .noSuchFile) = .ok settings ∧
      ((Session.new (.shell "sh") settings.deviceOptions.commandTimeout ⟨0, 0, 0⟩).performAll
        lateHost [.start]).runFrom [] = (.ok (made, session), []) ∧
      session.isRunning = true ∧
      ((session.execute lateHost "pwd").runFrom []).1.isOk = true := by
  let settings : Settings := { adb := { commandSeconds := 9223372036854775807 } }
  let unstarted := Session.new (.shell "sh") settings.deviceOptions.commandTimeout ⟨0, 0, 0⟩
  let session : Session := { unstarted with stage := .running { child := ⟨0⟩ } }
  have loaded : load { timeout := some 9223372036854775807 } (fun _ => none)
      (fun _ => .error .noSuchFile) = .ok settings := rfl
  have reached : (unstarted.performAll lateHost [.start]).runFrom [] =
      (.ok ([(.notStarted, .start)], session), []) := rfl
  refine ⟨settings, _, session, loaded, reached, rfl, ?_⟩
  refine ((execute_isOk_iff_of_load 9223372036854775807).2 loaded rfl lateHost reached rfl
    "pwd").mpr fun _ => ?_
  decide

/-- No clock holds the deadline of the longest timeout, not even one that has just started. -/
theorem execute_aborts_of_longest :
    ∃ arguments settings session,
      Arguments.parse (["--timeout", "18446744073709551615"].map Arguments.wordOf) =
        .ok arguments ∧
      load arguments (fun _ => none) (fun _ => .error .noSuchFile) = .ok settings ∧
      ((Session.new (.shell "sh") settings.deviceOptions.commandTimeout ⟨0, 0, 0⟩).start
        Host.replaying).runFrom [] = (.ok (.ok (), session), []) ∧
      session.isRunning = true ∧
      ((session.execute Host.replaying "pwd").runFrom []).1 = .error .deadlineOverflow :=
  ⟨{ timeout := some 18446744073709551615 }, _, _, by decide +kernel, rfl, rfl, rfl, rfl⟩

end DeviceBrowser.Settings
