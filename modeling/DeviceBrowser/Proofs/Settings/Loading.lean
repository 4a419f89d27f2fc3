import DeviceBrowser.Proofs.Settings.Layers
import DeviceBrowser.Proofs.Text.Decimal

/-!
How settings are loaded.

The command line and the environment are read as layers, as the file is, and what is loaded is
the layers over each other, with the defaults at the bottom.  What is wrong with the file comes
before what is wrong with the environment, and both before a lack of time.
-/

namespace DeviceBrowser.Settings

namespace Layer

def ofArguments (arguments : Arguments) : Layer
  | .path => arguments.adb
  | .serial => arguments.serial
  | .commandSeconds => arguments.timeout
  | .callSeconds => none
  | .level => arguments.logLevel

/-- The variables of a setting, in the order in which they count. -/
def names : Key → List String
  | .path => ["ADB_SHELLFS_ADB_PATH"]
  | .serial => ["ADB_SHELLFS_SERIAL", "ANDROID_SERIAL"]
  | .commandSeconds => ["ADB_SHELLFS_TIMEOUT"]
  | .callSeconds => []
  | .level => ["ADB_SHELLFS_LOG_LEVEL", "RUST_LOG"]

def readSeconds? (text : String) : Option UInt64 :=
  (Text.readUnsigned? UInt64.size text.toList).map UInt64.ofNat

def value? : (key : Key) → String → Option key.Value
  | .path, text | .serial, text | .level, text => some text
  | .commandSeconds, text | .callSeconds, text => readSeconds? text

def ofEnvironment (environment : Environment) : Layer := fun key =>
  ((names key).findSome? (valueOf? environment)).bind (value? key)

theorem withArguments_eq (settings : Settings) (arguments : Arguments) :
    settings.withArguments arguments =
      ((ofArguments arguments).above (ofSettings settings)).settings := by
  unfold withArguments Layer.settings adb logging above ofArguments ofSettings
  simp only [Option.none_or, Option.getD_some]
  congr 1
  · congr 1
    cases arguments.timeout <;> rfl
  · congr 1
    cases arguments.logLevel <;> rfl

theorem findSome?_valueOf?_cons (environment : Environment) (name : String)
    (names : List String) :
    (name :: names).findSome? (valueOf? environment) =
      (valueOf? environment name).or (names.findSome? (valueOf? environment)) := by
  rw [List.findSome?_cons]
  cases valueOf? environment name <;> rfl

/-- A text is a number of seconds: digits, perhaps with a plus sign in front. -/
def Spells (text : String) (seconds : UInt64) : Prop :=
  ∃ digits, Text.isDigits digits = true ∧ Text.digitsValue digits = seconds.toNat ∧
    (text.toList = digits ∨ text.toList = '+' :: digits)

theorem readSeconds?_eq_some_iff {text : String} {seconds : UInt64} :
    readSeconds? text = some seconds ↔ Spells text seconds := by
  unfold readSeconds? Spells
  rw [Option.map_eq_some_iff]
  constructor
  · rintro ⟨number, read, rfl⟩
    obtain ⟨digits, spelled, value, small, written⟩ := Text.readUnsigned?_eq_some_iff.mp read
    exact ⟨digits, spelled, by rw [value, UInt64.toNat_ofNat_of_lt' small], written⟩
  · rintro ⟨digits, spelled, value, written⟩
    refine ⟨seconds.toNat, ?_, UInt64.ofNat_toNat⟩
    exact Text.readUnsigned?_eq_some_iff.mpr ⟨digits, spelled, value, seconds.toNat_lt, written⟩

def TimeoutReads (environment : Environment) : Prop :=
  ∀ text, environment "ADB_SHELLFS_TIMEOUT" = some text → text ≠ "" → ∃ seconds, Spells text seconds

theorem valueOf?_eq_some_iff {environment : Environment} {name text : String} :
    valueOf? environment name = some text ↔ environment name = some text ∧ text ≠ "" := by
  simp [valueOf?, Option.filter_eq_some_iff]

theorem withEnvironment_eq {environment : Environment} (reads : TimeoutReads environment)
    (settings : Settings) :
    settings.withEnvironment environment =
      (.ok (), ((ofEnvironment environment).above (ofSettings settings)).settings) := by
  have path : ofEnvironment environment .path = valueOf? environment "ADB_SHELLFS_ADB_PATH" := by
    simp only [ofEnvironment, names, findSome?_valueOf?_cons, List.findSome?_nil, Option.or_none]
    exact Option.bind_fun_some _
  have serial : ofEnvironment environment .serial =
      (valueOf? environment "ADB_SHELLFS_SERIAL").or (valueOf? environment "ANDROID_SERIAL") := by
    simp only [ofEnvironment, names, findSome?_valueOf?_cons, List.findSome?_nil, Option.or_none]
    exact Option.bind_fun_some _
  have level : ofEnvironment environment .level =
      (valueOf? environment "ADB_SHELLFS_LOG_LEVEL").or (valueOf? environment "RUST_LOG") := by
    simp only [ofEnvironment, names, findSome?_valueOf?_cons, List.findSome?_nil, Option.or_none]
    exact Option.bind_fun_some _
  have timeout : ofEnvironment environment .commandSeconds =
      (valueOf? environment "ADB_SHELLFS_TIMEOUT").bind readSeconds? := by
    simp only [ofEnvironment, names, findSome?_valueOf?_cons, List.findSome?_nil, Option.or_none]
    rfl
  have call : ofEnvironment environment .callSeconds = none := rfl
  unfold withEnvironment
  unfold Layer.settings adb logging above
  rw [path, serial, level, timeout, call]
  cases given : valueOf? environment "ADB_SHELLFS_TIMEOUT" with
  | none => simp [ofSettings, given, Option.getD_or]
  | some text =>
      obtain ⟨set, filled⟩ := valueOf?_eq_some_iff.mp given
      obtain ⟨seconds, spells⟩ := reads text set filled
      have read := readSeconds?_eq_some_iff.mpr spells
      obtain ⟨number, numeral, rfl⟩ := Option.map_eq_some_iff.mp read
      simp [ofSettings, given, read, numeral, Option.getD_or]

theorem withEnvironment_fault {environment : Environment} {text : String}
    (set : environment "ADB_SHELLFS_TIMEOUT" = some text) (filled : text ≠ "")
    (unspelt : ¬ ∃ seconds, Spells text seconds) (settings : Settings) :
    (settings.withEnvironment environment).1 = .error (.invalidTimeout text) := by
  have given := valueOf?_eq_some_iff.mpr ⟨set, filled⟩
  have unread : Text.readUnsigned? UInt64.size text.toList = none := by
    rw [← Option.map_eq_none_iff, Option.eq_none_iff_forall_ne_some]
    intro seconds read
    exact unspelt ⟨seconds, readSeconds?_eq_some_iff.mp read⟩
  simp [withEnvironment, given, unread]

def loaded (arguments : Arguments) (environment : Environment) (file : Layer) : Layer :=
  (ofArguments arguments).above ((ofEnvironment environment).above (file.above defaults))

structure Lasting (layer : Layer) : Prop where
  command : 1 ≤ layer.settings.adb.commandSeconds
  call : 1 ≤ layer.settings.adb.callSeconds

theorem one_le_iff_ne_zero {seconds : UInt64} : 1 ≤ seconds ↔ seconds ≠ 0 := by
  rw [UInt64.le_iff_toNat_le, ne_eq, ← UInt64.toNat_inj]
  exact Nat.one_le_iff_ne_zero

theorem check_of_lasting {layer : Layer} (lasting : Lasting layer) :
    layer.settings.check = .ok () := by
  have command := one_le_iff_ne_zero.mp lasting.command
  have call := one_le_iff_ne_zero.mp lasting.call
  simp [check, command, call]

theorem check_of_not_lasting {layer : Layer} (brief : ¬ Lasting layer) :
    layer.settings.check = .error (.invalidTimeout "0") := by
  unfold check
  split
  next => rfl
  next lasts =>
    simp only [Bool.or_eq_true, beq_iff_eq, not_or] at lasts
    exact absurd ⟨one_le_iff_ne_zero.mpr lasts.1, one_le_iff_ne_zero.mpr lasts.2⟩ brief

section Loading

variable {arguments : Arguments} {environment : Environment} {files : Files} {file : Layer}

/-- Each layer is put over the settings that there are already. -/
theorem withArguments_withEnvironment (arguments : Arguments) (environment : Environment)
    (file : Layer) :
    (((ofEnvironment environment).above (ofSettings file.settings)).settings).withArguments
        arguments = (loaded arguments environment file).settings := by
  rw [withArguments_eq, ofSettings_settings, ofSettings_settings, above_assoc,
    above_defaults_above_defaults]
  rfl

theorem load_eq (arguments : Arguments) (environment : Environment) (files : Files) :
    load arguments environment files = (do
      let file ← ofFile arguments.settingsFile files
      let (outcome, settings) := file.settings.withEnvironment environment
      outcome
      let settings := settings.withArguments arguments
      settings.check
      return settings) := by
  unfold load ofFile
  cases arguments.settingsFile with
  | none => rfl
  | some path =>
      dsimp only
      rw [ofContent_eq]
      cases ofContent (files path) <;> rfl

theorem load_of_unread {fault : Fault}
    (unread : ofFile arguments.settingsFile files = .error fault) :
    load arguments environment files = .error fault := by
  rw [load_eq, unread]
  rfl

theorem load_of_unspelt {text : String} (read : ofFile arguments.settingsFile files = .ok file)
    (set : environment "ADB_SHELLFS_TIMEOUT" = some text) (filled : text ≠ "")
    (unspelt : ¬ ∃ seconds, Spells text seconds) :
    load arguments environment files = .error (.invalidTimeout text) := by
  have fault := withEnvironment_fault set filled unspelt file.settings
  rcases applied : file.settings.withEnvironment environment with ⟨outcome, settings⟩
  rw [applied] at fault
  obtain rfl : outcome = .error (.invalidTimeout text) := fault
  rw [load_eq, read]
  simp [applied, bind, Except.bind]

theorem load_of_reads (read : ofFile arguments.settingsFile files = .ok file)
    (reads : TimeoutReads environment) :
    load arguments environment files =
      (loaded arguments environment file).settings.check.map fun _ =>
        (loaded arguments environment file).settings := by
  rw [load_eq, read, ← withArguments_withEnvironment]
  simp only [bind, Except.bind, withEnvironment_eq reads]
  rfl

theorem load_of_lasting (read : ofFile arguments.settingsFile files = .ok file)
    (reads : TimeoutReads environment) (lasting : Lasting (loaded arguments environment file)) :
    load arguments environment files = .ok (loaded arguments environment file).settings := by
  rw [load_of_reads read reads, check_of_lasting lasting]
  rfl

theorem load_of_not_lasting (read : ofFile arguments.settingsFile files = .ok file)
    (reads : TimeoutReads environment) (brief : ¬ Lasting (loaded arguments environment file)) :
    load arguments environment files = .error (.invalidTimeout "0") := by
  rw [load_of_reads read reads, check_of_not_lasting brief]
  rfl

/-- What loading comes to.  The file is looked at first, then the environment, and then
whether there is time for everything. -/
inductive Outcome (arguments : Arguments) (environment : Environment) (files : Files) :
    Except Fault Settings → Prop
  | unread {fault : Fault} (unread : ofFile arguments.settingsFile files = .error fault) :
      Outcome arguments environment files (.error fault)
  | unspelt {file : Layer} {text : String} (read : ofFile arguments.settingsFile files = .ok file)
      (set : environment "ADB_SHELLFS_TIMEOUT" = some text) (filled : text ≠ "")
      (unspelt : ¬ ∃ seconds, Spells text seconds) :
      Outcome arguments environment files (.error (.invalidTimeout text))
  | brief {file : Layer} (read : ofFile arguments.settingsFile files = .ok file)
      (reads : TimeoutReads environment) (brief : ¬ Lasting (loaded arguments environment file)) :
      Outcome arguments environment files (.error (.invalidTimeout "0"))
  | loaded {file : Layer} (read : ofFile arguments.settingsFile files = .ok file)
      (reads : TimeoutReads environment) (lasting : Lasting (loaded arguments environment file)) :
      Outcome arguments environment files (.ok (loaded arguments environment file).settings)

theorem load_outcome (arguments : Arguments) (environment : Environment) (files : Files) :
    Outcome arguments environment files (load arguments environment files) := by
  cases read : ofFile arguments.settingsFile files with
  | error fault =>
      rw [load_of_unread read]
      exact .unread read
  | ok file =>
      by_cases reads : TimeoutReads environment
      · by_cases lasting : Lasting (loaded arguments environment file)
        · rw [load_of_lasting read reads lasting]
          exact .loaded read reads lasting
        · rw [load_of_not_lasting read reads lasting]
          exact .brief read reads lasting
      · simp only [TimeoutReads, not_forall] at reads
        obtain ⟨text, set, filled, unspelt⟩ := reads
        rw [load_of_unspelt read set filled unspelt]
        exact .unspelt read set filled unspelt

end Loading

end Layer

open Layer

-- A serial that is given as an empty text hides the one below it, and stands for none.
example :
    let environment := fun name => if name == "ANDROID_SERIAL" then some "x" else none
    (load { serial := some "" } environment fun _ => .error .noSuchFile).map
      (·.deviceOptions.serial) = .ok none := by
  decide +kernel

end DeviceBrowser.Settings
