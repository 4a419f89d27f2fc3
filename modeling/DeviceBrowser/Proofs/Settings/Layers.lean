import DeviceBrowser.Proofs.Settings.Record
import DeviceBrowser.Settings.Basic

/-!
Settings, one by one, and layers that say what some of them are.

A file can be read in two ways: into a layer, or into settings where what it does not say has
its default already.  Each member is read alike, and so is the whole: the settings are those of
the layer over the defaults.
-/

namespace DeviceBrowser.Settings

inductive Key where
  | path
  | serial
  | commandSeconds
  | callSeconds
  | level
  deriving DecidableEq, Repr

abbrev Key.Value : Key → Type
  | .path | .serial | .level => String
  | .commandSeconds | .callSeconds => UInt64

/-- Values for some of what can be set. -/
abbrev Layer := (key : Key) → Option key.Value

namespace Layer

def empty : Layer := fun _ => none

/-- A layer, and another one for what it does not say. -/
def above (upper lower : Layer) : Layer := fun key => (upper key).or (lower key)

def ofSettings (settings : Settings) : Layer
  | .path => settings.adb.path
  | .serial => settings.adb.serial
  | .commandSeconds => some settings.adb.commandSeconds
  | .callSeconds => some settings.adb.callSeconds
  | .level => some settings.logging.level

def defaults : Layer := ofSettings {}

def adb (layer : Layer) : AdbSettings where
  path := layer .path
  serial := layer .serial
  commandSeconds := (layer .commandSeconds).getD ({} : AdbSettings).commandSeconds
  callSeconds := (layer .callSeconds).getD ({} : AdbSettings).callSeconds

def logging (layer : Layer) : LogSettings where
  level := (layer .level).getD ({} : LogSettings).level

def settings (layer : Layer) : Settings where
  adb := layer.adb
  logging := layer.logging

theorem ofSettings_settings (layer : Layer) : ofSettings layer.settings = layer.above defaults := by
  funext key
  cases key <;> simp [ofSettings, settings, adb, logging, above, defaults]

theorem above_assoc (upper middle lower : Layer) :
    (upper.above middle).above lower = upper.above (middle.above lower) := by
  funext key
  exact Option.or_assoc

theorem above_defaults_above_defaults (layer : Layer) :
    (layer.above defaults).above defaults = layer.above defaults := by
  rw [above_assoc]
  congr 1
  funext key
  exact Option.or_self

section Reading

open Document

variable {Value Plain : Type} {view : Layer → Plain}

/-- A member that says what one setting is. -/
def entry (key : Key) (name : String) (read : List Char → Except Document.Fault (Value × List Char))
    (said : Value → Option key.Value) : Member Layer where
  name
  read layer text := do
    let (value, rest) ← read text
    return (Function.update layer key (said value), rest)

/-- A record within the record.  It says all that it covers. -/
def part (name : String) (covers : Key → Bool) (entries : List (Member Layer)) :
    Member Layer where
  name
  read layer text := do
    let (inner, rest) ← readRecord entries empty text
    return (fun key => if covers key then inner key else layer key, rest)

def adbEntries : List (Member Layer) :=
  [entry .path "path" readOptionalString id, entry .serial "serial" readOptionalString id,
    entry .commandSeconds "command_timeout_secs" readUnsigned some,
    entry .callSeconds "oneshot_timeout_secs" readUnsigned some]

def logEntries : List (Member Layer) :=
  [entry .level "level" readString some]

def parts : List (Member Layer) :=
  [part "adb" (· != .level) adbEntries, part "logging" (· == .level) logEntries]

def ofContent (content : Except SystemFault (List UInt8)) : Except Fault Layer :=
  match content with
  | .error fault => .error (.unreadable fault)
  | .ok bytes =>
      match Text.Utf8.decode? bytes with
      | none => .error (.unreadable .notText)
      | some text => (read parts empty text).mapError .document

theorem entry_mirrors {key : Key} {said : Value → Option key.Value}
    (keep : Plain → Value → Plain)
    (kept : ∀ layer value, view (Function.update layer key (said value)) = keep (view layer) value)
    (name : String) (read : List Char → Except Document.Fault (Value × List Char)) :
    Mirrors view (entry key name read said) ⟨name, fun record text => do
      let (value, rest) ← read text
      return (keep record value, rest)⟩ := by
  refine ⟨rfl, ?_⟩
  intro layer text
  unfold entry
  apply viewed_bind
  rintro ⟨value, rest⟩
  exact congrArg (fun record => Except.ok (record, rest)) (kept layer value).symm

theorem part_mirrors {Inner : Type} {inner : Layer → Inner} {covers : Key → Bool}
    {entries : List (Member Layer)} {images : List (Member Inner)}
    (mirrored : List.Forall₂ (Mirrors inner) entries images) (keep : Plain → Inner → Plain)
    (kept : ∀ layer said, view (fun key => if covers key then said key else layer key) =
      keep (view layer) (inner said))
    (name : String) :
    Mirrors view (part name covers entries) ⟨name, fun record text => do
      let (value, rest) ← readRecord images (inner empty) text
      return (keep record value, rest)⟩ := by
  refine ⟨rfl, ?_⟩
  intro layer text
  unfold part
  dsimp only
  rw [readRecord_viewed mirrored]
  cases readRecord entries empty text with
  | error fault => rfl
  | ok value =>
      exact congrArg (fun record => Except.ok (record, value.2)) (kept layer value.1).symm

theorem adbMembers_mirrored : List.Forall₂ (Mirrors adb) adbEntries adbMembers := by
  refine .cons ?path (.cons ?serial (.cons ?command (.cons ?call .nil)))
  case path =>
    exact entry_mirrors (fun (settings : AdbSettings) path => { settings with path })
      (fun _ _ => rfl) _ _
  case serial =>
    exact entry_mirrors (fun (settings : AdbSettings) serial => { settings with serial })
      (fun _ _ => rfl) _ _
  case command =>
    exact entry_mirrors
      (fun (settings : AdbSettings) commandSeconds => { settings with commandSeconds })
      (fun _ _ => rfl) _ _
  case call =>
    exact entry_mirrors (fun (settings : AdbSettings) callSeconds => { settings with callSeconds })
      (fun _ _ => rfl) _ _

theorem logMembers_mirrored : List.Forall₂ (Mirrors logging) logEntries logMembers :=
  .cons (entry_mirrors (fun (settings : LogSettings) level => { settings with level })
    (fun _ _ => rfl) _ _) .nil

theorem members_mirrored : List.Forall₂ (Mirrors settings) parts members :=
  .cons (part_mirrors adbMembers_mirrored (fun (whole : Settings) adb => { whole with adb })
    (fun _ _ => rfl) _) <|
  .cons (part_mirrors logMembers_mirrored (fun (whole : Settings) logging => { whole with logging })
    (fun _ _ => rfl) _) .nil

/-- The settings of a file are what it says, over the defaults. -/
theorem ofContent_eq (content : Except SystemFault (List UInt8)) :
    Settings.ofContent content = (ofContent content).map settings := by
  unfold Settings.ofContent ofContent
  cases content with
  | error fault => rfl
  | ok bytes =>
      dsimp only
      cases Text.Utf8.decode? bytes with
      | none => rfl
      | some text =>
          have viewed : Document.read members {} text = (read parts empty text).map settings :=
            read_viewed members_mirrored empty text
          dsimp only
          rw [viewed]
          cases read parts empty text <;> rfl

-- What is null is not said.
example :
    let text := "\x7b\"adb\": \x7b\"serial\": null, \"command_timeout_secs\": 7\x7d\x7d"
    (ofContent (.ok (Text.Utf8.encode text.toList))).map
      (fun layer => (layer .serial, layer .commandSeconds, layer .level)) =
        .ok (none, some 7, none) := by
  decide +kernel

end Reading

def ofFile (path : Option String) (files : Files) : Except Fault Layer :=
  match path with
  | some path => ofContent (files path)
  | none => .ok empty

end Layer

end DeviceBrowser.Settings
