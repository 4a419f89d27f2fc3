import DeviceBrowser.Adb.Attached
import DeviceBrowser.Proofs.Host.Observed
import DeviceBrowser.Proofs.Text.Blank

/-!
Asking the attached devices for their names.

Each device that is online is asked once, in the order in which adb lists them, and keeps all that
the list says of it but perhaps its name.  Its name depends on the answer to its own question only,
so a question that goes wrong costs no other device anything.
-/

namespace DeviceBrowser.Adb

open Text Calendar

variable {World : Type} {host : Host World} {log : Logged World}

namespace Call

def ran (call : Call) (completion : Completion) : ProgramRun :=
  ⟨⟨call.adb, call.commandLine⟩, call.timeout, completion⟩

/-- What a call comes to, from how the program ended. -/
def outcome (call : Call) : Completion → Except Failure Result
  | .spawnFault fault => .error (.spawn call.adb fault)
  | .deadline => .error (.deadline call.timeout)
  | .ended output errors exitCode =>
      .ok ⟨Terminal.withoutLineEnds (Terminal.plainText (output ++ errors)), exitCode⟩

theorem run_achieves (call : Call) (log : Logged World) :
    Act.Achieves (call.run host.logged) log fun answer later =>
      ∃ completion, answer = call.outcome completion ∧
        later.runs = log.runs ++ [call.ran completion] := by
  unfold run
  refine .bind (host.run_achieves log _ _) ?_
  intro completion later runs
  cases completion with
  | spawnFault fault | deadline | ended output errors exitCode => exact .pure ⟨_, rfl, runs⟩

end Call

namespace Finder

end Finder

namespace Attached

/-- What a device is called once the question for its name has come to an end. -/
def nameAfter (device : Attached) : Completion → String
  | .ended output errors (some 0) =>
      let name := String.ofList (trim (Terminal.plainText (output ++ errors)).toList)
      if name = "" ∨ name = "null" then device.model.getD device.serial else name
  | _ => device.model.getD device.serial

/-- A device once the question for its name has come to an end: nothing else of it changes. -/
def answered (device : Attached) (completion : Completion) : Attached :=
  { device with name := device.nameAfter completion }

structure IsRead (device : Attached) : Prop where
  serial : device.serial ≠ ""
  name : device.name = device.model.getD device.serial

theorem serial_withField (device : Attached) (field : List Char) :
    (device.withField field).serial = device.serial := by
  unfold withField
  repeat' split
  all_goals rfl

theorem serial_foldl_withField (fields : List (List Char)) (device : Attached) :
    (fields.foldl withField device).serial = device.serial := by
  induction fields generalizing device with
  | nil => rfl
  | cons field fields inductionHypothesis =>
      rw [List.foldl_cons, inductionHypothesis, serial_withField]

theorem isRead_of_read? {line : List Char} {device : Attached}
    (found : read? line = some device) : device.IsRead := by
  unfold read? at found
  split at found
  next serial state fields cut =>
    obtain rfl := Option.some.inj found
    have listed : serial ∈ words line := by
      rw [cut]
      exact List.mem_cons_self
    have shape := isColumn_of_mem_words listed
    constructor
    · rw [serial_foldl_withField]
      intro empty
      simp [String.ofList_eq_empty_iff.mp empty, isColumn] at shape
    · rw [serial_foldl_withField]
  next => cases found

theorem isRead_of_mem_readAll {text : String} {device : Attached}
    (listed : device ∈ readAll text) : device.IsRead := by
  obtain ⟨line, -, found⟩ := List.mem_filterMap.mp listed
  exact isRead_of_read? found

def nameRun (adb : String) (timeout : Span) (device : Attached) (completion : Completion) :
    ProgramRun :=
  ⟨⟨adb, ["-s", device.serial, "shell", "settings", "get", "global", "device_name"]⟩, timeout,
    completion⟩

theorem getD_givenName? (text name : String) :
    (givenName? (Terminal.withoutLineEnds text)).getD name =
      let given := String.ofList (trim text.toList)
      if given = "" ∨ given = "null" then name else given := by
  rw [givenName?, Terminal.withoutLineEnds, String.toList_ofList, trim_trimLineEnds]
  generalize String.ofList (trim text.toList) = given
  dsimp only
  by_cases nameless : given = "" ∨ given = "null"
  · rw [if_pos nameless, if_pos (by simpa using nameless), Option.getD_none]
  · rw [if_neg nameless, if_neg (by simpa using nameless), Option.getD_some]

theorem named_achieves (adb : String) (timeout : Span) {device : Attached}
    (isRead : device.IsRead) (log : Logged World) :
    Act.Achieves (named host.logged adb timeout device) log fun result later =>
      ∃ completion, result = device.answered completion ∧
        later.runs = log.runs ++ [nameRun adb timeout device completion] := by
  have filled : device.serial.isEmpty = false := by simpa using isRead.serial
  have arguments : serialArguments (some device.serial) = ["-s", device.serial] := by
    simp [serialArguments, Option.filter, filled]
  have asked : ∀ completion,
      (nameCall adb timeout device).ran completion = nameRun adb timeout device completion := by
    intro completion
    rw [Call.ran, Call.commandLine, nameCall, arguments]
    rfl
  have kept : { device with name := device.model.getD device.serial } = device := by
    rw [← isRead.name]
  unfold named
  refine .bind (Call.run_achieves _ log) ?_
  rintro answer later ⟨completion, rfl, runs⟩
  rw [asked] at runs
  cases completion with
  | spawnFault fault => exact .pure ⟨.spawnFault fault, kept.symm, runs⟩
  | deadline => exact .pure ⟨.deadline, kept.symm, runs⟩
  | ended output errors exitCode =>
      match exitCode with
      | some 0 =>
          refine .pure ⟨.ended output errors (some 0), ?_, runs⟩
          rw [getD_givenName?, isRead.name]
          rfl
      | none => exact .pure ⟨.ended output errors none, kept.symm, runs⟩
      | some (code + 1) => exact .pure ⟨.ended output errors (some (code + 1)), kept.symm, runs⟩

theorem nameAll_achieves (adb : String) (timeout : Span) {devices : List Attached}
    (isRead : ∀ device ∈ devices, device.IsRead) (log : Logged World) :
    Act.Achieves (nameAll host.logged adb timeout devices) log fun result later =>
      ∃ completions : List Completion, completions.length = devices.length ∧
        result = List.zipWith answered devices completions ∧
        later.runs = log.runs ++ List.zipWith (nameRun adb timeout) devices completions := by
  induction devices generalizing log with
  | nil => exact .pure ⟨[], rfl, rfl, by simp⟩
  | cons device devices inductionHypothesis =>
      rw [List.forall_mem_cons] at isRead
      unfold nameAll
      refine .bind (named_achieves adb timeout isRead.1 log) ?_
      rintro named middle ⟨completion, rfl, first⟩
      refine .bind (inductionHypothesis isRead.2 middle) ?_
      rintro others later ⟨completions, length, rfl, rest⟩
      refine .pure ⟨completion :: completions, by rw [List.length_cons, length, List.length_cons],
        rfl, ?_⟩
      rw [rest, first, List.append_assoc]
      rfl

def listRun (adb : String) (timeout : Span) (completion : Completion) : ProgramRun :=
  ⟨⟨adb, ["devices", "-l"]⟩, timeout, completion⟩

def onlineRows (output errors : List UInt8) : List Attached :=
  (readAll (Terminal.withoutLineEnds (Terminal.plainText (output ++ errors)))).filter
    (·.state == "device")

/-- What listing the devices comes to, by what finding adb came to, and which programs are run for
it.  A list is always made of the rows that are online, with one question for each of them. -/
inductive Listed (timeout : Span) :
    Except Failure String → Except Failure (List Attached) → List ProgramRun → Prop
  | notFound (failure : Failure) : Listed timeout (.error failure) (.error failure) []
  | notStarted (adb : String) (fault : SystemFault) :
      Listed timeout (.ok adb) (.error (.spawn adb fault)) [listRun adb timeout (.spawnFault fault)]
  | late (adb : String) :
      Listed timeout (.ok adb) (.error (.deadline timeout)) [listRun adb timeout .deadline]
  | named (adb : String) (output errors : List UInt8) (exitCode : Option Nat)
      (completions : List Completion)
      (each : completions.length = (onlineRows output errors).length) :
      Listed timeout (.ok adb)
        (.ok (List.zipWith answered (onlineRows output errors) completions))
        (listRun adb timeout (.ended output errors exitCode) ::
          List.zipWith (nameRun adb timeout) (onlineRows output errors) completions)

end Attached

end DeviceBrowser.Adb
