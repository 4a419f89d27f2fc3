import DeviceBrowser.Host.Basic
import DeviceBrowser.Text.Search
import DeviceBrowser.Text.Utf8

/-!
A host whose child processes follow scripts.

Each process that is started takes the next script.  A program that is run once goes
through its actions; a shell goes through one list of actions for every line that it
reads.  Time stands still, so the deadline comes only for a process that hangs or waits
for more input.
-/

namespace DeviceBrowser.Scripted

open Text

inductive Stream where
  | output
  | errors
  deriving DecidableEq, Repr

inductive Action where
  /-- Print a text so many times, with the marker that was asked for put in its place. -/
  | print (stream : Stream) (text : String) (times : Nat)
  | printBytes (stream : Stream) (bytes : List UInt8)
  | closeInput
  | exit (code : Int)
  | die
  | hang
  deriving DecidableEq, Repr

inductive Script where
  | once (actions : List Action)
  | shell (replies : List (List Action))
  deriving DecidableEq, Repr

inductive Event where
  | run (invocation : Invocation)
  | launch (launch : Launch)
  | line (text : String)
  deriving DecidableEq, Repr

inductive Condition where
  | alive
  | exited (code : Option Nat)
  | hung
  deriving DecidableEq, Repr

def markerPlace : List Char := ['\x7b', 'M', '\x7d']

def fillMarker (marker : List Char) (text : List Char) : List Char :=
  match text with
  | [] => []
  | head :: tail =>
      if markerPlace.isPrefixOf (head :: tail) then
        marker ++ fillMarker marker (tail.drop (markerPlace.length - 1))
      else head :: fillMarker marker tail
termination_by text.length
decreasing_by
  · simp only [List.length_drop, List.length_cons]; omega
  · simp

def markerOf (line : List Char) : List Char :=
  match splitLast? "; echo ".toList line with
  | some (_, marker) => marker
  | none => []

structure Performance where
  printed : List (Stream × List UInt8)
  closesInput : Bool
  condition : Condition
  deriving DecidableEq, Repr

def Performance.printing (stream : Stream) (bytes : List UInt8) (rest : Performance) :
    Performance :=
  { rest with printed := (stream, bytes) :: rest.printed }

def perform (marker : List Char) : List Action → Performance
  | [] => ⟨[], false, .alive⟩
  | .print stream text times :: rest =>
      let bytes := Utf8.encode (fillMarker marker text.toList)
      (perform marker rest).printing stream (List.replicate times bytes).flatten
  | .printBytes stream bytes :: rest => (perform marker rest).printing stream bytes
  | .closeInput :: rest => { perform marker rest with closesInput := true }
  | .exit code :: _ => ⟨[], false, .exited (some (code % 256).toNat)⟩
  | .die :: _ => ⟨[], false, .exited none⟩
  | .hang :: _ => ⟨[], false, .hung⟩

def Performance.on (performance : Performance) (stream : Stream) : List UInt8 :=
  (performance.printed.filter (·.1 == stream)).flatMap (·.2)

structure Shell where
  replies : List (List Action) := []
  condition : Condition := .alive
  takesInput : Bool := true
  /-- What it has printed and nobody has read. -/
  printed : List Delivery := []
  deriving DecidableEq, Repr

namespace Shell

/-- Go through the actions of a performance.  A shell that is left without input exits. -/
def after (shell : Shell) (performance : Performance) : Shell where
  replies := shell.replies
  condition :=
    if performance.condition == .alive && performance.closesInput then .exited (some 0)
    else performance.condition
  takesInput := shell.takesInput && !performance.closesInput
  printed := shell.printed ++ performance.printed.map (.data ·.2)

def finish (shell : Shell) : Shell :=
  if shell.condition == .alive then { shell with condition := .exited (some 0) } else shell

/-- Answer a line.  A shell without a reply exits. -/
def answer (shell : Shell) (line : List Char) : Shell :=
  match shell.replies with
  | [] => shell.finish
  | actions :: replies => { shell with replies }.after (perform (markerOf line) actions)

def read (shell : Shell) : List (List Char) → List Event × Shell
  | [] => ([], shell)
  | line :: rest =>
      if shell.condition == .alive then
        let (events, shell) := (shell.answer line).read rest
        (.line (String.ofList line) :: events, shell)
      else ([], shell)

def canBeWritten (shell : Shell) : Bool :=
  match shell.condition with
  | .exited _ => false
  | .alive | .hung => shell.takesInput

def arrivals (shell : Shell) : Arrivals where
  deliveries := shell.printed
  silence :=
    match shell.condition with
    | .exited _ => .closed
    | .alive | .hung => .deadline

end Shell

structure Scene where
  clock : Clock
  scripts : List Script
  shells : List Shell := []
  events : List Event := []
  deriving DecidableEq, Repr

namespace Scene

def programs : List String := ["adb", "adb2", "adb3", "sh"]

/-- Why a program cannot be started with texts of its own.  No text may hold a NUL. -/
def spawnFault? (program : String) (texts : List String) : Option SystemFault :=
  if (program :: texts).any (·.toList.contains '\x00') then some .nulByte
  else if programs.contains program then none
  else if program == "/" then some .permissionDenied
  else some .noSuchFile

/-- Take the next script.  When there is none left a process does nothing. -/
def nextScript (scene : Scene) : Script × Scene :=
  match scene.scripts with
  | [] => (.once [], scene)
  | script :: scripts => (script, { scene with scripts })

def record (scene : Scene) (events : List Event) : Scene :=
  { scene with events := scene.events ++ events }

/-- Start a shell.  A script for a program that is run once is over before the first line. -/
def launch (scene : Scene) (launch : Launch) : Except LaunchFault Child × Scene :=
  let settings := launch.environment.flatMap fun (key, value) => [key, value]
  match spawnFault? launch.program (launch.arguments ++ settings) with
  | some fault => (.error (.spawn fault), scene)
  | none =>
      let (script, scene) := scene.nextScript
      let shell : Shell := match script with
        | .shell replies => { replies }
        | .once actions => (({} : Shell).after (perform [] actions)).finish
      (.ok ⟨scene.shells.length⟩,
        { scene with shells := scene.shells ++ [shell] }.record [.launch launch])

def submit (scene : Scene) (child : Child) (text : String) :
    Except SystemFault Arrivals × Scene :=
  match scene.shells[child.number]? with
  | none => (.error .brokenPipe, scene)
  | some shell =>
      if shell.canBeWritten then
        let (events, shell) := shell.read (text.toList.splitOn '\n').dropLast
        let shells := scene.shells.set child.number { shell with printed := [] }
        (.ok shell.arrivals, { scene with shells }.record events)
      else (.error .brokenPipe, scene)

def release (scene : Scene) (child : Child) : Scene :=
  { scene with
    shells := scene.shells.modify child.number fun shell =>
      { shell with condition := .exited none } }

/-- Run a program once.  A shell that is given no input exits at once. -/
def run (scene : Scene) (invocation : Invocation) : Completion × Scene :=
  match spawnFault? invocation.program invocation.arguments with
  | some fault => (.spawnFault fault, scene)
  | none =>
      let (script, scene) := scene.nextScript
      let actions := match script with
        | .once actions => actions
        | .shell _ => []
      let performance := perform [] actions
      let completion := match performance.condition with
        | .hung => Completion.deadline
        | .alive => .ended (performance.on .output) (performance.on .errors) (some 0)
        | .exited code => .ended (performance.on .output) (performance.on .errors) code
      (completion, scene.record [.run invocation])

def takeEvents (scene : Scene) : List Event × Scene :=
  (scene.events, { scene with events := [] })

end Scene

def host : Host Scene where
  clock := fun scene => (scene.clock, scene)
  launch launch := fun scene => scene.launch launch
  submit child text := fun scene => scene.submit child text
  release child := fun scene => ((), scene.release child)
  run invocation _ := fun scene => scene.run invocation

end DeviceBrowser.Scripted
