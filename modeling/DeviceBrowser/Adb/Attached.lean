import DeviceBrowser.Adb.Call
import DeviceBrowser.Adb.Finder

/-!
The devices that are attached, as adb lists them, and the names that their owners gave
them.
-/

namespace DeviceBrowser.Adb

open Text Calendar

structure Attached where
  serial : String
  /-- What adb says of the connection; it is `device` when all is well. -/
  state : String
  model : Option String
  product : Option String
  /-- The place on the bus as it was printed, with its label. -/
  usb : Option String
  transportId : Option String
  /-- What the device is called: a name given to it, its model or its serial. -/
  name : String
  deriving DecidableEq, Repr

namespace Attached

def isOnline (device : Attached) : Bool :=
  device.state == "device"

def labelled? (label : String) (field : List Char) : Option String :=
  if label.toList.isPrefixOf field then
    some (String.ofList (field.drop label.toList.length))
  else none

/-- Take a field of a row into account.  Of two with the same label the later one counts. -/
def withField (device : Attached) (field : List Char) : Attached :=
  match labelled? "model:" field with
  | some model => { device with model := some model }
  | none =>
  match labelled? "product:" field with
  | some product => { device with product := some product }
  | none =>
  if (labelled? "usb:" field).isSome then { device with usb := some (String.ofList field) }
  else
  match labelled? "transport_id:" field with
  | some id => { device with transportId := some id }
  | none => device

def read? (line : List Char) : Option Attached :=
  match words line with
  | serial :: state :: fields =>
      let serial := String.ofList serial
      let bare : Attached :=
        ⟨serial, String.ofList state, none, none, none, none, serial⟩
      let device := fields.foldl withField bare
      some { device with name := device.model.getD serial }
  | _ => none

/-- Whether a line of the list is about something else than a device. -/
def isChatter (line : List Char) : Bool :=
  isAllBlank line || "List of devices".toList.isPrefixOf line || line.head? == some '*'
    || "adb ".toList.isPrefixOf line

def readAll (text : String) : List Attached :=
  let rows := (lines text.toList).map (trimEndWhere (· == '\r'))
  (rows.filter (!isChatter ·)).filterMap read?

def givenName? (text : String) : Option String :=
  let name := String.ofList (trim text.toList)
  if name.isEmpty || name == "null" then none else some name

variable {World : Type} (host : Host World)

def nameCall (adb : String) (timeout : Span) (device : Attached) : Call where
  adb
  serial := some device.serial
  arguments := ["shell", "settings", "get", "global", "device_name"]
  timeout

/-- Ask a device for its name; it keeps the old one if there is no good answer. -/
def named (adb : String) (timeout : Span) (device : Attached) : Act World Attached := do
  match ← (nameCall adb timeout device).run host with
  | .ok result =>
      if result.isSuccess then
        return { device with name := (givenName? result.text).getD device.name }
      return device
  | .error _ => return device

def nameAll (adb : String) (timeout : Span) : List Attached → Act World (List Attached)
  | [] => return []
  | device :: rest => do
      let device ← named host adb timeout device
      return device :: (← nameAll adb timeout rest)

def listAll (finder : Finder) (timeout : Span) :
    Act World (Except Failure (List Attached) × Finder) := do
  match ← finder.find host with
  | (.error failure, finder) => return (.error failure, finder)
  | (.ok adb, finder) =>
      match ← Call.run host { adb, arguments := ["devices", "-l"], timeout } with
      | .error failure => return (.error failure, finder)
      | .ok result =>
          let online := (readAll result.text).filter isOnline
          return (.ok (← nameAll host adb timeout online), finder)

end Attached

end DeviceBrowser.Adb
