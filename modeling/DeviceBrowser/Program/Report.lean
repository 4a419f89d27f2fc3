import DeviceBrowser.Adb.Attached
import DeviceBrowser.Json.Pretty
import DeviceBrowser.Listing.Table

/-!
What the program prints about devices and directories, for people or as JSON.
-/

namespace DeviceBrowser.Program

open Json

def entryJson (entry : Entry) : Value :=
  .object
    [ ("name", .text entry.name),
      ("kind", .text entry.kind.name),
      ("permissions", .text entry.permissions),
      ("size", .number entry.size.toNat),
      ("owner", .text entry.owner),
      ("group", .text entry.group),
      ("links", .number entry.links.toNat),
      ("modified", .text entry.modified.rfc3339),
      ("target", .ofOption entry.target) ]

def listingJson (listing : Listing) : Value :=
  .object
    [("path", .text listing.path), ("entries", .array (listing.entries.map entryJson))]

def deviceJson (device : Adb.Attached) : Value :=
  .object
    [ ("serial", .text device.serial),
      ("state", .text device.state),
      ("model", .ofOption device.model),
      ("product", .ofOption device.product),
      ("usb", .ofOption device.usb),
      ("transport_id", .ofOption device.transportId),
      ("name", .text device.name) ]

def deviceRow (device : Adb.Attached) : String :=
  String.ofList (Listing.alignLeft 24 device.serial) ++ " " ++ device.name ++ "\n"

def showListing (asJson : Bool) (listing : Listing) : String :=
  if asJson then (listingJson listing).pretty ++ "\n" else listing.table

def showDevices (asJson : Bool) (devices : List Adb.Attached) : String :=
  if asJson then (Value.array (devices.map deviceJson)).pretty ++ "\n"
  else String.join (devices.map deviceRow)

end DeviceBrowser.Program
