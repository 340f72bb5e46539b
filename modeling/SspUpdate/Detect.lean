import SspUpdate.Error

/-!
# Serial ports of a machine

Validators show up as a USB device of their maker, or sit behind a common
USB-to-serial bridge. Both are recognised by vendor and product number, so
that the most likely port can be picked.
-/

namespace SspUpdate

inductive DeviceKind where
  | itlUsb
  | ch340
  | cp210x
  | ftdi
  | prolific
  | unknown
  deriving DecidableEq, Repr

namespace DeviceKind

/-- Vendor numbers with their products; an empty list stands for all products. -/
def catalogue : List (UInt16 × List UInt16 × DeviceKind) :=
  [(0x191C, [], itlUsb),
   (0x1A86, [0x7523, 0x7522, 0x5523, 0x5512, 0x55D4], ch340),
   (0x10C4, [0xEA60, 0xEA70, 0xEA71, 0xEA63], cp210x),
   (0x0403, [0x6001, 0x6010, 0x6011, 0x6014, 0x6015], ftdi),
   (0x067B, [0x2303, 0x23A3, 0x23C3, 0x23D3], prolific)]

def ofVidPid (vid pid : UInt16) : DeviceKind :=
  match catalogue.find? fun (v, pids, _) => v = vid ∧ (pids = [] ∨ pid ∈ pids) with
  | some (_, _, kind) => kind
  | none => unknown

def name : DeviceKind → String
  | itlUsb => "ITL USB"
  | ch340 => "CH340/CH341"
  | cp210x => "CP210x"
  | ftdi => "FTDI"
  | prolific => "PL2303"
  | unknown => "Unknown"

/-- The kind as a tag. -/
def tag : DeviceKind → String
  | itlUsb => "itl_usb"
  | ch340 => "ch340"
  | cp210x => "cp210x"
  | ftdi => "ftdi"
  | prolific => "prolific"
  | unknown => "unknown"

/-- The kind as a name in log lines. -/
def debug : DeviceKind → String
  | itlUsb => "ItlUsb"
  | ch340 => "Ch340"
  | cp210x => "Cp210x"
  | ftdi => "Ftdi"
  | prolific => "Prolific"
  | unknown => "Unknown"

def isKnown (k : DeviceKind) : Bool := k ≠ unknown

end DeviceKind

/-- A serial port of this machine, with what its USB side tells. -/
structure DetectedPort where
  name : String
  device : DeviceKind := .unknown
  vid : Option UInt16 := none
  pid : Option UInt16 := none
  manufacturer : Option String := none
  product : Option String := none
  serial : Option String := none
  deriving DecidableEq, Repr

namespace DetectedPort

/-- A port known only by name. -/
def unknown (name : String) : DetectedPort := { name }

/-- A port with a USB side, classified by its numbers. -/
def usb (name : String) (vid pid : UInt16) (manufacturer product serial : Option String) :
    DetectedPort :=
  { name, device := .ofVidPid vid pid, vid := some vid, pid := some pid, manufacturer, product,
    serial }

/-- The most likely validator port: the maker's own USB device first, then any
recognised one, then the first. -/
def pick? (ports : List DetectedPort) : Option DetectedPort :=
  (ports.find? fun p => p.device = .itlUsb)
    <|> (ports.find? fun p => p.device.isKnown)
    <|> ports.head?

/-- Vendor and product number, when both are there. -/
def vidPid? (p : DetectedPort) : Option (UInt16 × UInt16) :=
  match p.vid, p.pid with
  | some vid, some pid => some (vid, pid)
  | _, _ => none

/-- One line about the port. -/
def line (p : DetectedPort) : String :=
  let device :=
    if p.device.isKnown then " [" ++ p.device.name ++ "]"
    else match p.vidPid? with
      | some (vid, pid) =>
        " [VID:" ++ Text.upperHex 4 vid.toNat ++ " PID:" ++ Text.upperHex 4 pid.toNat ++ "]"
      | none => ""
  let product := match p.product with
    | some text => " - " ++ text
    | none => ""
  p.name ++ device ++ product

/-- What the log says about a port with a USB side. -/
def trace? (p : DetectedPort) : Option String :=
  p.vidPid?.map fun (vid, pid) =>
    "Found USB port: " ++ p.name ++ " (VID: " ++ Text.upperHex 4 vid.toNat ++ ", PID: " ++
      Text.upperHex 4 pid.toNat ++ ", Device: " ++ p.device.debug ++ ")"

/-- The ports an enumeration found; a failed one found none. -/
def ofEnumeration (found : Except String (List DetectedPort)) : List DetectedPort :=
  match found with
  | .ok ports => ports
  | .error _ => []

/-- The port picked among those an enumeration found. -/
def autoDetect (ports : List DetectedPort) : Except Error DetectedPort :=
  match pick? ports with
  | some p => .ok p
  | none => .error .noPorts

end DetectedPort

end SspUpdate
