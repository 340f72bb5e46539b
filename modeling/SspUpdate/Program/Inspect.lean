import SspUpdate.Image.File
import SspUpdate.Station
import SspUpdate.Text.Json

/-!
# Looking at images and ports

The subcommands that only show something: what is in an image, and which
serial ports there are. Both write for a reader or as JSON.
-/

namespace SspUpdate.Program

variable {δ : Type}

/-- Loads an image for a subcommand. -/
def loadImage (firmware : String) : StationM δ Image := do
  let loaded := Image.load (← get).files firmware
  Station.logAll (Image.loadLog firmware loaded)
  Station.within ("Failed to load firmware " ++ firmware) (Station.ofExcept Failure.library loaded)

def hexUpper (b : UInt8) : String := "0x" ++ Text.upperHex 2 b.toNat

/-- What is in an image; the fields are in the order of their names. -/
def summary (firmware : String) (image : Image) : Text.Json :=
  let header := image.header
  .object [
    ("file", .string firmware),
    ("handshake_byte", .string (hexUpper image.handshakeByte)),
    ("main_stage_offset", .number image.mainOffset),
    ("main_stage_size", .number image.mainStage.length),
    ("override_baud", .number header.overrideBaud.toNat),
    ("ram_stage_size", .number header.ramSize.toNat),
    ("size", .number image.size),
    ("transfer_baud", .number header.transferBaud.toNat),
    ("variant", .string header.variant.name),
    ("variant_tag", .string (hexUpper header.variant.toByte))]

/-- Shows what is in an image. -/
def info (firmware : String) (json : Bool) : StationM δ Unit := do
  let image ← loadImage firmware
  if json then Station.print (summary firmware image).render
  else
    let header := image.header
    Station.print (← Station.paint { attributes := [.bold, .underlined] } "Firmware image")
    Station.print ("  File:            " ++ firmware)
    Station.print s!"  Size:            {image.size} bytes"
    Station.print ("  Variant:         " ++ header.variant.name ++ " (tag " ++
      hexUpper header.variant.toByte ++ ")")
    Station.print s!"  RAM stage:       {header.ramSize} bytes"
    Station.print
      s!"  Main stage:      {image.mainStage.length} bytes at offset {image.mainOffset}"
    Station.print ("  Handshake byte:  " ++ hexUpper image.handshakeByte)
    let baud := s!"  Transfer baud:   {header.transferBaud}"
    if header.variant.usesFixedBaud || header.overrideBaud = 0 then Station.print baud
    else Station.print (baud ++ " " ++ (← Station.paint { attributes := [.dim] } "(from header)"))

def portJson (p : DetectedPort) : Text.Json :=
  let text := Text.Json.optional Text.Json.string
  let word := Text.Json.optional fun n : UInt16 => .number n.toNat
  .object [
    ("device", .string p.device.tag),
    ("manufacturer", text p.manufacturer),
    ("name", .string p.name),
    ("pid", word p.pid),
    ("product", text p.product),
    ("serial", text p.serial),
    ("vid", word p.vid)]

/-- Says which port a validator is most likely on. -/
def announceDetected : StationM δ Unit := do
  match DetectedPort.autoDetect (← Station.detect) with
  | .error _ => return
  | .ok port =>
    Station.log .info Target.device
      ("Auto-detected " ++ port.device.name ++ " port: " ++ port.name)
    let arrow ← Station.paint (.bold .green) "→"
    Station.say ("\n" ++ arrow ++ " Auto-detected: " ++
      (← Station.paint (.bold .cyan) port.name))

/-- Shows the serial ports of this machine. -/
def listPorts (json : Bool) : StationM δ Unit := do
  let ports ← Station.detect
  if json then
    let data : Text.Json := .object [("ports", .array (ports.map portJson))]
    Station.print (Text.Json.object [("data", data), ("ok", .boolean true)]).render
  else
    Station.say (← Station.paint { attributes := [.bold, .underlined] } "Available serial ports")
    if ports.isEmpty then
      Station.say ("  " ++ (← Station.paint { attributes := [.dim] } "No serial ports found"))
    else
      let bullet ← Station.paint (.plain .green) "•"
      ports.forM fun p => Station.say ("  " ++ bullet ++ " " ++ p.line)
      announceDetected

end SspUpdate.Program
