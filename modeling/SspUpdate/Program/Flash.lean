import SspUpdate.CommandLine
import SspUpdate.PortChoice
import SspUpdate.Program.Inspect
import SspUpdate.Update.Device

/-!
# Updating from the command line

The subcommand that brings an image to a device: it loads the image, settles
on a port and an address, and runs the update with the configured timing.
-/

namespace SspUpdate.Program

def defaultAddress : String := "0"

/-- The address given to the program comes before the configured one. -/
def addressOf (options : Options) (config : Config) : String :=
  (options.address <|> config.port.connection.address).getD defaultAddress

/-- The configured timing, with the limits given to the program. -/
def timingOf (config : Config) (resyncTimeout : Option Nat) (noResyncLimit : Bool) : Timing :=
  let timing := config.update.timing
  if noResyncLimit then { timing with resyncLimit := none }
  else match resyncTimeout with
    | some seconds => { timing with resyncLimit := UpdateSettings.resyncLimit seconds }
    | none => timing

/-- What is being sent in a stage of this name. -/
def stageLabel (stage : String) : String :=
  if stage = Stage.ram.name then "RAM stage"
  else if stage = Stage.main.name then "main firmware"
  else "transfer"

def requestOf (options : Options) : PortRequest where
  port := options.port
  listAll := options.listAllPorts
  nonInteractive := options.nonInteractive
  confirmPort := options.confirmPort

variable {δ : Type} [Serial.Driver δ]

/-- Says something unless the program is to be quiet. -/
def announce (options : Options) (style : Text.Style) (sign text : String) :
    StationM δ Unit := do
  if !options.quiet then Station.say ((← Station.paint style sign) ++ " " ++ text)

/-- Runs an update on the station's serial port; what happens there is logged. -/
def runUpdate (timing : Timing) (image : Image) (port address : String) :
    StationM δ (Except Halt Unit) := fun s =>
  let line : Line (Serial.Attached δ) := ⟨s.serial, [], s.patience⟩
  let (result, u) := (⟨line, Channel.new, timing⟩ : Updater _ Channel).update image port address
  let said := (u.line.history.filterMap Entry.logLine?).map Output.log
  .ok result { s with
    serial := u.line.host, patience := u.line.patience, output := said.reverse ++ s.output }

/-- Brings an image to a device. -/
def update (options : Options) (config : Config) (firmware : String)
    (resyncTimeout : Option Nat) (noResyncLimit : Bool) : StationM δ Unit := do
  announce options (.plain .cyan) "📦" ("Loading firmware " ++ firmware)
  let image ← loadImage firmware
  let header := image.header
  announce options (.plain .blue) "ℹ" (header.variant.name ++
    s!" image: RAM stage {header.ramSize} bytes, main stage {image.mainStage.length} bytes")
  let (port, config) ← PortChoice.portName config (requestOf options)
  let address := addressOf options config
  Station.ensureNotInterrupted
  announce options (.plain .cyan) "🔌" ("Using port " ++ port ++ " (address " ++ address ++
    s!", transfer baud {header.transferBaud})")
  announce options (.plain .yellow) "⏳" "Waiting for validator..."
  match ← runUpdate (timingOf config resyncTimeout noResyncLimit) image port address with
  | .error (.unfinished cut) => Station.raise (.ofHalt (.unfinished cut))
  | .error (.failed e) =>
    Station.ensureNotInterrupted
    Station.raise ((Failure.library e).within ("Update failed [" ++ e.outcome.text ++ "]"))
  | .ok () =>
    if !options.quiet then
      Station.say ("\n" ++ (← Station.paint (.bold .green) "🎉") ++
        " Firmware updated, validator is back online")

end SspUpdate.Program
