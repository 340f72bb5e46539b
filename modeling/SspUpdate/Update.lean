import SspUpdate.Address
import SspUpdate.Channel
import SspUpdate.Update.MainStage
import SspUpdate.Update.Resync

/-!
# The update

A firmware update on one serial port: synchronise at the command rate, pick
the transfer rate from the image, send the RAM stage, reconnect and send the
main stage, and reconnect until the device is back. Whatever the result, the
port is closed at the end.
-/

namespace SspUpdate

namespace Update

variable {σ κ : Type} [SerialHost σ] [CommandChannel σ κ]

/-- The first exchange with the device. -/
def findValidator : RunM σ κ Unit := do
  match ← attempt (Run.onLink CommandChannel.sync) with
  | .error e => fail (.syncFailed e)
  | .ok status =>
    if status.isOk then Run.note .validatorFound else fail (.syncAnswered status)

/-- The five steps, on a session whose port is not open yet. -/
def steps (timing : Timing) (image : Image) : RunM σ κ Unit := do
  Run.onSession (Session.openAt commandBaud)
  findValidator
  let baud := image.header.transferBaud
  Run.note (.transferBaud image.header.variant.toByte baud)
  let ram ← Run.onLink (RamStage.upload timing image baud)
  Run.note .ramAccepted
  Run.onSession (MainStage.upload timing image ram baud)
  Run.note .mainAccepted
  Resync.run timing
  Run.note .complete

/-- Notes whom the update is for, then runs the steps. -/
def body (timing : Timing) (image : Image) (address : AddressReading) : RunM σ κ Unit := do
  if let some text := address.refused then Run.note (.addressRefused text)
  Run.note (.updating address.value (← get).session.port)
  steps timing image

/-- The command an update starts with. -/
def command (timing : Timing) (address : AddressReading) : Command :=
  { Command.new address.value with
    timeout := timing.commandTimeout
    retries := timing.commandRetries }

end Update

/-- A line, the channel used on it, and the timing: all that outlives one update. -/
structure Updater (σ κ : Type) where
  line : Line σ
  channel : κ
  timing : Timing

namespace Updater

variable {σ κ : Type} [SerialHost σ] [CommandChannel σ κ]

/-- Brings `image` to the device at `address` on `port`. -/
def update (u : Updater σ κ) (image : Image) (port address : String) :
    Except Halt Unit × Updater σ κ :=
  let reading := AddressReading.ofString address
  let start : Run σ κ :=
    ⟨Session.closed u.line port, u.channel, Update.command u.timing reading⟩
  let finish (r : Run σ κ) : Updater σ κ :=
    { u with line := r.session.finish.line, channel := r.channel }
  match Update.body u.timing image reading start with
  | .ok () r => (.ok (), finish r)
  | .error (.unfinished .patience) r =>
    (.error (.unfinished .patience), { u with line := r.session.line, channel := r.channel })
  | .error h r => (.error h, finish r)

end Updater

end SspUpdate
