import SspUpdate.Image.File
import SspUpdate.Update

/-!
# Updating a device from a file

The whole way from an image file to the outcome, for a caller that only wants
to know the outcome.
-/

namespace SspUpdate

/-- The outcome of a result, unless it is still open. -/
def Outcome.ofHalt? : Except Halt Unit → Option Outcome
  | .ok () => some .ok
  | .error (.failed e) => some e.outcome
  | .error (.unfinished _) => none

namespace Updater

variable {σ κ : Type} [SerialHost σ] [CommandChannel σ κ]

/-- Brings the image in a file to the device at `address` on `port`. -/
def updateFile (u : Updater σ κ) (files : Files) (path port address : String) :
    Except Halt Unit × Updater σ κ :=
  match Image.load files path with
  | .error e => (.error (.failed e), u)
  | .ok image => u.update image port address

end Updater

/-- Updates a device with the default timing, on a line of its own. -/
def updateDevice {σ : Type} [SerialHost σ] (line : Line σ) (files : Files)
    (path port address : String) : Option Outcome × Line σ :=
  let (result, u) :=
    (⟨line, Channel.new, {}⟩ : Updater σ Channel).updateFile files path port address
  (Outcome.ofHalt? result, u.line)

end SspUpdate
