import SspUpdate.Image
import SspUpdate.Transfer
import SspUpdate.Update.Timing
import SspUpdate.Command

/-!
# The RAM stage

The device is asked to take a RAM file and answers with the block size it
wants later. It is told the image header by an ordinary command, and then
receives the RAM stage as bare bytes at the transfer rate. One checksum over
the whole stage comes back at the end.
-/

namespace SspUpdate

/-- What the RAM stage hands to the main stage. -/
structure RamStage where
  /-- Length of the RAM stage, as the header declares it. -/
  size : UInt64
  /-- Length of a main-stage block, as the device wants it. -/
  blockSize : UInt64
  deriving DecidableEq, Repr

namespace RamStage

variable {σ κ : Type} [SerialHost σ] [CommandChannel σ κ]

/-- The command that asks a device to take a RAM file. -/
def programCommand : Bytes := [0x0B, 0x03]

/-- Bytes per write of the RAM stage. -/
def pieceSize : Nat := 128

/-- The block size in a response: the word after the status, if not zero. -/
def blockSize? (response : Bytes) : Option Nat :=
  match response with
  | _ :: low :: high :: _ =>
    let n := Bytes.littleEndian [low, high]
    if 0 < n then some n else none
  | _ => none

/-- Asks for the RAM file and gives the block size of the main stage. -/
def requestProgram : LinkM σ κ Nat := do
  Link.setData programCommand
  match ← attempt CommandChannel.send with
  | .error e => fail (.programNotSent e)
  | .ok status =>
    if status.isOk then do
      let response := (← get).command.response
      match blockSize? response with
      | some n => pure n
      | none => fail (.noBlockSize response)
    else fail (.programRejected status)

/-- Tells the device the image header. -/
def sendHeader (image : Image) : LinkM σ κ Unit := do
  Link.setData image.headerBytes
  match ← attempt CommandChannel.send with
  | .error e => fail (.headerNotSent e)
  | .ok status => if status.isOk then pure () else fail (.headerRejected status)

/-- Sends the pieces of a stage one after the other and gives the checksum of
all; `sent` of `total` bytes went before. -/
def sendPieces (stage : Stage) (total : Nat) : List Bytes → Nat → UInt8 → LineM σ UInt8
  | [], _, checksum => pure checksum
  | piece :: rest, sent, checksum => do
    let more ← Transfer.sendBlock piece
    let sent := sent + piece.length
    Line.report ⟨stage, sent, total⟩
    sendPieces stage total rest sent (checksum ^^^ more)

/-- Sends the RAM stage and has its checksum confirmed. -/
def stream (timing : Timing) (image : Image) (baud : UInt32) : LineM σ Unit := do
  let size := image.header.ramSize.toNat
  Line.note (.sendingRam size baud)
  let checksum ← sendPieces .ram size (image.ramStage.chunks pieceSize) 0 0
  Transfer.verifyChecksum checksum timing.checksumTimeout
  Line.note (.ramVerified checksum)

/-- Runs the RAM stage on a line whose device has been synchronised. -/
def upload (timing : Timing) (image : Image) (baud : UInt32) : LinkM σ κ RamStage := do
  let blockSize ← requestProgram
  Link.note (.blockSize blockSize)
  sendHeader image
  Link.onLine (Line.setBaud baud)
  Link.onLine (stream timing image baud)
  pure ⟨image.header.ramSize.toUInt64, blockSize.toUInt64⟩

end RamStage

end SspUpdate
