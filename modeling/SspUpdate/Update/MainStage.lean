import SspUpdate.Session
import SspUpdate.Update.Plan

/-!
# The main stage

The session is reopened and switched to the transfer rate. The device
acknowledges the handshake byte and the header. Then each full block goes out
followed by its checksum, which the device sends back. The remainder goes out
in sections without a checksum, and the device still sends one back.
-/

namespace SspUpdate.MainStage

variable {σ : Type} [SerialHost σ]

/-- The two acknowledged steps before any firmware is sent. -/
def handshake (timing : Timing) (image : Image) : LineM σ Unit := do
  Transfer.sendByte image.handshakeByte
  Transfer.expectAck .handshake timing.ackTimeout
  let _ ← Transfer.sendBlock image.headerBytes
  Transfer.expectAck .header timing.ackTimeout

/-- Sends full blocks, each with its checksum; `index` blocks with `sent`
bytes went before. -/
def sendBlocks (timing : Timing) (plan : Plan) : List Bytes → (index sent : Nat) → LineM σ Unit
  | [], _, _ => pure ()
  | block :: rest, index, sent => do
    let checksum ← Transfer.sendBlock block
    Transfer.sendByte checksum
    Transfer.verifyChecksum checksum timing.checksumTimeout
    let sent := sent + block.length
    Line.note (.blockVerified (index + 1) plan.blocks)
    Line.report ⟨.main, sent, plan.size⟩
    sendBlocks timing plan rest (index + 1) sent

/-- Sends the remainder in sections and has one checksum over it confirmed. -/
def sendRemainder (timing : Timing) (plan : Plan) (tail : Bytes) : LineM σ Unit := do
  let checksum ← RamStage.sendPieces .main plan.size (tail.chunks Plan.sectionSize)
    (plan.blocks * plan.blockSize) 0
  Transfer.verifyChecksum checksum timing.checksumTimeout
  Line.note (.remainderVerified plan.sections)

/-- Everything that is sent at the transfer rate. -/
def stream (timing : Timing) (image : Image) (plan : Plan) (baud : UInt32) : LineM σ Unit := do
  handshake timing image
  Line.note (.sendingMain plan.size plan.blocks plan.blockSize plan.remainder baud)
  sendBlocks timing plan (plan.fullBlocks image) 0 0
  if 0 < plan.remainder then sendRemainder timing plan (plan.tail image) else pure ()

/-- Runs the main stage after the RAM stage `ram`. -/
def upload (timing : Timing) (image : Image) (ram : RamStage) (baud : UInt32) :
    SessionM σ Unit := do
  let plan ← ofResult (Plan.ofRamStage image ram)
  Session.reopen commandBaud timing.reopenDelay
  Session.setBaud baud
  Session.withPort (stream timing image plan baud)

end SspUpdate.MainStage
