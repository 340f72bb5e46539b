import SspUpdate.Line

/-!
# The bare transfer

While firmware is streamed there are no packets: blocks of image bytes go out
as they are, and the device answers with single bytes, an acknowledgement or
the checksum of what it received.
-/

namespace SspUpdate.Transfer

variable {σ : Type} [SerialHost σ]

/-- The byte that acknowledges a handshake step. -/
def ack : UInt8 := 0x32

/-- The next byte, which has to come within `ms` milliseconds. -/
def readByte (ms : Nat) : LineM σ UInt8 := do
  match ← Line.receive ms with
  | some b => pure b
  | none => fail (.noByteWithin ms)

/-- Takes one byte and tells whether it is the expected one. -/
def waitFor (expected : UInt8) (ms : Nat) : LineM σ Bool := do
  let b ← readByte ms
  Line.note (.byteAwaited expected b)
  pure (b == expected)

def verifyChecksum (expected : UInt8) (ms : Nat) : LineM σ Unit := do
  let actual ← readByte ms
  if actual = expected then pure () else fail (.badChecksum expected actual)

/-- Sends the bytes as they are and gives their checksum. -/
def sendBlock (data : Bytes) : LineM σ UInt8 := do
  Line.send data
  pure data.checksum

def sendByte (b : UInt8) : LineM σ Unit := Line.send [b]

def expectAck (step : Step) (ms : Nat) : LineM σ Unit := do
  let received ← readByte ms
  if received = ack then Line.note (.acknowledged step) else fail (.notAcknowledged step received)

end SspUpdate.Transfer
