import SspUpdate.Crc
import SspUpdate.Error

/-!
# Packets

A packet on the line is the start byte `0x7F` and a stuffed body. The body is
a byte holding sequence flag and address, the data length, the data, and the
checksum of all that, low byte first. Stuffing sends every `0x7F` of the body
twice, so that a single one can only be a start byte.
-/

namespace SspUpdate

/-- The byte a packet starts with. -/
def startByte : UInt8 := 0x7F

/-- The bit of the first body byte that alternates between exchanges. -/
def sequenceBit : UInt8 := 0x80

/-- The bits of the first body byte that name the device. -/
def addressMask : UInt8 := 0x7F

structure Packet where
  seqAddr : UInt8
  data : Bytes
  deriving DecidableEq, Repr

namespace Packet

def address (p : Packet) : UInt8 := p.seqAddr &&& addressMask

def sequence (p : Packet) : Bool := p.seqAddr &&& sequenceBit ≠ 0

/-- What the checksum covers: the first byte, the length and the data. -/
def content (p : Packet) : Bytes := p.seqAddr :: p.data.length.toUInt8 :: p.data

/-- A checksum as it goes out, low byte first. -/
def checkBytes (w : UInt16) : Bytes := [w.toUInt8, (w >>> 8).toUInt8]

def body (p : Packet) : Bytes := p.content ++ checkBytes (crc p.content)

/-- Every start byte is doubled. -/
def stuff (body : Bytes) : Bytes :=
  body.flatMap fun b => if b = startByte then [b, b] else [b]

/-- The bytes of a packet on the line; the length field holds at most 255. -/
def encode (p : Packet) : Except Error Bytes :=
  if p.data.length ≤ 255 then .ok (startByte :: stuff p.body)
  else .error (.dataTooLong p.data.length)

end Packet

end SspUpdate
