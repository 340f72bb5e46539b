import SspUpdate.Packet

/-!
# The packet decoder

A decoder takes the bytes of the line one at a time and gives a packet back at
the packet's last byte. Outside of a packet it waits for a start byte. Inside
one it collects the body with the stuffing removed; a start byte that is not
followed by a second one begins the packet anew.
-/

namespace SspUpdate

inductive Decoder where
  | idle
  | body (received : Bytes) (escaped : Bool)
  deriving DecidableEq, Repr

namespace Decoder

instance : Inhabited Decoder := ⟨idle⟩

/-- The packet in a finished body, if its checksum is right. -/
def finish (body : Bytes) (size : Nat) : Except Error (Option Packet) :=
  let content := body.take (size - 2)
  let received := (Bytes.littleEndian (body.drop (size - 2))).toUInt16
  let expected := crc content
  if received = expected then .ok (some ⟨content.headD 0, content.drop 2⟩)
  else .error (.crcMismatch expected received)

/-- The length of a whole body, known as soon as its second byte is. -/
def expectedSize? (body : Bytes) : Option Nat := body[1]?.map fun n => n.toNat + 4

/-- Adds one byte to the body and closes the packet if that was the last one. -/
def accept (received : Bytes) (b : UInt8) : Except Error (Option Packet) × Decoder :=
  let body := received ++ [b]
  match expectedSize? body with
  | some size =>
    if body.length < size then (.ok none, .body body false)
    else (finish body size, .idle)
  | none => (.ok none, .body body false)

def push (d : Decoder) (b : UInt8) : Except Error (Option Packet) × Decoder :=
  match d with
  | idle => (.ok none, if b = startByte then .body [] false else .idle)
  | body received true => if b = startByte then accept received b else accept [] b
  | body received false =>
    if b = startByte then (.ok none, .body received true) else accept received b

/-- Whether the byte begins the packet anew after a start byte in the body. -/
def restarts (d : Decoder) (b : UInt8) : Bool :=
  match d with
  | body _ true => b ≠ startByte
  | _ => false

end Decoder

end SspUpdate
