import SspUpdate.Error

/-!
# Firmware images

An image is a header of 128 bytes, the RAM stage whose size the header
declares, and the main stage, which is the rest and never empty.

| bytes | header field |
|---|---|
| 0 to 2 | the tag `ITL` |
| 5 | device variant |
| 6 | main-stage handshake byte |
| 7 to 10 | RAM stage size, big-endian |
| 68 to 71 | transfer baud rate, big-endian, 0 for the default |

`Image.ofBytes` accepts exactly the byte strings with that layout, and an
`Image` carries the proof, so the parts of an image need no further checks.
-/

namespace SspUpdate

def headerSize : Nat := 128

/-- The letters `ITL`. -/
def imageTag : Bytes := [0x49, 0x54, 0x4C]

def defaultTransferBaud : UInt32 := 38400

inductive Variant where
  | nv9
  | nv10
  | other (tag : UInt8)
  deriving DecidableEq, Repr

namespace Variant

def ofByte (b : UInt8) : Variant :=
  if b = 0x09 then nv9 else if b = 0x0A then nv10 else other b

def toByte : Variant → UInt8
  | nv9 => 0x09
  | nv10 => 0x0A
  | other b => b

/-- Whether the device always transfers at the default rate. -/
def usesFixedBaud : Variant → Bool
  | nv9 | nv10 => true
  | other _ => false

def name : Variant → String
  | nv9 => "NV9"
  | nv10 => "NV10"
  | other b => Text.hexByte b

/-- The variant as a tag with its argument. -/
def debug : Variant → String
  | nv9 => "Nv9"
  | nv10 => "Nv10"
  | other b => s!"Other({b})"

end Variant

/-- The fields of an image header that the update needs. -/
structure Header where
  variant : Variant
  ramSize : UInt32
  overrideBaud : UInt32
  deriving DecidableEq, Repr

namespace Header

def ramSizeOffset : Nat := 7

/-- The declared RAM stage size, if the bytes reach that far. -/
def ramSize? (data : Bytes) : Option UInt32 :=
  (data.slice? ramSizeOffset 4).map fun field => (Bytes.bigEndian field).toUInt32

/-- The fields of a byte string that is long enough. -/
def read (data : Bytes) : Header where
  variant := Variant.ofByte (data.getD 5 0)
  ramSize := (Bytes.bigEndian ((data.drop ramSizeOffset).take 4)).toUInt32
  overrideBaud := (Bytes.bigEndian ((data.drop 68).take 4)).toUInt32

/-- The header at the front of a byte string; its sizes are not checked. -/
def ofBytes (data : Bytes) : Except Error Header :=
  if data.length < headerSize then .error (.imageTooSmall data.length)
  else if data.take 3 ≠ imageTag then .error (.badTag (data.take 3))
  else .ok (read data)

/-- The baud rate of both transfers. -/
def transferBaud (h : Header) : UInt32 :=
  if h.variant.usesFixedBaud || h.overrideBaud = 0 then defaultTransferBaud else h.overrideBaud

def debug (h : Header) : String :=
  "ImageInfo \x7b variant: " ++ h.variant.debug ++ s!", ram_stage_size: {h.ramSize}" ++
    s!", override_baud: {h.overrideBaud}" ++ " \x7d"

end Header

/-- The layout of an image: a whole header with the tag, and a main stage. -/
def WellFormed (data : Bytes) : Prop :=
  headerSize ≤ data.length ∧ data.take 3 = imageTag ∧
    headerSize + (Header.read data).ramSize.toNat < data.length

instance (data : Bytes) : Decidable (WellFormed data) := by
  unfold WellFormed; infer_instance

structure Image where
  bytes : Bytes
  wellFormed : WellFormed bytes

namespace Image

def ofBytes (data : Bytes) : Except Error Image :=
  match Header.ofBytes data with
  | .error e => .error e
  | .ok header =>
    if h : WellFormed data then .ok ⟨data, h⟩
    else .error (.noMainStage header.ramSize.toNat data.length)

def header (i : Image) : Header := Header.read i.bytes

def size (i : Image) : Nat := i.bytes.length

def headerBytes (i : Image) : Bytes := i.bytes.take headerSize

/-- The first byte of the main-stage handshake. -/
def handshakeByte (i : Image) : UInt8 := i.bytes.getD 6 0

def mainOffset (i : Image) : Nat := headerSize + i.header.ramSize.toNat

def ramStage (i : Image) : Bytes := (i.bytes.drop headerSize).take i.header.ramSize.toNat

def mainStage (i : Image) : Bytes := i.bytes.drop i.mainOffset

/-- The `count` bytes from `offset` on, which must lie inside the image. -/
def span (i : Image) (offset count : Nat) : Except Error Bytes :=
  match i.bytes.slice? offset count with
  | some part => .ok part
  | none => .error (.spanOutOfBounds offset count i.size)

def debug (i : Image) : String :=
  "FirmwareImage \x7b info: " ++ i.header.debug ++ s!", data_len: {i.size}" ++ " \x7d"

end Image

end SspUpdate
