import SspUpdate.Bytes

/-!
# The packet checksum

A cyclic redundancy check of sixteen bits: generator `0x8005`, start value
`0xFFFF`, highest bit first, nothing reflected and no final exclusive or.
The register is advanced a byte at a time through a table of 256 words, each
of which is eight bit steps; `bitwise` is the same register advanced a bit at
a time.
-/

namespace SspUpdate

namespace Crc

def generator : UInt16 := 0x8005

def seed : UInt16 := 0xFFFF

/-- One bit step: shift left, and subtract the generator if a bit falls out. -/
def shiftBit (r : UInt16) : UInt16 :=
  if r &&& 0x8000 ≠ 0 then (r <<< 1) ^^^ generator else r <<< 1

/-- Eight bit steps. -/
def shiftByte (r : UInt16) : UInt16 :=
  Nat.repeat shiftBit 8 r

def table : Vector UInt16 256 :=
  Vector.ofFn fun i => shiftByte (i.val.toUInt16 <<< 8)

/-- The table's word for a byte. -/
def entry (b : UInt8) : UInt16 := table.get ⟨b.toNat, b.toNat_lt⟩

/-- The register after one more byte. -/
def advance (r : UInt16) (b : UInt8) : UInt16 :=
  (r <<< 8) ^^^ entry ((r >>> 8).toUInt8 ^^^ b)

end Crc

/-- The checksum of a byte string. -/
def crc (data : Bytes) : UInt16 := data.foldl Crc.advance Crc.seed

/-- The register after one more byte, taken bit by bit. -/
def Crc.advanceBitwise (r : UInt16) (b : UInt8) : UInt16 :=
  Crc.shiftByte (r ^^^ (b.toUInt16 <<< 8))

/-- The checksum computed bit by bit. -/
def Crc.bitwise (data : Bytes) : UInt16 := data.foldl Crc.advanceBitwise Crc.seed

end SspUpdate
