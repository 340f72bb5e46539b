/-!
# Byte strings

Data on the line and in an image is a list of bytes. This module holds the
few readings of such a list that the other modules share: its exclusive-or
checksum, its value as a big-endian or little-endian number, and its cut into
chunks of a fixed size.
-/

namespace SspUpdate

abbrev Bytes := List UInt8

namespace Bytes

/-- The exclusive or of all bytes, zero for the empty string. -/
def checksum (data : Bytes) : UInt8 := data.foldl (· ^^^ ·) 0

/-- The number whose base-256 digits are the bytes, highest first. -/
def bigEndian (data : Bytes) : Nat := data.foldl (fun n b => 256 * n + b.toNat) 0

/-- The number whose base-256 digits are the bytes, lowest first. -/
def littleEndian : Bytes → Nat
  | [] => 0
  | b :: rest => b.toNat + 256 * littleEndian rest

/-- Consecutive pieces of `size` bytes; the last one may be shorter. -/
def chunks (size : Nat) (data : Bytes) : List Bytes :=
  if _h : 0 < size ∧ data ≠ [] then
    data.take size :: chunks size (data.drop size)
  else []
termination_by data.length
decreasing_by
  have : 0 < data.length := List.length_pos_iff.2 _h.2
  simp only [List.length_drop]
  omega

/-- The `count` bytes from `offset` on, if there are that many. -/
def slice? (offset count : Nat) (data : Bytes) : Option Bytes :=
  if offset + count ≤ data.length then some ((data.drop offset).take count) else none

end Bytes

end SspUpdate
