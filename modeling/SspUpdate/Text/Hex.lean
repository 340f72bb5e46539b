import SspUpdate.Bytes

/-!
# Hexadecimal text

Messages show bytes and words in base sixteen: `0x0c` with a fixed number of
lower-case digits, `VID:191C` with upper-case ones, and byte strings as a
bracketed list.
-/

namespace SspUpdate.Text

/-- The digits of `n` in base sixteen, filled with zeros to `width`. -/
def lowerHexDigits (width n : Nat) : List Char :=
  let digits := Nat.toDigits 16 n
  List.replicate (width - digits.length) '0' ++ digits

def lowerHex (width n : Nat) : String := String.ofList (lowerHexDigits width n)

def upperHex (width n : Nat) : String := String.ofList ((lowerHexDigits width n).map Char.toUpper)

/-- A byte as `0x` and two digits. -/
def hexByte (b : UInt8) : String := "0x" ++ lowerHex 2 b.toNat

/-- A word as `0x` and four digits. -/
def hexWord (w : UInt16) : String := "0x" ++ lowerHex 4 w.toNat

/-- A byte string as a list of two-digit bytes in brackets. -/
def hexList (data : Bytes) : String :=
  "[" ++ ", ".intercalate (data.map fun b => upperHex 2 b.toNat) ++ "]"

/-- A byte string as adjoining lower-case digits. -/
def hexString (data : Bytes) : String :=
  String.ofList (data.flatMap fun b => lowerHexDigits 2 b.toNat)

end SspUpdate.Text
