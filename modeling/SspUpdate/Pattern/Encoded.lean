import SspUpdate.Pattern.CharSet

/-!
# Encoded sets

The characters of a set as bytes. A set is a list of encoded ranges in rising
order, and each of them a list of ranges of bytes, such that its characters are
those with one byte of each range.
-/

namespace SspUpdate.Pattern

/-- The first byte and the last. -/
abbrev ByteRange := UInt8 × UInt8

abbrev EncodedRange := List ByteRange

/-- The numbers of characters that are encoded in as many bytes. -/
def bands : List (Nat × (Nat × Nat)) :=
  [(1, (0, 0x7F)), (2, (0x80, 0x7FF)), (3, (0x800, 0xFFFF)), (4, (0x10000, 0x10FFFF))]

/-- Parts a range where its ends do not fill the blocks that they lie in, for
blocks of rising sizes. -/
def blocks (low high : Nat) : List Nat → List (Nat × Nat)
  | [] => [(low, high)]
  | size :: sizes =>
    if low / size = high / size then [(low, high)]
    else
      let start := (low + size - 1) / size * size
      let stop := (high + 1) / size * size
      (if low < start then [(low, start - 1)] else []) ++
        (if start < stop then blocks start (stop - 1) sizes else []) ++
        if stop ≤ high then [(stop, high)] else []

/-- How many characters share all bytes but the last, all but the last two, and
so on, of the bytes of one. -/
def blockSizes (bytes : Nat) : List Nat := (List.range (bytes - 1)).map fun n => Nat.pow 64 (n + 1)

def encode (n : Nat) : List UInt8 := String.utf8EncodeChar (Char.ofNat n)

/-- The encoded ranges of the characters from one number to another. -/
def encodeRange (low high : Nat) : List EncodedRange :=
  bands.flatMap fun (bytes, least, most) =>
    let (low, high) := (max low least, min high most)
    if low ≤ high then
      (blocks low high (blockSizes bytes)).map fun (a, b) => (encode a).zip (encode b)
    else []

def CharSet.encoded (s : CharSet) : List EncodedRange :=
  s.ranges.flatMap fun (low, high) => encodeRange low high

/-- The ranges of the first byte, each with what follows it; neighbours that
begin alike are put together. -/
def byFirst : List EncodedRange → List (ByteRange × List EncodedRange)
  | [] => []
  | [] :: rs => byFirst rs
  | (first :: rest) :: rs =>
    match byFirst rs with
    | [] => [(first, [rest])]
    | (next, rests) :: more =>
      if next = first then (first, rest :: rests) :: more
      else (first, [rest]) :: (next, rests) :: more

/-- What may follow some of the first bytes, the whole and the ends apart; ranges
have at most `bytes` bytes. -/
def continuations (bytes : Nat) (rs : List EncodedRange) : List (List EncodedRange) :=
  match bytes with
  | 0 => []
  | bytes + 1 =>
    rs :: (byFirst rs).flatMap fun (_, rests) =>
      if rests.all List.isEmpty then [] else continuations bytes rests

/-- The beginnings of ranges. -/
def beginnings (rs : List EncodedRange) : List EncodedRange :=
  rs.flatMap fun r => (List.range r.length).map fun n => r.take (n + 1)

end SspUpdate.Pattern
