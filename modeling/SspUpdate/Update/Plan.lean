import SspUpdate.Update.RamStage

/-!
# The layout of the main stage

The main stage is cut into full blocks of the size the device asked for, and
what is left after them goes out in short sections.
-/

namespace SspUpdate

structure Plan where
  /-- Offset of the first main-stage byte in the image. -/
  start : Nat
  size : Nat
  blockSize : Nat
  /-- Number of full blocks. -/
  blocks : Nat
  /-- Bytes after the full blocks. -/
  remainder : Nat
  deriving DecidableEq, Repr

namespace Plan

/-- Bytes per section of the remainder. -/
def sectionSize : Nat := 128

/-- The offset behind the header and a RAM stage, if it fits a 64-bit word. -/
def startBehind (ram : RamStage) : Option Nat :=
  let start := headerSize + ram.size.toNat
  if start < UInt64.size then some start else none

/-- The layout for an image after a RAM stage. The offset of the main stage is formed before it is
compared with the image. -/
def ofRamStage (image : Image) (ram : RamStage) : Except Halt Plan :=
  if ram.blockSize = 0 then .error (.failed .blockSizeZero)
  else
    match startBehind ram with
    | none => .error (.unfinished .overflow)
    | some start =>
      if image.size < start then .error (.failed .ramOverrunsImage)
      else
        let size := image.size - start
        let blockSize := ram.blockSize.toNat
        .ok ⟨start, size, blockSize, size / blockSize, size % blockSize⟩

/-- Number of sections the remainder goes out in. -/
def sections (p : Plan) : Nat := (p.remainder + sectionSize - 1) / sectionSize

/-- The full blocks of the planned main stage. -/
def fullBlocks (p : Plan) (image : Image) : List Bytes :=
  Bytes.chunks p.blockSize ((image.bytes.drop p.start).take (p.blocks * p.blockSize))

/-- The bytes after the full blocks. -/
def tail (p : Plan) (image : Image) : Bytes :=
  (image.bytes.drop p.start).drop (p.blocks * p.blockSize)

end Plan

end SspUpdate
