import Mathlib.Algebra.Group.Nat.Defs
import SspUpdate.Proofs.Exchange
import SspUpdate.Proofs.Layout
import SspUpdate.Update

/-!
# The bounds of an image

Which byte strings are images, and that nothing done with an image reaches
beyond its end. The streams of an update cut their parts out of the image
without a check. Here every cut is also written with the check, on 64-bit
words whose sum may overflow; an update with all the checks is the update.
-/

namespace SspUpdate

namespace Bytes

theorem foldl_bigEndian_lt (data : Bytes) (n : Nat) :
    data.foldl (fun n b => 256 * n + b.toNat) n < 256 ^ data.length * (n + 1) := by
  induction data generalizing n with
  | nil => simp
  | cons b data ih =>
    have hb : 256 * n + b.toNat + 1 ≤ 256 * (n + 1) := by
      have := b.toNat_lt
      omega
    calc (b :: data).foldl (fun n b => 256 * n + b.toNat) n
        < 256 ^ data.length * (256 * n + b.toNat + 1) := ih _
      _ ≤ 256 ^ data.length * (256 * (n + 1)) := Nat.mul_le_mul_left _ hb
      _ = 256 ^ (b :: data).length * (n + 1) := by
        rw [List.length_cons, Nat.pow_succ, Nat.mul_assoc]

theorem bigEndian_lt (data : Bytes) : data.bigEndian < 256 ^ data.length := by
  have h := foldl_bigEndian_lt data 0
  rwa [Nat.zero_add, Nat.mul_one] at h

/-- The bytes from `start` to before `stop`, if they lie inside the data. -/
def between? (start stop : Nat) (data : Bytes) : Option Bytes :=
  if start ≤ stop ∧ stop ≤ data.length then some ((data.drop start).take (stop - start)) else none

end Bytes

/-- The sum of two words, unless it overflows. -/
def checkedAdd (a b : UInt64) : Option UInt64 :=
  if a.toNat + b.toNat < 2 ^ 64 then some (a + b) else none

/-- The size of the RAM stage that a byte string declares. -/
def Header.declared (data : Bytes) : Nat := Bytes.bigEndian ((data.drop 7).take 4)

namespace Image

/-- The bytes of the words from `offset` on, which must lie inside the image. -/
def spanWords (i : Image) (offset count : UInt64) : Except Error Bytes :=
  match (checkedAdd offset count).bind fun stop => i.bytes.between? offset.toNat stop.toNat with
  | some part => .ok part
  | none => .error (.spanOutOfBounds offset.toNat count.toNat i.size)

section Accepting

variable {data : Bytes} {i : Image}

theorem toNat_ramSize (data : Bytes) : (Header.read data).ramSize.toNat = Header.declared data := by
  have hlt : Header.declared data < 2 ^ 32 := by
    have h := Bytes.bigEndian_lt ((data.drop 7).take 4)
    have hlen : ((data.drop 7).take 4).length ≤ 4 := List.length_take_le ..
    exact Nat.lt_of_lt_of_le h (Nat.pow_le_pow_right (by decide) hlen)
  exact UInt32.toNat_ofNat_of_lt' hlt

theorem ofBytes_eq_ok : ofBytes data = .ok i ↔ i.bytes = data := by
  obtain ⟨bytes, hwell⟩ := i
  constructor
  · intro h
    unfold ofBytes at h
    split at h
    · cases h
    · split at h
      · cases h
        rfl
      · cases h
  · rintro rfl
    have hheader : Header.ofBytes bytes = .ok (Header.read bytes) := by
      rw [Header.ofBytes, if_neg (Nat.not_lt.mpr hwell.1), if_neg (not_not_intro hwell.2.1)]
    rw [ofBytes, hheader]
    exact dif_pos hwell

/-- The byte strings that are accepted. -/
theorem accepts_iff : (∃ i, ofBytes data = .ok i) ↔
    headerSize ≤ data.length ∧ data.take 3 = imageTag ∧
      headerSize + Header.declared data < data.length := by
  rw [← toNat_ramSize]
  constructor
  · rintro ⟨i, hi⟩
    exact ofBytes_eq_ok.mp hi ▸ i.wellFormed
  · intro h
    exact ⟨⟨data, h⟩, ofBytes_eq_ok.mpr rfl⟩

theorem kind_of_refused {e : Error} (h : ofBytes data = .error e) : e.kind = .invalidFileType := by
  unfold ofBytes Header.ofBytes at h
  split at h
  · next hheader =>
    split at hheader
    · cases hheader
      cases h
      rfl
    · split at hheader
      · cases hheader
        cases h
        rfl
      · cases hheader
  · split at h
    · cases h
    · cases h
      rfl

end Accepting

section Spans

variable {i : Image}

/-- A span is there exactly when it ends inside the image. -/
theorem span_eq_ok {offset count : Nat} {part : Bytes} : i.span offset count = .ok part ↔
    offset + count ≤ i.size ∧ part = (i.bytes.drop offset).take count := by
  unfold span Bytes.slice?
  by_cases hin : offset + count ≤ i.bytes.length
  · have hsize : offset + count ≤ i.size := hin
    simp [hin, hsize, eq_comm]
  · have hsize : ¬ offset + count ≤ i.size := hin
    simp [hin, hsize]

/-- The check with words, whose sum may overflow, is the one with their exact sum. -/
theorem spanWords_eq_span (hsize : i.size < 2 ^ 64) (offset count : UInt64) :
    i.spanWords offset count = i.span offset.toNat count.toNat := by
  have hslice : ((checkedAdd offset count).bind fun stop =>
      i.bytes.between? offset.toNat stop.toNat) = i.bytes.slice? offset.toNat count.toNat := by
    unfold checkedAdd Bytes.slice?
    by_cases hsum : offset.toNat + count.toNat < 2 ^ 64
    · have hstop : (offset + count).toNat = offset.toNat + count.toNat := by
        rw [UInt64.toNat_add, Nat.mod_eq_of_lt hsum]
      rw [if_pos hsum, Option.bind_some, Bytes.between?, hstop, Nat.add_sub_cancel_left]
      simp
    · have hout : ¬ offset.toNat + count.toNat ≤ i.bytes.length :=
        fun h => hsum (Nat.lt_of_le_of_lt h hsize)
      rw [if_neg hsum, Option.bind_none, if_neg hout]
  cases h : i.bytes.slice? offset.toNat count.toNat with
  | none => simp [spanWords, span, hslice, h]
  | some part => simp [spanWords, span, hslice, h]

theorem spanWords_eq_ok (hsize : i.size < 2 ^ 64) {offset count : UInt64} {part : Bytes} :
    i.spanWords offset count = .ok part ↔ offset.toNat + count.toNat ≤ i.size ∧
      part = (i.bytes.drop offset.toNat).take count.toNat := by
  rw [spanWords_eq_span hsize, span_eq_ok]

theorem parts (i : Image) : i.headerBytes ++ i.ramStage ++ i.mainStage = i.bytes := by
  rw [List.append_assoc, ramStage_append_mainStage, headerBytes, List.take_append_drop]

theorem mainStage_ne_nil (i : Image) : i.mainStage ≠ [] := by
  have := i.mainOffset_lt_size
  rw [← List.length_pos_iff, mainStage, List.length_drop]
  exact Nat.sub_pos_of_lt this

/-- The size that the header bytes declare is the one that was read when the image was
accepted. -/
theorem ramSize?_headerBytes (i : Image) :
    Header.ramSize? i.headerBytes = some i.header.ramSize := by
  have hfit : Header.ramSizeOffset + 4 ≤ i.headerBytes.length := by
    rw [length_headerBytes]
    decide
  rw [Header.ramSize?, Bytes.slice?, if_pos hfit, headerBytes, List.drop_take, List.take_take]
  rfl

/-- The RAM stage passes the check of its span. -/
theorem spanWords_ramStage (hsize : i.size < 2 ^ 64) :
    i.spanWords headerSize.toUInt64 i.header.ramSize.toUInt64 = .ok i.ramStage := by
  have hin : headerSize + i.header.ramSize.toNat ≤ i.size := Nat.le_of_lt i.mainOffset_lt_size
  rw [spanWords_eq_ok hsize]
  simpa [headerSize] using ⟨hin, rfl⟩

end Spans

end Image

theorem toNat_toUInt64 {n : Nat} (h : n < 2 ^ 64) : n.toUInt64.toNat = n :=
  UInt64.toNat_ofNat_of_lt' h

namespace Plan

/-- The offset of a block of the main stage, in words. -/
def offset (p : Plan) (index : Nat) : UInt64 :=
  p.start.toUInt64 + index.toUInt64 * p.blockSize.toUInt64

/-- The span of a full block. -/
def blockSpan (p : Plan) (image : Image) (index : Nat) : Except Error Bytes :=
  image.spanWords (p.offset index) p.blockSize.toUInt64

/-- The span of what is left after the full blocks. -/
def tailSpan (p : Plan) (image : Image) : Except Error Bytes :=
  image.spanWords (p.offset p.blocks) p.remainder.toUInt64

section Spans

variable {image : Image} {size : Nat}

/-- The full blocks and the remainder fill the image up to its end. -/
theorem end_ofSize (image : Image) (size : Nat) :
    (ofSize image size).start + (ofSize image size).blocks * size +
      (ofSize image size).remainder = image.size := by
  have hdiv := Nat.div_add_mod' image.mainStage.length size
  have hmain : image.mainStage.length = image.size - image.mainOffset := List.length_drop
  have hlt := image.mainOffset_lt_size
  simp only [ofSize]
  omega

theorem toNat_offset (hsize : image.size < 2 ^ 64) (hword : size < 2 ^ 64) {index : Nat}
    (hindex : index ≤ (ofSize image size).blocks) :
    ((ofSize image size).offset index).toNat = image.mainOffset + index * size := by
  have hend := end_ofSize image size
  have hle : index * size ≤ (ofSize image size).blocks * size := Nat.mul_le_mul_right _ hindex
  have hblocks : (ofSize image size).blocks ≤ image.mainStage.length := Nat.div_le_self ..
  have hmain : image.mainStage.length ≤ image.size := by
    rw [Image.mainStage, List.length_drop]
    exact Nat.sub_le ..
  have hstart : (ofSize image size).start = image.mainOffset := rfl
  have hcut : (ofSize image size).blockSize = size := rfl
  rw [offset, hstart, hcut, UInt64.toNat_add, UInt64.toNat_mul, toNat_toUInt64 (by omega),
    toNat_toUInt64 (by omega), toNat_toUInt64 hword,
    Nat.mod_eq_of_lt (a := index * size) (by omega), Nat.mod_eq_of_lt (by omega)]

/-- Each full block passes the check of its span. -/
theorem blockSpan_ofSize (hsize : image.size < 2 ^ 64) (hword : size < 2 ^ 64) {index : Nat}
    (hindex : index < (ofSize image size).blocks) :
    (ofSize image size).blockSpan image index =
      .ok ((image.mainStage.drop (index * size)).take size) := by
  have hend := end_ofSize image size
  have hle : (index + 1) * size ≤ (ofSize image size).blocks * size :=
    Nat.mul_le_mul_right _ hindex
  have hstart : (ofSize image size).start = image.mainOffset := rfl
  have hcut : (ofSize image size).blockSize = size := rfl
  rw [Nat.succ_mul] at hle
  rw [blockSpan, Image.spanWords_eq_ok hsize, toNat_offset hsize hword (Nat.le_of_lt hindex), hcut,
    toNat_toUInt64 hword, Image.mainStage, List.drop_drop]
  exact ⟨by omega, rfl⟩

/-- What is left after the full blocks passes the check of its span. -/
theorem tailSpan_ofSize (hsize : image.size < 2 ^ 64) (hword : size < 2 ^ 64) :
    (ofSize image size).tailSpan image = .ok (image.mainStage.tail size) := by
  have hend := end_ofSize image size
  have hstart : (ofSize image size).start = image.mainOffset := rfl
  have htail : (ofSize image size).remainder = (image.mainStage.tail size).length :=
    (Bytes.length_tail size image.mainStage).symm
  have hdrop : image.bytes.drop (image.mainOffset + (ofSize image size).blocks * size) =
      image.mainStage.tail size := by
    rw [← List.drop_drop]
    rfl
  rw [tailSpan, Image.spanWords_eq_ok hsize, toNat_offset hsize hword (Nat.le_refl _),
    toNat_toUInt64 (by omega), hdrop, htail, List.take_length]
  exact ⟨by omega, rfl⟩

end Spans

end Plan

theorem ofExcept_ok_bind {s α β : Type} (a : α) (f : α → EStateM Halt s β) :
    (ofExcept (.ok a) >>= f) = f a := rfl

theorem ofResult_ok_bind {s α β : Type} (a : α) (f : α → EStateM Halt s β) :
    (ofResult (.ok a) >>= f) = f a := rfl

namespace RamStage

variable {σ κ : Type} [SerialHost σ] [CommandChannel σ κ]

/-- The size of the RAM stage in the header bytes, which must reach that far. -/
def sizeField (image : Image) : Except Error UInt32 :=
  match Header.ramSize? image.headerBytes with
  | some size => .ok size
  | none => .error (.reported .invalidFileType "header too short for RAM size")

/-- Sends a RAM stage that was cut out of an image. -/
def sendPayload (timing : Timing) (size : Nat) (payload : Bytes) (baud : UInt32) :
    LineM σ Unit := do
  Line.note (.sendingRam size baud)
  let checksum ← sendPieces .ram size (payload.chunks pieceSize) 0 0
  Transfer.verifyChecksum checksum timing.checksumTimeout
  Line.note (.ramVerified checksum)

/-- The upload of the RAM stage with its checks. -/
def guardedUpload (timing : Timing) (image : Image) (baud : UInt32) : LinkM σ κ RamStage := do
  let blockSize ← requestProgram
  Link.note (.blockSize blockSize)
  sendHeader image
  Link.onLine (Line.setBaud baud)
  let size ← ofExcept (sizeField image)
  let payload ← ofExcept (image.spanWords headerSize.toUInt64 size.toUInt64)
  Link.onLine (sendPayload timing size.toNat payload baud)
  pure ⟨size.toUInt64, blockSize.toUInt64⟩

theorem sizeField_eq (image : Image) : sizeField image = .ok image.header.ramSize := by
  rw [sizeField, image.ramSize?_headerBytes]

/-- No check of the RAM stage fails. -/
theorem guardedUpload_eq {image : Image} (hsize : image.size < 2 ^ 64) (timing : Timing)
    (baud : UInt32) :
    (guardedUpload timing image baud : LinkM σ κ RamStage) = upload timing image baud := by
  simp only [guardedUpload, sizeField_eq, ofExcept_ok_bind, Image.spanWords_ramStage hsize]
  rfl

end RamStage

namespace MainStage

variable {σ : Type} [SerialHost σ]

/-- Sends the full blocks from number `index` on, and cuts each out of the image in its turn. -/
def sendSpans (timing : Timing) (image : Image) (plan : Plan) :
    (left index sent : Nat) → LineM σ Unit
  | 0, _, _ => pure ()
  | left + 1, index, sent => do
    let block ← ofExcept (plan.blockSpan image index)
    let checksum ← Transfer.sendBlock block
    Transfer.sendByte checksum
    Transfer.verifyChecksum checksum timing.checksumTimeout
    let sent := sent + block.length
    Line.note (.blockVerified (index + 1) plan.blocks)
    Line.report ⟨.main, sent, plan.size⟩
    sendSpans timing image plan left (index + 1) sent

/-- Everything that is sent at the transfer rate, with the checks. -/
def guardedStream (timing : Timing) (image : Image) (plan : Plan) (baud : UInt32) :
    LineM σ Unit := do
  handshake timing image
  Line.note (.sendingMain plan.size plan.blocks plan.blockSize plan.remainder baud)
  sendSpans timing image plan plan.blocks 0 0
  if 0 < plan.remainder then do
    let tail ← ofExcept (plan.tailSpan image)
    sendRemainder timing plan tail
  else pure ()

/-- The upload of the main stage with its checks. -/
def guardedUpload (timing : Timing) (image : Image) (ram : RamStage) (baud : UInt32) :
    SessionM σ Unit := do
  let plan ← ofResult (Plan.ofRamStage image ram)
  Session.reopen commandBaud timing.reopenDelay
  Session.setBaud baud
  Session.withPort (guardedStream timing image plan baud)

variable {image : Image} {size : Nat}

/-- With every check made, the blocks from `index` on are sent as they are without. -/
theorem sendSpans_eq (hsize : image.size < 2 ^ 64) (hword : size < 2 ^ 64) (timing : Timing)
    {left index : Nat} (h : index + left = (Plan.ofSize image size).blocks) (sent : Nat) :
    (sendSpans timing image (Plan.ofSize image size) left index sent : LineM σ Unit) =
      sendBlocks timing (Plan.ofSize image size)
        ((image.mainStage.fullBlocks size).drop index) index sent := by
  have hblocks : (image.mainStage.fullBlocks size).length = (Plan.ofSize image size).blocks := by
    rw [Bytes.fullBlocks, List.length_map, List.length_range]
    rfl
  induction left generalizing index sent with
  | zero =>
    rw [List.drop_eq_nil_of_le (by omega)]
    rfl
  | succ left ih =>
    have hlt : index < (image.mainStage.fullBlocks size).length := by omega
    have hblock : (image.mainStage.fullBlocks size)[index] =
        (image.mainStage.drop (index * size)).take size := by
      simp [Bytes.fullBlocks]
    rw [List.drop_eq_getElem_cons hlt, hblock, sendSpans, sendBlocks,
      Plan.blockSpan_ofSize hsize hword (hblocks ▸ hlt), ofExcept_ok_bind]
    refine bind_congr fun checksum => bind_congr fun _ => bind_congr fun _ => ?_
    exact bind_congr fun _ => bind_congr fun _ => ih (by omega) _

theorem guardedStream_eq (hsize : image.size < 2 ^ 64) (hpos : 0 < size) (hword : size < 2 ^ 64)
    (timing : Timing) (baud : UInt32) :
    (guardedStream timing image (Plan.ofSize image size) baud : LineM σ Unit) =
      stream timing image (Plan.ofSize image size) baud := by
  rw [guardedStream, stream, Plan.fullBlocks_ofSize image hpos, Plan.tail_ofSize,
    sendSpans_eq hsize hword timing (Nat.zero_add _), List.drop_zero,
    Plan.tailSpan_ofSize hsize hword]
  rfl

/-- No check of the main stage fails, whatever block size the device asks for. -/
theorem guardedUpload_eq (hsize : image.size < 2 ^ 64) {ram : RamStage}
    (hram : ram.size = image.header.ramSize.toUInt64) (timing : Timing) (baud : UInt32) :
    (guardedUpload timing image ram baud : SessionM σ Unit) = upload timing image ram baud := by
  obtain ⟨_, blockSize⟩ := ram
  subst hram
  unfold guardedUpload upload
  by_cases hzero : blockSize = 0
  · have herror : Plan.ofRamStage image ⟨image.header.ramSize.toUInt64, blockSize⟩ =
        .error (.failed .blockSizeZero) := if_pos hzero
    rw [herror]
    rfl
  · have hpos : 0 < blockSize.toNat := by
      rw [Nat.pos_iff_ne_zero]
      exact fun h => hzero (UInt64.toNat_inj.mp h)
    rw [Plan.ofRamStage_word image hzero, ofResult_ok_bind, ofResult_ok_bind,
      guardedStream_eq hsize hpos blockSize.toNat_lt]

end MainStage

section Results

variable {s α β : Type}

/-- An action that went on to a value came to one first. -/
theorem bind_eq_ok {act : EStateM Halt s α} {f : α → EStateM Halt s β} {st st' : s} {b : β}
    (h : (act >>= f) st = .ok b st') : ∃ a st₁, act st = .ok a st₁ ∧ f a st₁ = .ok b st' := by
  simp only [bind, EStateM.bind] at h
  split at h
  · next a st₁ he => exact ⟨a, st₁, he, h⟩
  · cases h

/-- What follows on an action matters on its values only. -/
theorem bind_congr_values {act : EStateM Halt s α} {f g : α → EStateM Halt s β}
    (h : ∀ st a st', act st = .ok a st' → f a = g a) : (act >>= f) = (act >>= g) := by
  funext st
  simp only [bind, EStateM.bind]
  split
  · next a st₁ he => rw [h st a st₁ he]
  · rfl

end Results

namespace Update

variable {σ κ : Type} [SerialHost σ] [CommandChannel σ κ]

/-- The steps of an update with all checks. -/
def guardedSteps (timing : Timing) (image : Image) : RunM σ κ Unit := do
  Run.onSession (Session.openAt commandBaud)
  findValidator
  let baud := image.header.transferBaud
  Run.note (.transferBaud image.header.variant.toByte baud)
  let ram ← Run.onLink (RamStage.guardedUpload timing image baud)
  Run.note .ramAccepted
  Run.onSession (MainStage.guardedUpload timing image ram baud)
  Run.note .mainAccepted
  Resync.run timing
  Run.note .complete

/-- The main stage is told the size that the header declares. -/
theorem size_of_upload {timing : Timing} {image : Image} {baud : UInt32} {run run' : Run σ κ}
    {ram : RamStage} (h : Run.onLink (RamStage.upload timing image baud) run = .ok ram run') :
    ram.size = image.header.ramSize.toUInt64 := by
  obtain ⟨_, run₁, -, hzoom⟩ := bind_eq_ok h
  unfold zoom at hzoom
  split at hzoom
  · next a link hupload =>
    cases hzoom
    obtain ⟨_, _, -, hupload⟩ := bind_eq_ok hupload
    obtain ⟨_, _, -, hupload⟩ := bind_eq_ok hupload
    obtain ⟨_, _, -, hupload⟩ := bind_eq_ok hupload
    obtain ⟨_, _, -, hupload⟩ := bind_eq_ok hupload
    obtain ⟨_, _, -, hupload⟩ := bind_eq_ok hupload
    cases hupload
    rfl
  · cases hzoom

/-- An update in which every check is made is the update: no check fails. -/
theorem guardedSteps_eq {image : Image} (hsize : image.size < 2 ^ 64) (timing : Timing) :
    (guardedSteps timing image : RunM σ κ Unit) = steps timing image := by
  unfold guardedSteps steps
  refine bind_congr fun _ => bind_congr fun _ => bind_congr fun _ => ?_
  rw [RamStage.guardedUpload_eq hsize]
  refine bind_congr_values fun _ ram _ hram => bind_congr fun _ => ?_
  rw [MainStage.guardedUpload_eq hsize (size_of_upload hram)]

end Update

/-- What is known of the image that was made from the data. -/
structure Image.Sound (i : Image) (data : Bytes) : Prop where
  parts : i.headerBytes ++ i.ramStage ++ i.mainStage = data
  ramStage : i.ramStage.length = Header.declared data
  mainStage : i.mainStage ≠ []
  sizeField : Header.ramSize? i.headerBytes = some i.header.ramSize
  span : ∀ (offset count : Nat) (part : Bytes), i.span offset count = .ok part ↔
    offset + count ≤ data.length ∧ part = (data.drop offset).take count
  /-- No span is let through, and none refused, because the sum of its words overflows. -/
  words : ∀ offset count : UInt64, i.spanWords offset count = i.span offset.toNat count.toNat
  /-- The header fits into a packet. -/
  command : ∀ seqAddr, Packet.encode ⟨seqAddr, i.headerBytes⟩ =
    .ok (Packet.framed ⟨seqAddr, i.headerBytes⟩)
  payload : i.spanWords headerSize.toUInt64 i.header.ramSize.toUInt64 = .ok i.ramStage
  /-- There is a layout for every block size but zero, and all its spans are there. -/
  plan : ∀ blockSize : UInt64, blockSize ≠ 0 → ∃ plan,
    Plan.ofRamStage i ⟨i.header.ramSize.toUInt64, blockSize⟩ = .ok plan ∧
      (∀ index < plan.blocks, ∃ block, plan.blockSpan i index = .ok block) ∧
      ∃ tail, plan.tailSpan i = .ok tail
  /-- An update in which every check is made is the update. -/
  steps : ∀ (σ κ : Type) [SerialHost σ] [CommandChannel σ κ] (timing : Timing),
    (Update.guardedSteps timing i : RunM σ κ Unit) = Update.steps timing i

namespace Image

theorem sound {i : Image} (hsize : i.size < 2 ^ 64) : i.Sound i.bytes where
  parts := i.parts
  ramStage := by rw [length_ramStage, ← toNat_ramSize]; rfl
  mainStage := i.mainStage_ne_nil
  sizeField := i.ramSize?_headerBytes
  span _ _ _ := span_eq_ok
  words := spanWords_eq_span hsize
  command seqAddr := by
    have hfit : i.headerBytes.length ≤ 255 := by
      rw [length_headerBytes]
      decide
    exact Packet.encode_eq hfit
  payload := spanWords_ramStage hsize
  plan blockSize hzero :=
    ⟨_, Plan.ofRamStage_word i hzero,
      fun _ hindex => ⟨_, Plan.blockSpan_ofSize hsize blockSize.toNat_lt hindex⟩,
      _, Plan.tailSpan_ofSize hsize blockSize.toNat_lt⟩
  steps _ _ _ _ timing := Update.guardedSteps_eq hsize timing

/-- Exactly the byte strings with the layout of an image are accepted, all others are of an
invalid type, and with an accepted image no later check can fail. -/
theorem ofBytes_sound (data : Bytes) (hsize : data.length < 2 ^ 64) :
    ((∃ i, ofBytes data = .ok i) ↔ headerSize ≤ data.length ∧ data.take 3 = imageTag ∧
      headerSize + Header.declared data < data.length) ∧
    (∀ e, ofBytes data = .error e → e.kind = .invalidFileType) ∧
    ∀ i, ofBytes data = .ok i → i.Sound data := by
  refine ⟨accepts_iff, fun _ => kind_of_refused, fun i hi => ?_⟩
  obtain rfl := ofBytes_eq_ok.mp hi
  exact sound hsize

/-- The small image ends right behind its main stage of three bytes. -/
theorem ofBytes_sound_small : small.bytes.length < 2 ^ 64 ∧ ofBytes small.bytes = .ok small ∧
    small.Sound small.bytes ∧ small.span 130 3 = .ok [3, 4, 5] := by
  have hsize : small.bytes.length < 2 ^ 64 := by decide +kernel
  have hok : ofBytes small.bytes = .ok small := ofBytes_eq_ok.mpr rfl
  have hsound : small.Sound small.bytes := (ofBytes_sound small.bytes hsize).2.2 small hok
  exact ⟨hsize, hok, hsound, (hsound.span 130 3 _).mpr (by decide +kernel)⟩

end Image

end SspUpdate
