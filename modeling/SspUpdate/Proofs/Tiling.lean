import SspUpdate.Proofs.Bounds

/-!
# The layout after any RAM stage

A RAM stage is two words, and a layout of the main stage can be asked for with
any two. If header and RAM stage together fit a word, the layout is refused
exactly when there is no room or no block size, and otherwise its blocks and
sections are the rest of the image, each byte once. The sum is formed before it
is compared with the image, so a RAM stage that is long enough is not refused:
the sum overflows, and there is neither a layout nor an error. In no case is
anything asked of the port before there is a layout.
-/

namespace SspUpdate

namespace Bytes

/-- No chunk is empty, and none is longer than asked for. -/
theorem length_of_mem_chunks {size : Nat} (hs : 0 < size) {data piece : Bytes}
    (h : piece ∈ chunks size data) : 0 < piece.length ∧ piece.length ≤ size := by
  rw [chunks_eq hs] at h
  obtain ⟨i, hi, rfl⟩ := List.mem_map.mp h
  have hcount : (i + 1) * size ≤ data.length + size - 1 :=
    (Nat.le_div_iff_mul_le hs).mp (List.mem_range.mp hi)
  rw [Nat.succ_mul] at hcount
  rw [List.length_take, List.length_drop]
  omega

end Bytes

namespace Plan

/-- The layout cuts what lies behind header and RAM stage into blocks and sections: each byte up
to the end of the image is in exactly one of them. -/
structure Tiles (p : Plan) (image : Image) (ram : RamStage) : Prop where
  start : p.start = headerSize + ram.size.toNat
  stop : p.start + p.size = image.size
  blockSize : p.blockSize = ram.blockSize.toNat
  size : p.size = p.blocks * p.blockSize + p.remainder
  remainder : p.remainder < p.blockSize
  blocks : (p.fullBlocks image).length = p.blocks ∧
    ∀ block ∈ p.fullBlocks image, block.length = p.blockSize
  sections : ((p.tail image).chunks sectionSize).length = p.sections ∧
    ∀ part ∈ (p.tail image).chunks sectionSize, 0 < part.length ∧ part.length ≤ sectionSize
  whole : (p.fullBlocks image).flatten ++ ((p.tail image).chunks sectionSize).flatten =
    image.bytes.drop (headerSize + ram.size.toNat)
  /-- Where a block begins is computed without an overflow. -/
  offset : image.size < 2 ^ 64 → ∀ index ≤ p.blocks,
    (p.offset index).toNat = p.start + index * p.blockSize

/-- There is a layout or an error: an error exactly for a block size of zero and for a RAM stage
that overruns the image, and every layout tiles the image. -/
structure Exact (image : Image) (ram : RamStage) : Prop where
  ends : (∃ e, ofRamStage image ram = .error (.failed e)) ∨ ∃ p, ofRamStage image ram = .ok p
  refused : (∃ e, ofRamStage image ram = .error (.failed e)) ↔
    ram.blockSize = 0 ∨ image.size < headerSize + ram.size.toNat
  tiles : ∀ p, ofRamStage image ram = .ok p → p.Tiles image ram

/-- The layout of what lies behind the first `start` bytes. -/
def behind (image : Image) (start size : Nat) : Plan :=
  ⟨start, image.size - start, size, (image.size - start) / size, (image.size - start) % size⟩

section Behind

variable {image : Image} {start size : Nat}

theorem length_drop_bytes (image : Image) (start : Nat) :
    (image.bytes.drop start).length = image.size - start := List.length_drop

theorem fullBlocks_behind (hs : 0 < size) :
    (behind image start size).fullBlocks image =
      (List.range ((image.size - start) / size)).map fun i =>
        ((image.bytes.drop start).drop (i * size)).take size := by
  have h : (image.size - start) / size * size ≤ (image.bytes.drop start).length := by
    rw [length_drop_bytes]
    exact Nat.div_mul_le_self _ _
  exact Bytes.chunks_take_mul hs _ _ h

theorem length_of_mem_fullBlocks (hs : 0 < size) {block : Bytes}
    (h : block ∈ (behind image start size).fullBlocks image) : block.length = size := by
  rw [fullBlocks_behind hs] at h
  obtain ⟨i, hi, rfl⟩ := List.mem_map.mp h
  have hfits : (i + 1) * size ≤ image.size - start :=
    (Nat.le_div_iff_mul_le hs).mp (List.mem_range.mp hi)
  rw [Nat.succ_mul] at hfits
  rw [List.length_take, List.length_drop, length_drop_bytes]
  omega

theorem length_tail_behind (image : Image) (start size : Nat) :
    ((behind image start size).tail image).length = (behind image start size).remainder := by
  have hdiv := Nat.div_add_mod' (image.size - start) size
  rw [tail, List.length_drop]
  simp only [behind, length_drop_bytes]
  omega

/-- Blocks and sections together are what lies behind the start. -/
theorem flatten_behind (hs : 0 < size) :
    ((behind image start size).fullBlocks image).flatten ++
      (((behind image start size).tail image).chunks sectionSize).flatten =
        image.bytes.drop start := by
  rw [fullBlocks, tail, Bytes.flatten_chunks (by exact hs), Bytes.flatten_chunks (by decide)]
  exact List.take_append_drop _ _

/-- No offset of a block overflows, as the last one is in the image. -/
theorem toNat_offset_behind (hs : 0 < size) (hstart : start ≤ image.size)
    (hword : size < 2 ^ 64) (hsize : image.size < 2 ^ 64) {index : Nat}
    (hindex : index ≤ (behind image start size).blocks) :
    ((behind image start size).offset index).toNat = start + index * size := by
  have hfits : index * size ≤ image.size - start := (Nat.le_div_iff_mul_le hs).mp hindex
  have hle : index ≤ index * size := Nat.le_mul_of_pos_right index hs
  simp only [offset, behind, UInt64.toNat_add, UInt64.toNat_mul]
  rw [toNat_toUInt64 (by omega), toNat_toUInt64 (by omega), toNat_toUInt64 hword,
    Nat.mod_eq_of_lt (a := index * size) (by omega), Nat.mod_eq_of_lt (by omega)]

/-- A layout that begins behind the RAM stage tiles the image. -/
theorem tiles_behind {ram : RamStage} (hblock : ram.blockSize ≠ 0)
    (hroom : headerSize + ram.size.toNat ≤ image.size) :
    (behind image (headerSize + ram.size.toNat) ram.blockSize.toNat).Tiles image ram := by
  have hs : 0 < ram.blockSize.toNat := by
    rw [Nat.pos_iff_ne_zero]
    exact fun h => hblock (UInt64.toNat_inj.mp h)
  have hsections : 0 < sectionSize := by decide
  constructor
  case start => rfl
  case stop => exact Nat.add_sub_cancel' hroom
  case blockSize => rfl
  case size => exact (Nat.div_add_mod' _ _).symm
  case remainder => exact Nat.mod_lt _ hs
  case blocks =>
    refine ⟨?_, fun block h => length_of_mem_fullBlocks hs h⟩
    rw [fullBlocks_behind hs, List.length_map, List.length_range]
    rfl
  case sections =>
    refine ⟨?_, fun part h => Bytes.length_of_mem_chunks hsections h⟩
    rw [Bytes.length_chunks hsections, length_tail_behind, sections]
  case whole => exact flatten_behind hs
  case offset =>
    exact fun hsize index hindex =>
      toNat_offset_behind hs hroom ram.blockSize.toNat_lt hsize hindex

end Behind

variable {image : Image} {ram : RamStage}

theorem ofRamStage_zero (image : Image) (h : ram.blockSize = 0) :
    ofRamStage image ram = .error (.failed .blockSizeZero) := if_pos h

theorem ofRamStage_overflow (image : Image) (hblock : ram.blockSize ≠ 0)
    (h : 2 ^ 64 ≤ headerSize + ram.size.toNat) :
    ofRamStage image ram = .error (.unfinished .overflow) := by
  rw [ofRamStage, if_neg hblock, startBehind_of_overflow h]

theorem ofRamStage_overrun (hblock : ram.blockSize ≠ 0)
    (hfits : headerSize + ram.size.toNat < 2 ^ 64)
    (h : image.size < headerSize + ram.size.toNat) :
    ofRamStage image ram = .error (.failed .ramOverrunsImage) := by
  simp only [ofRamStage, if_neg hblock, startBehind_of_fits hfits, if_pos h]

theorem ofRamStage_behind (hblock : ram.blockSize ≠ 0)
    (hfits : headerSize + ram.size.toNat < 2 ^ 64)
    (h : headerSize + ram.size.toNat ≤ image.size) :
    ofRamStage image ram =
      .ok (behind image (headerSize + ram.size.toNat) ram.blockSize.toNat) := by
  simp only [ofRamStage, if_neg hblock, startBehind_of_fits hfits, if_neg (Nat.not_lt.mpr h),
    behind]

theorem Exact.of_refused {e : Error} (he : ofRamStage image ram = .error (.failed e))
    (h : ram.blockSize = 0 ∨ image.size < headerSize + ram.size.toNat) : Exact image ram where
  ends := .inl ⟨e, he⟩
  refused := ⟨fun _ => h, fun _ => ⟨e, he⟩⟩
  tiles p hp := by cases he.symm.trans hp

theorem Exact.of_tiles {p : Plan} (hp : ofRamStage image ram = .ok p) (h : p.Tiles image ram)
    (hblock : ram.blockSize ≠ 0) : Exact image ram where
  ends := .inr ⟨p, hp⟩
  refused := by
    constructor
    · rintro ⟨e, he⟩
      cases hp.symm.trans he
    · rintro (hzero | hover)
      · exact absurd hzero hblock
      · have hstart := h.start
        have hstop := h.stop
        omega
  tiles q hq := by
    cases hp.symm.trans hq
    exact h

/-- A sum that fits a word is compared as it is. -/
theorem exact_of_fits (hfits : headerSize + ram.size.toNat < 2 ^ 64) : Exact image ram := by
  by_cases hblock : ram.blockSize = 0
  · exact .of_refused (ofRamStage_zero image hblock) (.inl hblock)
  by_cases hroom : headerSize + ram.size.toNat ≤ image.size
  · exact .of_tiles (ofRamStage_behind hblock hfits hroom) (tiles_behind hblock hroom) hblock
  · have hover : image.size < headerSize + ram.size.toNat := Nat.lt_of_not_le hroom
    exact .of_refused (ofRamStage_overrun hblock hfits hover) (.inr hover)

/-- A sum that overflows gives neither a layout nor an error. -/
theorem not_exact_of_overflow (hblock : ram.blockSize ≠ 0)
    (h : 2 ^ 64 ≤ headerSize + ram.size.toNat) : ¬ Exact image ram := by
  have hoverflow := ofRamStage_overflow image hblock h
  intro hexact
  obtain ⟨e, he⟩ | ⟨p, hp⟩ := hexact.ends
  · cases hoverflow.symm.trans he
  · cases hoverflow.symm.trans hp

/-- The layout for a RAM stage is as it should be, refused or a tiling of the image, for every
image and every two words but those whose sum with the header overflows: then the program breaks
down instead of refusing them. Whatever it is that there is no layout for, the main stage ends
with it before anything is asked of the port. -/
theorem exact_iff_fits (image : Image) (ram : RamStage) :
    (Exact image ram ↔ ram.blockSize = 0 ∨ headerSize + ram.size.toNat < 2 ^ 64) ∧
    (¬ Exact image ram → ofRamStage image ram = .error (.unfinished .overflow)) ∧
    ∀ h, ofRamStage image ram = .error h →
      ∀ (σ : Type) [SerialHost σ] (timing : Timing) (baud : UInt32) (s : Session σ),
        MainStage.upload timing image ram baud s = .error h s := by
  have hexact : ram.blockSize = 0 ∨ headerSize + ram.size.toNat < 2 ^ 64 → Exact image ram := by
    rintro (hblock | hfits)
    · exact .of_refused (ofRamStage_zero image hblock) (.inl hblock)
    · exact exact_of_fits hfits
  refine ⟨⟨fun h => ?_, hexact⟩, fun h => ?_, fun h he σ _ timing baud s => ?_⟩
  · by_cases hblock : ram.blockSize = 0
    · exact .inl hblock
    · exact .inr (Nat.lt_of_not_le fun hlong => not_exact_of_overflow hblock hlong h)
  · obtain ⟨hblock, hlong⟩ := not_or.mp fun hfits => h (hexact hfits)
    exact ofRamStage_overflow image hblock (Nat.le_of_not_lt hlong)
  · unfold MainStage.upload
    rw [he]
    rfl

/-- The longest RAM stage there is overruns the image, and is not refused. -/
theorem overlong_ram_overflows :
    let ram : RamStage := ⟨0xFFFFFFFFFFFFFFFF, 2⟩
    Image.small.size < headerSize + ram.size.toNat ∧
      ofRamStage .small ram = .error (.unfinished .overflow) ∧ ¬ Exact .small ram := by
  intro ram
  have hlong : 2 ^ 64 ≤ headerSize + ram.size.toNat := by decide
  have hblock : ram.blockSize ≠ 0 := by decide
  refine ⟨by decide +kernel, ofRamStage_overflow .small hblock hlong, ?_⟩
  exact not_exact_of_overflow hblock hlong

end Plan

end SspUpdate
