import SspUpdate.Update.MainStage

/-!
# The layout of an image

Which bytes of an image go out where: the RAM stage, the full blocks of the
main stage for a block size, and the tail after them. The layout that the
update computes from the header and the size the device reported is this one,
and its parts make up the image behind the header, each byte once.
-/

namespace SspUpdate

namespace Bytes

/-- The pieces of exactly `size` bytes that fit into the data. -/
def fullBlocks (size : Nat) (data : Bytes) : List Bytes :=
  (List.range (data.length / size)).map fun i => (data.drop (i * size)).take size

/-- What is left after the full blocks. -/
def tail (size : Nat) (data : Bytes) : Bytes := data.drop (data.length / size * size)

theorem length_tail (size : Nat) (data : Bytes) : (tail size data).length = data.length % size := by
  have h := Nat.div_add_mod' data.length size
  simp only [tail, List.length_drop]
  omega

/-- Consecutive slices of one size are a prefix. -/
theorem flatten_slices (size n : Nat) (data : Bytes) :
    ((List.range n).map fun i => (data.drop (i * size)).take size).flatten =
      data.take (n * size) := by
  induction n with
  | zero => simp
  | succ n ih =>
    rw [List.range_succ, List.map_append, List.flatten_append, ih, Nat.succ_mul, List.take_add]
    simp

theorem flatten_fullBlocks_append_tail (size : Nat) (data : Bytes) :
    (fullBlocks size data).flatten ++ tail size data = data := by
  rw [fullBlocks, flatten_slices, tail, List.take_append_drop]

theorem flatten_chunks {size : Nat} (hs : 0 < size) (data : Bytes) :
    (chunks size data).flatten = data := by
  induction data using chunks.induct size with
  | case1 data h ih =>
    rw [chunks, dif_pos h, List.flatten_cons, ih, List.take_append_drop]
  | case2 data h =>
    rw [chunks, dif_neg h]
    exact (Classical.not_not.mp fun hne => h ⟨hs, fun he => hne he.symm⟩)

/-- One more chunk than there are behind the first `size` bytes. -/
theorem chunkCount_succ {size n : Nat} (hs : 0 < size) (hn : 0 < n) :
    (n + size - 1) / size = (n - size + size - 1) / size + 1 := by
  have hall : (n + size - 1) / size = (n - 1) / size + 1 := by
    rw [show n + size - 1 = n - 1 + size by omega, Nat.add_div_right _ hs]
  rw [hall]
  by_cases h : size ≤ n
  · rw [Nat.sub_add_cancel h]
  · rw [Nat.div_eq_of_lt (by omega : n - 1 < size),
      Nat.div_eq_of_lt (by omega : n - size + size - 1 < size)]

/-- Chunks are consecutive slices, the last one perhaps a short one. -/
theorem chunks_eq {size : Nat} (hs : 0 < size) (data : Bytes) :
    chunks size data = (List.range ((data.length + size - 1) / size)).map fun i =>
      (data.drop (i * size)).take size := by
  induction data using chunks.induct size with
  | case1 data h ih =>
    have hcount := chunkCount_succ hs (List.length_pos_iff.mpr h.2)
    rw [← List.length_drop] at hcount
    rw [chunks, dif_pos h, ih, hcount, List.range_succ_eq_map, List.map_cons, List.map_map]
    congr 1
    · simp
    · apply List.map_congr_left
      intro i _
      simp only [Function.comp_apply, List.drop_drop, Nat.succ_mul, Nat.add_comm size]
  | case2 data h =>
    obtain rfl : data = [] := Classical.not_not.mp fun hne => h ⟨hs, hne⟩
    rw [chunks, dif_neg h, List.length_nil, Nat.div_eq_of_lt (by omega)]
    rfl

theorem length_chunks {size : Nat} (hs : 0 < size) (data : Bytes) :
    (chunks size data).length = (data.length + size - 1) / size := by
  rw [chunks_eq hs, List.length_map, List.length_range]

/-- Chunks of data that they divide evenly are its slices. -/
theorem chunks_take_mul {size : Nat} (hs : 0 < size) (n : Nat) (data : Bytes)
    (h : n * size ≤ data.length) :
    chunks size (data.take (n * size)) =
      (List.range n).map fun i => (data.drop (i * size)).take size := by
  have hcount : ((data.take (n * size)).length + size - 1) / size = n := by
    rw [List.length_take, Nat.min_eq_left h, Nat.add_sub_assoc hs, Nat.mul_comm,
      Nat.mul_add_div hs, Nat.div_eq_of_lt (by omega), Nat.add_zero]
  rw [chunks_eq hs, hcount]
  apply List.map_congr_left
  intro i hi
  have hle : (i + 1) * size ≤ n * size := Nat.mul_le_mul_right _ (List.mem_range.mp hi)
  rw [Nat.succ_mul] at hle
  rw [List.drop_take, List.take_take, Nat.min_eq_left (by omega)]

theorem foldl_xor (data : Bytes) (c : UInt8) :
    data.foldl (· ^^^ ·) c = c ^^^ data.foldl (· ^^^ ·) 0 := by
  induction data generalizing c with
  | nil => simp
  | cons b data ih =>
    rw [List.foldl_cons, List.foldl_cons, ih, ih (0 ^^^ b), UInt8.zero_xor, UInt8.xor_assoc]

theorem checksum_append (a b : Bytes) : (a ++ b).checksum = a.checksum ^^^ b.checksum := by
  rw [checksum, List.foldl_append, foldl_xor]
  rfl

end Bytes

namespace Image

theorem mainOffset_lt_size (i : Image) : i.mainOffset < i.size := i.wellFormed.2.2

theorem length_headerBytes (i : Image) : i.headerBytes.length = headerSize := by
  rw [headerBytes, List.length_take]
  exact Nat.min_eq_left i.wellFormed.1

theorem length_ramStage (i : Image) : i.ramStage.length = i.header.ramSize.toNat := by
  have : i.mainOffset < i.bytes.length := i.mainOffset_lt_size
  rw [mainOffset] at this
  rw [ramStage, List.length_take, List.length_drop]
  omega

/-- The two stages are the image behind its header. -/
theorem ramStage_append_mainStage (i : Image) :
    i.ramStage ++ i.mainStage = i.bytes.drop headerSize := by
  rw [ramStage, mainStage, mainOffset, ← List.drop_drop, List.take_append_drop]

/-- An image with a RAM stage of two bytes and a main stage of three. -/
def small : Image where
  bytes := imageTag ++ [0, 0, 0x0B, 0x41, 0, 0, 0, 2] ++ List.replicate 117 0 ++ [1, 2, 3, 4, 5]
  wellFormed := by decide +kernel

end Image

namespace Plan

/-- The layout of the main stage of an image for blocks of `size` bytes. -/
def ofSize (image : Image) (size : Nat) : Plan :=
  ⟨image.mainOffset, image.mainStage.length, size, image.mainStage.length / size,
    image.mainStage.length % size⟩

theorem startBehind_of_fits {ram : RamStage} (h : headerSize + ram.size.toNat < UInt64.size) :
    startBehind ram = some (headerSize + ram.size.toNat) := if_pos h

theorem startBehind_of_overflow {ram : RamStage} (h : UInt64.size ≤ headerSize + ram.size.toNat) :
    startBehind ram = none := if_neg (Nat.not_lt.mpr h)

variable (image : Image) {size : Nat}

/-- After a RAM stage there is a layout for every block size but zero. -/
theorem ofRamStage_word {blockSize : UInt64} (hb : blockSize ≠ 0) :
    ofRamStage image ⟨image.header.ramSize.toUInt64, blockSize⟩ =
      .ok (ofSize image blockSize.toNat) := by
  have hstart : startBehind ⟨image.header.ramSize.toUInt64, blockSize⟩ = some image.mainOffset := by
    have hword := image.header.ramSize.toNat_lt
    refine startBehind_of_fits ?_
    simp only [headerSize, UInt32.toNat_toUInt64, UInt64.size]
    omega
  have hmain : image.mainStage.length = image.size - image.mainOffset := List.length_drop
  have hfit : ¬ image.size < image.mainOffset := by have := image.mainOffset_lt_size; omega
  simp only [ofRamStage, hb, if_false, hstart, hfit, ofSize, hmain]

theorem ofRamStage_eq (hs : 0 < size) (hw : size < 65536) :
    ofRamStage image ⟨image.header.ramSize.toUInt64, size.toUInt64⟩ = .ok (ofSize image size) := by
  have hsize : size.toUInt64.toNat = size := by simp; omega
  have hne : size.toUInt64 ≠ 0 := by
    intro h
    rw [h] at hsize
    simp at hsize
    omega
  rw [ofRamStage_word image hne, hsize]

theorem fullBlocks_ofSize (hs : 0 < size) :
    (ofSize image size).fullBlocks image = image.mainStage.fullBlocks size := by
  have h : image.mainStage.length / size * size ≤ image.mainStage.length := Nat.div_mul_le_self _ _
  exact Bytes.chunks_take_mul hs _ _ h

theorem tail_ofSize : (ofSize image size).tail image = image.mainStage.tail size := rfl

end Plan

end SspUpdate
