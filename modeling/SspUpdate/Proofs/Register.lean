import Mathlib.Data.Nat.Bits
import Mathlib.Logic.Function.Iterate
import SspUpdate.Crc

/-!
# The checksum register

The register is advanced by the bits of the data, highest first, and the table
does nothing else a byte at a time. A bit step is linear in exclusive or, loses
nothing, and keeps the parity of the register, as the generator has an odd
number of further bits. So two byte strings of one length have the same checksum
just if the bits in which they differ leave nothing in an empty register.
-/

namespace SspUpdate

namespace Bytes

/-- The bits of a byte, highest first. -/
def byteBits (b : UInt8) : List Bool := (List.range 8).map b.toBitVec.getMsbD

/-- The bits of a byte string, highest first. -/
def bits (data : Bytes) : List Bool := data.flatMap byteBits

/-- Where two byte strings differ, bit by bit. -/
def difference (a b : Bytes) : List Bool := List.zipWith xor a.bits b.bits

theorem length_byteBits (b : UInt8) : (byteBits b).length = 8 := by simp [byteBits]

theorem getElem?_byteBits (b : UInt8) (i : Nat) :
    (byteBits b)[i]?.getD false = b.toBitVec.getMsbD i := by
  rw [byteBits, List.getElem?_map]
  by_cases hi : i < 8
  · rw [List.getElem?_range hi]
    rfl
  · rw [List.getElem?_eq_none (by simpa using hi), BitVec.getMsbD_of_ge _ _ (by omega)]
    rfl

theorem bits_cons (b : UInt8) (data : Bytes) : bits (b :: data) = byteBits b ++ bits data :=
  List.flatMap_cons

theorem length_bits (data : Bytes) : data.bits.length = 8 * data.length := by
  induction data with
  | nil => rfl
  | cons b data ih =>
    rw [bits_cons, List.length_append, length_byteBits, ih, List.length_cons]
    omega

theorem length_difference {a b : Bytes} (h : a.length = b.length) :
    (difference a b).length = 8 * a.length := by
  rw [difference, List.length_zipWith, length_bits, length_bits, h, Nat.min_self]

end Bytes

namespace Crc

theorem shiftBit_eq (r : UInt16) :
    shiftBit r = (r <<< 1) ^^^ (if r.toBitVec.msb then generator else 0) := by
  have hmask : (0x8000 : UInt16).toBitVec = BitVec.twoPow 16 15 := by decide
  have htop : r &&& 0x8000 ≠ 0 ↔ r.toBitVec.msb = true := by
    rw [ne_eq, ← UInt16.toBitVec_inj, UInt16.toBitVec_and, hmask, BitVec.and_twoPow,
      BitVec.msb_eq_getLsbD_last]
    split <;> simp_all
  simp only [shiftBit, htop]
  split
  · rfl
  · exact UInt16.xor_zero.symm

theorem shiftBit_xor (r s : UInt16) : shiftBit (r ^^^ s) = shiftBit r ^^^ shiftBit s := by
  have hfall (a b : Bool) : (if (a ^^ b) = true then generator else 0) =
      (if a then generator else 0) ^^^ (if b then generator else 0) := by
    cases a <;> cases b <;> decide
  simp only [shiftBit_eq, UInt16.toBitVec_xor, BitVec.msb_xor, hfall, UInt16.shiftLeft_xor]
  ac_rfl

theorem toNat_shiftLeft_one (r : UInt16) : (r <<< 1).toNat = 2 * r.toNat % 65536 := by
  rw [UInt16.toNat_shiftLeft]
  simp [Nat.shiftLeft_eq, Nat.mul_comm]

theorem toNat_shiftRight_one (r : UInt16) : (r >>> 1).toNat = r.toNat / 2 := by
  rw [UInt16.toNat_shiftRight]
  simp [Nat.shiftRight_eq_div_pow]

theorem msb_iff (r : UInt16) : r.toBitVec.msb = true ↔ 32768 ≤ r.toNat := by
  rw [BitVec.msb_eq_decide, decide_eq_true_eq]
  rfl

/-- The generator is odd, so that a bit step loses nothing. -/
theorem shiftBit_eq_zero {r : UInt16} (h : shiftBit r = 0) : r = 0 := by
  rw [shiftBit_eq, UInt16.xor_eq_zero_iff] at h
  have hnat := congrArg UInt16.toNat h
  have hr := r.toNat_lt
  have hzero : (0 : UInt16).toNat = 0 := rfl
  rw [toNat_shiftLeft_one] at hnat
  apply UInt16.toNat.inj
  split at hnat
  · have hodd : generator.toNat = 32773 := rfl
    omega
  · next htop =>
    rw [msb_iff] at htop
    omega

theorem shiftBit_iterate_xor (n : Nat) (r s : UInt16) :
    shiftBit^[n] (r ^^^ s) = shiftBit^[n] r ^^^ shiftBit^[n] s := by
  induction n generalizing r s with
  | zero => rfl
  | succ n ih => simp only [Function.iterate_succ_apply, shiftBit_xor, ih]

theorem shiftBit_iterate_ne_zero {r : UInt16} (h : r ≠ 0) (n : Nat) : shiftBit^[n] r ≠ 0 := by
  induction n generalizing r with
  | zero => exact h
  | succ n ih => exact ih (mt shiftBit_eq_zero h)

/-- A bit step takes back a shift to the right by which no bit is lost. -/
theorem shiftBit_shiftRight {r : UInt16} (h : r.toBitVec.getMsbD 15 = false) :
    shiftBit (r >>> 1) = r := by
  have hr := r.toNat_lt
  have heven : r.toNat % 2 = 0 := by
    rw [BitVec.getMsbD_eq_getLsbD, BitVec.getLsbD, Nat.testBit_zero] at h
    simpa using h
  have htop : ¬ (r >>> 1).toBitVec.msb = true := by
    rw [msb_iff, toNat_shiftRight_one]
    omega
  rw [shiftBit_eq, if_neg htop, UInt16.xor_zero]
  apply UInt16.toNat.inj
  rw [toNat_shiftLeft_one, toNat_shiftRight_one]
  omega

/-- The bits of the register, highest first. -/
def places (r : UInt16) : List Bool := (List.range 16).map r.toBitVec.getMsbD

/-- Whether an odd number of bits is set. -/
def parity (r : UInt16) : Bool := (places r).foldr xor false

theorem parity_xor (r s : UInt16) : parity (r ^^^ s) = (parity r ^^ parity s) := by
  unfold parity places
  induction List.range 16 with
  | nil => rfl
  | cons i rest ih =>
    rw [List.map_cons, List.foldr_cons, ih, UInt16.toBitVec_xor, BitVec.getMsbD_xor]
    simp only [List.map_cons, List.foldr_cons, Bool.xor_assoc, Bool.xor_left_comm]

/-- A shift to the left loses the top bit and moves the others. -/
theorem places_shiftLeft (r : UInt16) :
    r.toBitVec.msb :: places (r <<< 1) = places r ++ [false] := by
  have hplace : ((1 : UInt16).toBitVec % 16).toNat = 1 := rfl
  have hmoved : places (r <<< 1) = (List.range 16).map (r.toBitVec.getMsbD ∘ Nat.succ) := by
    refine List.map_congr_left fun i _ => ?_
    rw [UInt16.toBitVec_shiftLeft, BitVec.shiftLeft_eq', hplace, BitVec.getMsbD_shiftLeft]
    rfl
  have hlast : r.toBitVec.getMsbD 16 = false := BitVec.getMsbD_of_ge _ _ (by decide)
  rw [hmoved, ← List.map_map, BitVec.msb, ← List.map_cons, ← List.range_succ_eq_map,
    List.range_succ, List.map_append, List.map_singleton, hlast, places]

theorem parity_shiftLeft (r : UInt16) : parity (r <<< 1) = (r.toBitVec.msb ^^ parity r) := by
  have hplaces := congrArg (List.foldr xor false) (places_shiftLeft r)
  rw [List.foldr_cons, List.foldr_append, List.foldr_cons, List.foldr_nil,
    Bool.xor_false] at hplaces
  unfold parity
  rw [← hplaces, ← Bool.xor_assoc, Bool.xor_self, Bool.false_xor]

/-- What is subtracted along with the bit that falls out has an odd number of bits itself. -/
theorem parity_shiftBit (r : UInt16) : parity (shiftBit r) = parity r := by
  rw [shiftBit_eq, parity_xor, parity_shiftLeft]
  have hgenerator : parity generator = true := by decide
  have hzero : parity 0 = false := by decide
  cases r.toBitVec.msb <;> simp [hgenerator, hzero]

/-- A bit at the top of the register. -/
def topBit (b : Bool) : UInt16 := if b then 0x8000 else 0

theorem topBit_xor (b c : Bool) : topBit (b ^^ c) = topBit b ^^^ topBit c := by
  cases b <;> cases c <;> decide

theorem getMsbD_topBit (b : Bool) (i : Nat) :
    (topBit b).toBitVec.getMsbD i = (decide (i = 0) && b) := by
  have htop : (0x8000 : UInt16).toBitVec = BitVec.twoPow 16 15 := by decide
  cases b with
  | false => simp [topBit]
  | true =>
    simp only [topBit, htop, if_true, BitVec.getMsbD_twoPow]
    cases i <;> simp

theorem parity_topBit (b : Bool) : parity (topBit b) = b := by
  cases b <;> decide

/-- The register after one more bit. -/
def advanceBit (r : UInt16) (b : Bool) : UInt16 := shiftBit (r ^^^ topBit b)

/-- What a string of bits leaves in an empty register. -/
def remainder (bits : List Bool) : UInt16 := bits.foldl advanceBit 0

theorem foldl_advanceBit_xor {xs ys : List Bool} (h : xs.length = ys.length) (r s : UInt16) :
    xs.foldl advanceBit r ^^^ ys.foldl advanceBit s =
      (List.zipWith xor xs ys).foldl advanceBit (r ^^^ s) := by
  induction xs generalizing ys r s with
  | nil =>
    obtain rfl := List.length_eq_zero_iff.mp h.symm
    rfl
  | cons x xs ih =>
    obtain ⟨y, ys, rfl⟩ := List.exists_cons_of_length_eq_add_one h.symm
    have hstep : advanceBit r x ^^^ advanceBit s y = advanceBit (r ^^^ s) (x ^^ y) := by
      rw [advanceBit, advanceBit, advanceBit, ← shiftBit_xor, topBit_xor]
      congr 1
      ac_rfl
    rw [List.foldl_cons, List.foldl_cons, List.zipWith_cons_cons, List.foldl_cons, ← hstep,
      ih (Nat.succ.inj h)]

theorem foldl_advanceBit_zeros {zeros : List Bool} (h : true ∉ zeros) (r : UInt16) :
    zeros.foldl advanceBit r = shiftBit^[zeros.length] r := by
  induction zeros generalizing r with
  | nil => rfl
  | cons b zeros ih =>
    rw [List.mem_cons, not_or] at h
    obtain ⟨hb, hzeros⟩ := h
    rw [List.foldl_cons, ih hzeros, advanceBit, topBit, if_neg (Ne.symm hb), UInt16.xor_zero,
      List.length_cons, Function.iterate_succ_apply]

/-- Zeros in front leave nothing, and zeros behind only move what is there. -/
theorem remainder_between {before behind : List Bool} (hbefore : true ∉ before)
    (hbehind : true ∉ behind) (bits : List Bool) :
    remainder (before ++ bits ++ behind) = shiftBit^[behind.length] (remainder bits) := by
  have hempty : shiftBit^[before.length] 0 = 0 := Function.iterate_fixed (by decide) _
  rw [remainder, List.foldl_append, List.foldl_append, foldl_advanceBit_zeros hbefore,
    foldl_advanceBit_zeros hbehind, hempty, remainder]

theorem parity_foldl_advanceBit (bits : List Bool) (r : UInt16) :
    parity (bits.foldl advanceBit r) = (parity r ^^ (bits.count true).bodd) := by
  induction bits generalizing r with
  | nil => simp
  | cons b bits ih =>
    rw [List.foldl_cons, ih, advanceBit, parity_shiftBit, parity_xor, parity_topBit]
    cases b <;> simp

/-- Bits from the top of the register on. -/
def aligned : List Bool → UInt16
  | [] => 0
  | b :: bits => topBit b ^^^ (aligned bits >>> 1)

theorem getMsbD_aligned (bits : List Bool) {i : Nat} (hi : i < 16) :
    (aligned bits).toBitVec.getMsbD i = bits[i]?.getD false := by
  have hplace : ((1 : UInt16).toBitVec % 16).toNat = 1 := rfl
  induction bits generalizing i with
  | nil => simp [aligned]
  | cons b bits ih =>
    rw [aligned, UInt16.toBitVec_xor, UInt16.toBitVec_shiftRight, BitVec.getMsbD_xor,
      getMsbD_topBit, BitVec.ushiftRight_eq', hplace, BitVec.getMsbD_ushiftRight]
    cases i with
    | zero => simp
    | succ i => simp [hi, ih (Nat.lt_of_succ_lt hi)]

theorem foldl_advanceBit_eq {bits : List Bool} (h : bits.length ≤ 16) (r : UInt16) :
    bits.foldl advanceBit r = shiftBit^[bits.length] (r ^^^ aligned bits) := by
  induction bits generalizing r with
  | nil => rw [aligned, UInt16.xor_zero]; rfl
  | cons b bits ih =>
    have hlow : (aligned bits).toBitVec.getMsbD 15 = false := by
      rw [getMsbD_aligned bits (by decide), List.getElem?_eq_none (Nat.le_of_succ_le_succ h),
        Option.getD_none]
    rw [List.foldl_cons, ih (Nat.le_of_succ_le h), List.length_cons, Function.iterate_succ_apply,
      aligned, ← UInt16.xor_assoc, shiftBit_xor, shiftBit_shiftRight hlow, advanceBit]

theorem aligned_ne_zero {bits : List Bool} (h : bits.length ≤ 16) (hset : true ∈ bits) :
    aligned bits ≠ 0 := by
  intro hzero
  obtain ⟨i, hi, hget⟩ := List.getElem_of_mem hset
  have hbit := getMsbD_aligned bits (Nat.lt_of_lt_of_le hi h)
  rw [hzero, List.getElem?_eq_getElem hi, hget] at hbit
  simp at hbit

theorem aligned_byteBits (b : UInt8) : aligned (Bytes.byteBits b) = b.toUInt16 <<< 8 := by
  have hplace : ((8 : UInt16).toBitVec % 16).toNat = 8 := rfl
  refine UInt16.eq_of_toBitVec_eq (BitVec.eq_of_getMsbD_eq fun i hi => ?_)
  rw [getMsbD_aligned _ hi, Bytes.getElem?_byteBits, UInt16.toBitVec_shiftLeft,
    UInt8.toBitVec_toUInt16, BitVec.shiftLeft_eq', hplace, BitVec.getMsbD_shiftLeft]
  simp

theorem shiftByte_eq (r : UInt16) : shiftByte r = shiftBit^[8] r := rfl

theorem shiftByte_xor (r s : UInt16) : shiftByte (r ^^^ s) = shiftByte r ^^^ shiftByte s :=
  shiftBit_iterate_xor 8 r s

theorem advanceBitwise_eq (r : UInt16) (b : UInt8) :
    advanceBitwise r b = (Bytes.byteBits b).foldl advanceBit r := by
  rw [foldl_advanceBit_eq (by rw [Bytes.length_byteBits]; decide), Bytes.length_byteBits,
    aligned_byteBits, ← shiftByte_eq, advanceBitwise]

/-- Bits that have room in front of them only move. -/
theorem toBitVec_shiftBit_iterate {r : UInt16} (n : Nat)
    (h : ∀ i < n, r.toBitVec.getMsbD i = false) :
    (shiftBit^[n] r).toBitVec = r.toBitVec <<< n := by
  have hplace : ((1 : UInt16).toBitVec % 16).toNat = 1 := rfl
  induction n with
  | zero => rw [BitVec.shiftLeft_zero]; rfl
  | succ n ih =>
    have hmoved := ih fun i hi => h i (Nat.lt_succ_of_lt hi)
    have htop : (shiftBit^[n] r).toBitVec.msb = false := by
      rw [hmoved, BitVec.msb, BitVec.getMsbD_shiftLeft, Nat.zero_add]
      exact h n (Nat.lt_succ_self n)
    rw [Function.iterate_succ_apply', shiftBit_eq, if_neg (by simp [htop]), UInt16.xor_zero,
      UInt16.toBitVec_shiftLeft, BitVec.shiftLeft_eq', hplace, hmoved, BitVec.shiftLeft_add]

theorem shiftByte_toUInt16 (b : UInt8) : shiftByte b.toUInt16 = b.toUInt16 <<< 8 := by
  have hplace : ((8 : UInt16).toBitVec % 16).toNat = 8 := rfl
  refine UInt16.eq_of_toBitVec_eq ?_
  rw [shiftByte_eq, toBitVec_shiftBit_iterate, UInt16.toBitVec_shiftLeft, BitVec.shiftLeft_eq',
    hplace]
  intro i hi
  rw [UInt8.toBitVec_toUInt16, BitVec.getMsbD_setWidth]
  simp [Nat.not_le.mpr hi]

theorem entry_eq (b : UInt8) : entry b = shiftByte (b.toUInt16 <<< 8) := by
  have hlt : b.toNat < 256 := b.toNat_lt
  have hentry : entry b = table[b.toNat] := rfl
  have hword : b.toNat.toUInt16 = b.toUInt16 := UInt16.toNat.inj (by simp)
  simp only [hentry, table, Vector.getElem_ofFn, hword]

/-- The two bytes of the register. -/
theorem eq_low_xor_high (r : UInt16) :
    r = r.toUInt8.toUInt16 ^^^ ((r >>> 8).toUInt8.toUInt16 <<< 8) := by
  have hplace : ((8 : UInt16).toBitVec % 16).toNat = 8 := rfl
  refine UInt16.eq_of_toBitVec_eq (BitVec.eq_of_getLsbD_eq fun i hi => ?_)
  rw [UInt16.toBitVec_xor, UInt16.toBitVec_shiftLeft, UInt8.toBitVec_toUInt16,
    UInt8.toBitVec_toUInt16, UInt16.toBitVec_toUInt8, UInt16.toBitVec_toUInt8,
    UInt16.toBitVec_shiftRight, BitVec.shiftLeft_eq', BitVec.ushiftRight_eq', hplace]
  by_cases hlow : i < 8
  · simp [hlow, hi]
  · have hhigh : i - 8 < 8 := by omega
    have hplaced : 8 + (i - 8) = i := by omega
    simp [hlow, hi, hhigh, hplaced]

/-- The table does eight bit steps at once. -/
theorem advance_eq_advanceBitwise (r : UInt16) (b : UInt8) : advance r b = advanceBitwise r b := by
  have hlow : r.toUInt8.toUInt16 <<< 8 = r <<< 8 := by
    apply UInt16.toNat.inj
    rw [UInt16.toNat_shiftLeft, UInt16.toNat_shiftLeft]
    simp [Nat.shiftLeft_eq]
    omega
  have hsplit : r ^^^ (b.toUInt16 <<< 8) =
      r.toUInt8.toUInt16 ^^^ (((r >>> 8).toUInt8 ^^^ b).toUInt16 <<< 8) := by
    rw [UInt8.toUInt16_xor, UInt16.shiftLeft_xor, ← UInt16.xor_assoc, ← eq_low_xor_high]
  rw [advance, entry_eq, advanceBitwise, hsplit, shiftByte_xor, shiftByte_toUInt16, hlow]

/-- The checksum takes the data bit by bit. -/
theorem crc_eq_foldl_bits (data : Bytes) : crc data = data.bits.foldl advanceBit seed := by
  unfold crc
  generalize seed = r
  induction data generalizing r with
  | nil => rfl
  | cons b data ih =>
    rw [List.foldl_cons, ih, Bytes.bits_cons, List.foldl_append, advance_eq_advanceBitwise,
      advanceBitwise_eq]

/-- The checksums differ by what the difference leaves in an empty register. -/
theorem crc_xor_crc {a b : Bytes} (h : a.length = b.length) :
    crc a ^^^ crc b = remainder (a.difference b) := by
  have hbits : a.bits.length = b.bits.length := by rw [Bytes.length_bits, Bytes.length_bits, h]
  rw [crc_eq_foldl_bits, crc_eq_foldl_bits, foldl_advanceBit_xor hbits, UInt16.xor_self]
  rfl

end Crc

end SspUpdate
