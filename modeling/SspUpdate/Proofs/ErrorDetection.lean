import Mathlib.Algebra.Ring.Parity
import Mathlib.Data.List.Iterate
import SspUpdate.Proofs.Framing
import SspUpdate.Proofs.Register

/-!
# Errors that the checksum detects

An odd number of wrong bits leaves a register of odd parity. Wrong bits that
are all within sixteen fill the register at most once and are not lost. Of two
wrong bits the second would have to meet the first as it comes back to the top
of the register, which takes more bit steps than a packet has bits. So a packet
that is disturbed in such a way behind its length and in front of its checksum
is refused by a decoder.
-/

namespace SspUpdate

/-- How a byte string came to be another of the same length. -/
inductive Disturbed (a b : Bytes) : Prop where
  /-- An odd number of bits is wrong. -/
  | odd (h : Odd ((a.difference b).count true))
  /-- Two bits are wrong. -/
  | pair (h : (a.difference b).count true = 2)
  /-- Some bits are wrong, all of them within sixteen. -/
  | burst (hne : a ≠ b) (start : Nat)
      (h : ∀ i, (a.difference b)[i]? = some true → start ≤ i ∧ i < start + 16)

namespace Bytes

theorem byteBits_injective : Function.Injective byteBits := by
  intro b c h
  refine UInt8.eq_of_toBitVec_eq (BitVec.eq_of_getMsbD_eq fun i _ => ?_)
  rw [← getElem?_byteBits, h, getElem?_byteBits]

theorem eq_of_bits_eq {a b : Bytes} (hlen : a.length = b.length) (h : a.bits = b.bits) : a = b := by
  induction a generalizing b with
  | nil => exact (List.length_eq_zero_iff.mp hlen.symm).symm
  | cons x a ih =>
    obtain ⟨y, b, rfl⟩ := List.exists_cons_of_length_eq_add_one hlen.symm
    rw [bits_cons, bits_cons] at h
    obtain ⟨hfirst, hrest⟩ := List.append_inj h (by rw [length_byteBits, length_byteBits])
    rw [byteBits_injective hfirst, ih (Nat.succ.inj hlen) hrest]

theorem true_mem_zipWith_xor {xs ys : List Bool} (hlen : xs.length = ys.length) (hne : xs ≠ ys) :
    true ∈ List.zipWith xor xs ys := by
  induction xs generalizing ys with
  | nil => exact absurd (List.length_eq_zero_iff.mp hlen.symm).symm hne
  | cons x xs ih =>
    obtain ⟨y, ys, rfl⟩ := List.exists_cons_of_length_eq_add_one hlen.symm
    rw [List.zipWith_cons_cons, List.mem_cons]
    by_cases hxy : x = y
    · exact .inr (ih (Nat.succ.inj hlen) fun h => hne (by rw [hxy, h]))
    · exact .inl (by rw [Bool.eq_not_of_ne hxy, Bool.not_xor_self])

/-- Byte strings of one length that are not the same differ in a bit. -/
theorem true_mem_difference {a b : Bytes} (h : a.length = b.length) (hne : a ≠ b) :
    true ∈ a.difference b :=
  true_mem_zipWith_xor (by rw [length_bits, length_bits, h]) (mt (eq_of_bits_eq h) hne)

end Bytes

namespace Crc

theorem remainder_ne_zero_of_odd {bits : List Bool} (h : Odd (bits.count true)) :
    remainder bits ≠ 0 := by
  intro hzero
  have hparity := parity_foldl_advanceBit bits 0
  have hempty : parity 0 = false := by decide
  rw [← remainder, hzero, hempty, Bool.false_xor] at hparity
  have := Nat.mod_two_of_bodd (bits.count true)
  rw [← hparity, Nat.odd_iff.mp h] at this
  cases this

theorem remainder_ne_zero_of_short {bits : List Bool} (h : bits.length ≤ 16) (hset : true ∈ bits) :
    remainder bits ≠ 0 := by
  rw [remainder, foldl_advanceBit_eq h, UInt16.zero_xor]
  exact shiftBit_iterate_ne_zero (aligned_ne_zero h hset) _

theorem remainder_ne_zero_of_window {bits : List Bool} {start : Nat} (hset : true ∈ bits)
    (h : ∀ i, bits[i]? = some true → start ≤ i ∧ i < start + 16) : remainder bits ≠ 0 := by
  have hbefore : true ∉ bits.take start := by
    intro hmem
    obtain ⟨i, hi, hget⟩ := List.getElem_of_mem hmem
    rw [List.length_take] at hi
    have hwhole : bits[i]? = some true := by
      rw [← hget, List.getElem_take, List.getElem?_eq_getElem]
    have := h i hwhole
    omega
  have hbehind : true ∉ (bits.drop start).drop 16 := by
    intro hmem
    obtain ⟨i, hget⟩ := List.getElem?_of_mem hmem
    rw [List.getElem?_drop, List.getElem?_drop] at hget
    have := h _ hget
    omega
  have hsplit : bits =
      bits.take start ++ (bits.drop start).take 16 ++ (bits.drop start).drop 16 := by
    rw [List.append_assoc, List.take_append_drop, List.take_append_drop]
  have hwindow : true ∈ (bits.drop start).take 16 := by
    rw [hsplit, List.mem_append, List.mem_append] at hset
    exact (hset.resolve_right hbehind).resolve_left hbefore
  rw [hsplit, remainder_between hbefore hbehind]
  exact shiftBit_iterate_ne_zero (remainder_ne_zero_of_short (List.length_take_le _ _) hwindow) _

/-- A bit that has gone through the register is not at the top again for all of a packet. -/
theorem shiftBit_iterate_ne_top {n : Nat} (hpos : 0 < n) (hn : n < 2056) :
    shiftBit^[n] 0x8000 ≠ 0x8000 := by
  have hfresh : (0x8000 : UInt16) ∉ List.iterate shiftBit (shiftBit 0x8000) 2055 := by
    decide +kernel
  intro hback
  obtain ⟨m, rfl⟩ := Nat.exists_eq_add_of_lt hpos
  rw [Nat.zero_add, Function.iterate_succ_apply] at hback
  exact hfresh (List.mem_iterate.mpr ⟨m, by omega, hback.symm⟩)

theorem exists_of_count_succ {bits : List Bool} {n : Nat} (h : bits.count true = n + 1) :
    ∃ before rest, bits = before ++ true :: rest ∧ true ∉ before ∧ rest.count true = n := by
  have hmem : true ∈ bits := List.count_pos_iff.mp (by omega)
  obtain ⟨before, rest, rfl, hbefore⟩ := List.eq_append_cons_of_mem hmem
  refine ⟨before, rest, rfl, hbefore, ?_⟩
  rw [List.count_append, List.count_eq_zero.mpr hbefore, List.count_cons_self] at h
  omega

theorem remainder_ne_zero_of_pair {bits : List Bool} (hlen : bits.length ≤ 2056)
    (h : bits.count true = 2) : remainder bits ≠ 0 := by
  obtain ⟨before, rest, rfl, hbefore, hrest⟩ := exists_of_count_succ h
  obtain ⟨between, behind, rfl, hbetween, hbehind⟩ := exists_of_count_succ hrest
  have hnone : true ∉ behind := List.count_eq_zero.mp hbehind
  have hapart : between.length + 1 < 2056 := by
    simp only [List.length_append, List.length_cons] at hlen
    omega
  have htwo : remainder (true :: between ++ [true]) =
      shiftBit (shiftBit^[between.length + 1] 0x8000 ^^^ 0x8000) := by
    have hfirst : (true :: between).foldl advanceBit 0 = shiftBit^[between.length + 1] 0x8000 :=
      foldl_advanceBit_zeros hbetween _
    rw [remainder, List.foldl_append, hfirst]
    rfl
  have hsplit : before ++ true :: (between ++ true :: behind) =
      before ++ (true :: between ++ [true]) ++ behind := by
    simp
  rw [hsplit, remainder_between hbefore hnone, htwo]
  refine shiftBit_iterate_ne_zero (mt shiftBit_eq_zero ?_) _
  rw [UInt16.xor_eq_zero_iff]
  exact shiftBit_iterate_ne_top (Nat.succ_pos _) hapart

end Crc

namespace Disturbed

/-- A disturbed string that is not too long for a packet has another checksum. -/
theorem crc_ne {a b : Bytes} (h : Disturbed a b) (hlen : a.length = b.length)
    (hshort : a.length ≤ 257) : crc a ≠ crc b := by
  rw [ne_eq, ← UInt16.xor_eq_zero_iff, Crc.crc_xor_crc hlen]
  cases h with
  | odd h => exact Crc.remainder_ne_zero_of_odd h
  | pair h =>
    refine Crc.remainder_ne_zero_of_pair ?_ h
    rw [Bytes.length_difference hlen]
    omega
  | burst hne start h =>
    exact Crc.remainder_ne_zero_of_window (Bytes.true_mem_difference hlen hne) h

/-- A packet whose first byte and data are disturbed is refused at its last byte. -/
theorem feed_refuses {p q : Packet} (h : Disturbed p.content q.content)
    (hp : p.data.length ≤ 255) (hlen : q.data.length = p.data.length) :
    let frame := startByte :: Packet.stuff (q.bodyWith (crc p.content))
    Decoder.idle.feed frame = (Decoder.quiet (frame.length - 1) ++
      [.error (.crcMismatch (crc q.content) (crc p.content))], .idle) := by
  have hcontent : p.content.length = q.content.length := by
    rw [p.length_content, q.length_content, hlen]
  have hne := h.crc_ne hcontent (by rw [p.length_content]; omega)
  have hverdict : Decoder.verdict q (crc p.content) =
    .error (.crcMismatch (crc q.content) (crc p.content)) := if_neg hne
  rw [← hverdict]
  exact Decoder.feed_stuff_bodyWith (hlen ▸ hp) _

end Disturbed

/-- The checksum detects an odd number of wrong bits, two wrong bits, and wrong bits within
sixteen. A packet that is disturbed so in its first byte and its data, with its length and its
checksum as they were, is answered by an error at its last byte and by nothing before. -/
theorem disturbed_detected :
    (∀ a b : Bytes, a.length = b.length → a.length ≤ 257 → Disturbed a b → crc a ≠ crc b) ∧
    ∀ (p q : Packet) (sent : Bytes), p.encode = .ok sent → q.data.length = p.data.length →
      Disturbed p.content q.content →
        let frame := startByte :: Packet.stuff (q.content ++ Packet.checkBytes (crc p.content))
        let mismatch : Error := .crcMismatch (crc q.content) (crc p.content)
        mismatch.kind = .protocol ∧ Decoder.idle.feed frame =
          (Decoder.quiet (frame.length - 1) ++ [.error mismatch], .idle) := by
  refine ⟨fun a b hlen hshort h => h.crc_ne hlen hshort, fun p q sent hsent hlen h => ?_⟩
  exact ⟨rfl, h.feed_refuses (p.exists_encode_iff.mp ⟨sent, hsent⟩) hlen⟩

/-- One bit of the address and one of the data are wrong. -/
theorem disturbed_detected_pair :
    let p : Packet := ⟨0x80, [0x11, 0x7F]⟩
    let q : Packet := ⟨0x84, [0x11, 0x7E]⟩
    let frame := startByte :: Packet.stuff (q.content ++ Packet.checkBytes (crc p.content))
    Disturbed p.content q.content ∧ (∃ sent, p.encode = .ok sent) ∧
      crc p.content ≠ crc q.content ∧
      Decoder.idle.feed frame = (Decoder.quiet (frame.length - 1) ++
        [.error (.crcMismatch (crc q.content) (crc p.content))], .idle) := by
  intro p q frame
  have hpair : Disturbed p.content q.content := .pair (by decide)
  have hsent : p.encode = .ok p.framed := Packet.encode_eq (by decide)
  have hdetected := disturbed_detected
  exact ⟨hpair, ⟨_, hsent⟩, hdetected.1 _ _ rfl (by decide) hpair,
    (hdetected.2 p q _ hsent rfl hpair).2⟩

end SspUpdate
