import Mathlib.Algebra.CharP.Two
import Mathlib.Algebra.Field.ZMod
import Mathlib.Algebra.Polynomial.Div
import Mathlib.Tactic.LinearCombination
import SspUpdate.Proofs.Register

/-!
# The checksum as a remainder

Bits are the coefficients of a polynomial over two elements, highest first. A
bit step multiplies by `X`, and what falls out of the register is taken off
together with the rest of the divisor `X ^ 16 + X ^ 15 + X ^ 2 + 1`. So the
checksum is the remainder of the data with sixteen zeros behind it, where the
start value is added to the first sixteen bits. It may be computed bit by bit
or through the table, and in as many pieces as one likes.
-/

namespace SspUpdate

namespace Crc

open Polynomial

/-- The polynomial whose coefficients are the bits, highest first. -/
noncomputable def polynomial : List Bool → (ZMod 2)[X]
  | [] => 0
  | b :: bits => C (b.toNat : ZMod 2) * X ^ bits.length + polynomial bits

theorem polynomial_append (xs ys : List Bool) :
    polynomial (xs ++ ys) = polynomial xs * X ^ ys.length + polynomial ys := by
  induction xs with
  | nil => rw [List.nil_append, polynomial, zero_mul, zero_add]
  | cons b xs ih =>
    rw [List.cons_append, polynomial, polynomial, ih, List.length_append]
    ring

theorem degree_polynomial_lt (bits : List Bool) : (polynomial bits).degree < bits.length := by
  induction bits with
  | nil => simp [polynomial]
  | cons b bits ih =>
    have hlength : (bits.length : WithBot ℕ) < (b :: bits).length := by
      rw [List.length_cons]
      exact_mod_cast Nat.lt_succ_self bits.length
    rw [polynomial]
    refine lt_of_le_of_lt (degree_add_le _ _) (max_lt ?_ (ih.trans hlength))
    exact lt_of_le_of_lt (degree_C_mul_X_pow_le _ _) hlength

/-- Only zeros make the polynomial zero. -/
theorem true_not_mem_of_polynomial_eq_zero {bits : List Bool} (h : polynomial bits = 0) :
    true ∉ bits := by
  induction bits with
  | nil => exact List.not_mem_nil
  | cons b bits ih =>
    have hb : b = false := by
      have hcoeff := congrArg (coeff · bits.length) h
      have hrest : (polynomial bits).coeff bits.length = 0 :=
        coeff_eq_zero_of_degree_lt (degree_polynomial_lt bits)
      simp only [polynomial, coeff_add, coeff_C_mul, coeff_X_pow, hrest, coeff_zero] at hcoeff
      revert hcoeff
      cases b <;> simp
    subst hb
    have hbits : polynomial bits = 0 := by
      rw [polynomial] at h
      simpa using h
    simpa using ih hbits

/-- The polynomial of the bits in the register. -/
noncomputable def residue (r : UInt16) : (ZMod 2)[X] := polynomial (places r)

theorem length_places (r : UInt16) : (places r).length = 16 := by simp [places]

theorem eq_zero_of_places {r : UInt16} (h : true ∉ places r) : r = 0 := by
  refine UInt16.eq_of_toBitVec_eq (BitVec.eq_of_getMsbD_eq fun i hi => ?_)
  have hbit : r.toBitVec.getMsbD i ∈ places r := List.mem_map.mpr ⟨i, List.mem_range.mpr hi, rfl⟩
  rw [Bool.eq_false_of_not_eq_true fun htrue => h (htrue ▸ hbit)]
  simp

theorem degree_residue_lt (r : UInt16) : (residue r).degree < 16 := by
  have h := degree_polynomial_lt (places r)
  rwa [length_places] at h

theorem residue_xor (r s : UInt16) : residue (r ^^^ s) = residue r + residue s := by
  have hbit (a b : Bool) : ((a ^^ b).toNat : ZMod 2) = a.toNat + b.toNat := by
    cases a <;> cases b <;> decide
  unfold residue places
  induction List.range 16 with
  | nil => exact (add_zero 0).symm
  | cons i rest ih =>
    rw [List.map_cons, polynomial, ih, UInt16.toBitVec_xor, BitVec.getMsbD_xor, hbit, C_add]
    simp only [List.map_cons, polynomial, List.length_map]
    ring

theorem residue_injective : Function.Injective residue := by
  intro r s h
  have hzero : residue (r ^^^ s) = 0 := by
    rw [residue_xor, h, CharTwo.add_self_eq_zero]
  rw [← UInt16.xor_eq_zero_iff]
  exact eq_zero_of_places (true_not_mem_of_polynomial_eq_zero hzero)

/-- The generator with its leading term. -/
noncomputable def divisor : (ZMod 2)[X] := X ^ 16 + X ^ 15 + X ^ 2 + 1

theorem residue_generator : residue generator = X ^ 15 + (X ^ 2 + 1) := by
  have hplaces : places generator = [true, false, false, false, false, false, false, false, false,
      false, false, false, false, true, false, true] := by decide
  rw [residue, hplaces]
  simp [polynomial]

theorem divisor_eq : divisor = X ^ 16 + residue generator := by
  rw [divisor, residue_generator]
  ring

theorem divisor_monic : divisor.Monic := by
  rw [divisor_eq]
  exact monic_X_pow_add (degree_residue_lt generator)

theorem degree_divisor : divisor.degree = 16 := by
  rw [divisor_eq, degree_add_eq_left_of_degree_lt, degree_X_pow]
  · rfl
  · rw [degree_X_pow]
    exact degree_residue_lt generator

theorem residue_shiftLeft (r : UInt16) :
    C (r.toBitVec.msb.toNat : ZMod 2) * X ^ 16 + residue (r <<< 1) = residue r * X := by
  have h := congrArg polynomial (places_shiftLeft r)
  have hfilled : polynomial [false] = 0 := by simp [polynomial]
  rw [polynomial, length_places, polynomial_append, hfilled, add_zero, List.length_singleton,
    pow_one] at h
  exact h

/-- A bit step multiplies by `X`, and takes the divisor off if a bit falls out. -/
theorem residue_shiftBit (r : UInt16) :
    residue (shiftBit r) = residue r * X + C (r.toBitVec.msb.toNat : ZMod 2) * divisor := by
  have hzero : residue 0 = 0 := by
    have h := residue_xor 0 0
    rwa [UInt16.xor_self, CharTwo.add_self_eq_zero] at h
  have htwice : (X ^ 16 + X ^ 16 : (ZMod 2)[X]) = 0 := CharTwo.add_self_eq_zero _
  rw [shiftBit_eq, residue_xor, ← residue_shiftLeft, divisor_eq]
  cases r.toBitVec.msb
  · simp [hzero]
  · simp only [if_true, Bool.toNat_true, Nat.cast_one, C_1]
    linear_combination -htwice

theorem residue_topBit (b : Bool) : residue (topBit b) = C (b.toNat : ZMod 2) * X ^ 15 := by
  have hplaces : places (topBit b) = b :: List.replicate 15 false := by
    cases b <;> decide
  have hrest (n : Nat) : polynomial (List.replicate n false) = 0 := by
    induction n with
    | zero => rfl
    | succ n ih => simp [List.replicate_succ, polynomial, ih]
  rw [residue, hplaces, polynomial, hrest, List.length_replicate, add_zero]

/-- What is read of a string of bits differs from it by a multiple of the divisor. -/
theorem divisor_dvd_foldl_advanceBit (bits : List Bool) (r : UInt16) :
    divisor ∣ residue (bits.foldl advanceBit r) -
      (residue r * X ^ bits.length + polynomial bits * X ^ 16) := by
  induction bits generalizing r with
  | nil => simp [polynomial]
  | cons b bits ih =>
    obtain ⟨q, hq⟩ := ih (advanceBit r b)
    have hstep : residue (advanceBit r b) = (residue r + C (b.toNat : ZMod 2) * X ^ 15) * X +
        C ((r ^^^ topBit b).toBitVec.msb.toNat : ZMod 2) * divisor := by
      rw [advanceBit, residue_shiftBit, residue_xor, residue_topBit]
    refine ⟨q + C ((r ^^^ topBit b).toBitVec.msb.toNat : ZMod 2) * X ^ bits.length, ?_⟩
    rw [hstep] at hq
    rw [List.foldl_cons, List.length_cons, polynomial]
    linear_combination hq

/-- The register holds the remainder of what it held and of what was read. -/
theorem residue_foldl_advanceBit (bits : List Bool) (r : UInt16) :
    residue (bits.foldl advanceBit r) =
      (residue r * X ^ bits.length + polynomial bits * X ^ 16) %ₘ divisor := by
  rw [← modByMonic_eq_of_dvd_sub divisor_monic (divisor_dvd_foldl_advanceBit bits r), eq_comm,
    modByMonic_eq_self_iff divisor_monic, degree_divisor]
  exact degree_residue_lt _

/-- The start value, as bits. -/
theorem residue_seed : residue seed = polynomial (List.replicate 16 true) := by
  have hplaces : places seed = List.replicate 16 true := by decide
  rw [residue, hplaces]

end Crc

/-- The table takes eight bit steps at once, from every state of the register and for every byte.
So the checksum is the one computed bit by bit, which is a remainder: of the data with sixteen
zeros behind it, and sixteen ones added to it in front, on division by
`X ^ 16 + X ^ 15 + X ^ 2 + 1`. It may be taken up again behind any part of the data. -/
theorem crc_bit_by_bit :
    (∀ (r : UInt16) (b : UInt8), Crc.advance r b = Crc.advanceBitwise r b) ∧
    (∀ data : Bytes, crc data = Crc.bitwise data) ∧
    (∀ (data : Bytes) (r : UInt16), crc data = r ↔
      Crc.residue r = (Crc.polynomial (List.replicate 16 true) * Polynomial.X ^ data.bits.length +
        Crc.polynomial data.bits * Polynomial.X ^ 16) %ₘ Crc.divisor) ∧
    ∀ before rest : Bytes, (before ++ rest).foldl Crc.advance Crc.seed =
      rest.foldl Crc.advance (crc before) := by
  have hstep : Crc.advance = Crc.advanceBitwise := funext₂ Crc.advance_eq_advanceBitwise
  refine ⟨Crc.advance_eq_advanceBitwise, fun data => ?_, fun data r => ?_, fun before rest => ?_⟩
  · rw [crc, hstep, Crc.bitwise]
  · rw [← Crc.residue_seed, ← Crc.residue_foldl_advanceBit, ← Crc.crc_eq_foldl_bits]
    exact ⟨fun h => h ▸ rfl, fun h => (Crc.residue_injective h).symm⟩
  · exact List.foldl_append

end SspUpdate
