import Mathlib.Tactic.Ring

/-!
# Positions on a power-of-two ring

Unbounded positions are stored in a ring of `2 ^ shift` cells. A mask selects the cell of a
position and the truncated quotient tells the laps apart.
-/

namespace Menagerie.RingIndex

open BitVec

theorem and_mask_eq_emod (position : Int) {width shift : Nat} (fits : shift < width) :
    (BitVec.ofInt width position &&& (BitVec.ofNat width (2 ^ shift) - 1)).toNat =
      (position % 2 ^ shift).toNat := by
  have positive : 0 < 2 ^ shift := Nat.two_pow_pos shift
  have below : 2 ^ shift < 2 ^ width := Nat.pow_lt_pow_right (by decide) fits
  have mask : (BitVec.ofNat width (2 ^ shift) - 1).toNat = 2 ^ shift - 1 := by
    have one : (1 : BitVec width).toNat = 1 := by
      rw [ofNat_eq_ofNat, toNat_ofNat, Nat.mod_eq_of_lt (Nat.lt_of_le_of_lt positive below)]
    have value : (BitVec.ofNat width (2 ^ shift)).toNat = 2 ^ shift := by
      rw [toNat_ofNat, Nat.mod_eq_of_lt below]
    rw [toNat_sub_of_le (by rw [le_def, one, value]; omega), one, value]
  have divides : (2 : Int) ^ shift ∣ 2 ^ width := pow_dvd_pow 2 fits.le
  have lifted : ((2 ^ shift : Nat) : Int) = 2 ^ shift := by push_cast; rfl
  rw [toNat_and, mask, Nat.and_two_pow_sub_one_eq_mod, toNat_ofInt]
  have wide : 0 ≤ position % ((2 ^ width : Nat) : Int) := by
    refine Int.emod_nonneg position ?_
    have := Nat.two_pow_pos width
    omega
  apply Int.ofNat.inj
  simp only [Int.ofNat_eq_natCast]
  rw [Int.natCast_mod, Int.toNat_of_nonneg wide, lifted,
    Int.emod_emod_of_dvd position (by push_cast; exact divides),
    Int.toNat_of_nonneg (Int.emod_nonneg position (by rw [← lifted]; omega))]

theorem lap_apart {left right size : Int} (positive : 0 < size)
    (same : (left % size).toNat = (right % size).toNat) (differs : left ≠ right) :
    left + size ≤ right ∨ right + size ≤ left := by
  have leftRange := Int.emod_nonneg left (by omega : size ≠ 0)
  have rightRange := Int.emod_nonneg right (by omega : size ≠ 0)
  have remainder : left % size = right % size := by omega
  have leftSplit := Int.mul_ediv_add_emod left size
  have rightSplit := Int.mul_ediv_add_emod right size
  rcases Int.lt_trichotomy (left / size) (right / size) with below | equal | above
  · have scaled : size * (left / size + 1) ≤ size * (right / size) :=
      Int.mul_le_mul_of_nonneg_left (by omega) positive.le
    rw [Int.mul_add, Int.mul_one] at scaled
    omega
  · rw [equal] at leftSplit
    omega
  · have scaled : size * (right / size + 1) ≤ size * (left / size) :=
      Int.mul_le_mul_of_nonneg_left (by omega) positive.le
    rw [Int.mul_add, Int.mul_one] at scaled
    omega

/-- Consecutive laps have different truncated numbers. -/
theorem lap_succ_ne {width : Nat} (wide : 0 < width) (lap : Int) :
    BitVec.ofInt width (lap - 1) ≠ BitVec.ofInt width lap := by
  intro same
  have step : BitVec.ofInt width lap = BitVec.ofInt width (lap - 1) + BitVec.ofInt width 1 := by
    rw [← ofInt_add]
    congr 1
    omega
  rw [same] at step
  have zero : BitVec.ofInt width 1 = BitVec.ofNat width 0 := BitVec.self_eq_add_right.mp step
  have value := congrArg BitVec.toNat zero
  have power : 2 ≤ 2 ^ width := by
    calc 2 = 2 ^ 1 := rfl
      _ ≤ 2 ^ width := Nat.pow_le_pow_right (by decide) wide
  rw [toNat_ofInt, toNat_ofNat] at value
  have small : (1 : Int) % ((2 ^ width : Nat) : Int) = 1 :=
    Int.emod_eq_of_lt (by decide) (by omega)
  rw [small] at value
  simp at value

end Menagerie.RingIndex
