import Mathlib.Data.Finset.Card
import Mathlib.Tactic.Ring

/-!
# Machine words as sets of bits

A word stands for the set of its bit positions. `word &&& (word - 1)` removes the lowest
member, which `ctz` names; or-ing and masking one power of two insert and remove a chosen
member; the population count is the number of members. The lemmas state each operation by
its effect on `getLsbD`, for every width.
-/

namespace Menagerie.BitWord

open BitVec

variable {width : Nat}

theorem toNat_split (word : BitVec width) (nonzero : word ≠ BitVec.ofNat width 0) :
    word.toNat = 2 ^ (word.ctz.toNat + 1) * (word.toNat / 2 ^ (word.ctz.toNat + 1)) +
      2 ^ word.ctz.toNat := by
  have low : word.toNat % 2 ^ (word.ctz.toNat + 1) = 2 ^ word.ctz.toNat := by
    apply Nat.eq_of_testBit_eq
    intro index
    rw [Nat.testBit_mod_two_pow, Nat.testBit_two_pow, ← getLsbD]
    rcases Nat.lt_trichotomy index word.ctz.toNat with below | same | above
    · rw [getLsbD_false_of_lt_ctz below]
      simp [show ¬ word.ctz.toNat = index by omega]
    · subst same
      rw [getLsbD_true_ctz_of_ne_zero nonzero]
      simp
    · simp [show ¬ index < word.ctz.toNat + 1 by omega,
        show ¬ word.ctz.toNat = index by omega]
  conv_lhs => rw [← Nat.div_add_mod word.toNat (2 ^ (word.ctz.toNat + 1)), low]

/-- Clearing the lowest bit of a split number removes its odd power. -/
theorem and_pred_split (bit quotient : Nat) :
    (2 ^ (bit + 1) * quotient + 2 ^ bit) &&& (2 ^ (bit + 1) * quotient + 2 ^ bit - 1) =
      2 ^ (bit + 1) * quotient := by
  have positive : 0 < 2 ^ bit := Nat.two_pow_pos bit
  have double : 2 ^ (bit + 1) = 2 * 2 ^ bit := by ring
  have pred : 2 ^ (bit + 1) * quotient + 2 ^ bit - 1 =
      2 ^ (bit + 1) * quotient + (2 ^ bit - 1) := by omega
  rw [pred]
  apply Nat.eq_of_testBit_eq
  intro index
  rw [Nat.testBit_and, Nat.testBit_two_pow_mul_add _ (by omega),
    Nat.testBit_two_pow_mul_add _ (by omega), Nat.testBit_two_pow_mul]
  by_cases below : index < bit + 1
  · simp only [below, ↓reduceIte, Nat.testBit_two_pow, Nat.testBit_two_pow_sub_one,
      show ¬ index ≥ bit + 1 by omega, decide_false, Bool.false_and]
    by_cases same : bit = index
    · simp [same]
    · simp [same]
  · simp [below, show index ≥ bit + 1 by omega]

section

variable (word : BitVec width)

include word

theorem getLsbD_clear_lowest (nonzero : word ≠ BitVec.ofNat width 0) (index : Nat) :
    (word &&& (word - BitVec.ofNat width 1)).getLsbD index =
      (word.getLsbD index && decide (index ≠ word.ctz.toNat)) := by
  have split := toNat_split word nonzero
  have positive : 0 < 2 ^ word.ctz.toNat := Nat.two_pow_pos _
  have bound : word.toNat < 2 ^ width := word.isLt
  have wide : 1 < 2 ^ width ∨ width = 0 := by
    rcases Nat.eq_zero_or_pos width with zero | some
    · exact .inr zero
    · exact .inl (Nat.one_lt_two_pow (by omega))
  have pred : (word - BitVec.ofNat width 1).toNat = word.toNat - 1 := by
    rcases wide with wide | zero
    · rw [toNat_sub, toNat_ofNat, Nat.mod_eq_of_lt wide,
        show 2 ^ width - 1 + word.toNat = word.toNat - 1 + 2 ^ width by omega,
        Nat.add_mod_right, Nat.mod_eq_of_lt (by omega)]
    · subst zero
      exact absurd (of_length_zero) nonzero
  have cleared : (word &&& (word - BitVec.ofNat width 1)).toNat =
      2 ^ (word.ctz.toNat + 1) * (word.toNat / 2 ^ (word.ctz.toNat + 1)) := by
    rw [toNat_and, pred]
    conv_lhs => rw [split]
    exact and_pred_split _ _
  rw [getLsbD, cleared, getLsbD]
  conv_rhs => rw [split]
  rw [Nat.testBit_two_pow_mul, Nat.testBit_two_pow_mul_add _
    (Nat.pow_lt_pow_right (by decide) (Nat.lt_succ_self _))]
  by_cases below : index < word.ctz.toNat + 1
  · simp only [below, ↓reduceIte, Nat.testBit_two_pow,
      show ¬ index ≥ word.ctz.toNat + 1 by omega, decide_false, Bool.false_and]
    by_cases same : word.ctz.toNat = index
    · simp [same]
    · simp [same]
  · simp [below, show index ≥ word.ctz.toNat + 1 by omega,
      show ¬ index = word.ctz.toNat by omega]

theorem lowest_lt (nonzero : word ≠ BitVec.ofNat width 0) : word.ctz.toNat < width := by
  have present := getLsbD_true_ctz_of_ne_zero nonzero
  by_contra outside
  rw [getLsbD_of_ge _ _ (by omega)] at present
  cases present

theorem getLsbD_insert (bit index : Nat) :
    (word ||| twoPow width bit).getLsbD index =
      (word.getLsbD index || decide (index < width ∧ index = bit)) := by
  rw [getLsbD_or, getLsbD_twoPow]
  by_cases same : index = bit
  · simp [same]
  · simp [same, Ne.symm same]

theorem getLsbD_remove (bit index : Nat) :
    (word &&& ~~~ twoPow width bit).getLsbD index =
      (word.getLsbD index && decide (index ≠ bit)) := by
  rw [getLsbD_and, getLsbD_not, getLsbD_twoPow]
  by_cases inside : index < width
  · by_cases same : index = bit
    · simp [same, show bit < width by omega]
    · simp [same, inside, Ne.symm same]
  · simp [getLsbD_of_ge word index (by omega)]

theorem cpopNatRec_eq_card (bound : Nat) :
    word.cpopNatRec bound 0 =
      ((Finset.range bound).filter (fun index => word.getLsbD index = true)).card := by
  induction bound with
  | zero => simp
  | succ bound ih =>
    rw [cpopNatRec_succ, cpopNatRec_eq, ih, Finset.range_add_one,
      Finset.filter_insert]
    cases set : word.getLsbD bound with
    | false => simp
    | true =>
      rw [if_pos rfl, Finset.card_insert_of_notMem (by simp)]
      simp

end

end Menagerie.BitWord
