import Mathlib.Data.List.Range

/-!
# Counting the parties in a state

The number of parties below a bound whose state satisfies a test, and how it changes when one of
them moves.
-/

namespace Menagerie.Census

open Function List

variable {Local : Type}

/-- How many of the first `size` parties are counted. -/
def census (counted : Local → Bool) (parties : Nat → Local) (size : Nat) : Nat :=
  (range size).countP (fun party => counted (parties party))

theorem census_succ (counted : Local → Bool) (parties : Nat → Local) (size : Nat) :
    census counted parties (size + 1) =
      census counted parties size + (counted (parties size)).toNat := by
  rw [census, census, range_succ, countP_append, countP_singleton]
  cases counted (parties size) <;> rfl

section

variable {counted : Local → Bool} {parties : Nat → Local} {size : Nat}

theorem census_pos {party : Nat} (known : party < size) (here : counted (parties party) = true) :
    0 < census counted parties size :=
  countP_pos_iff.mpr ⟨party, mem_range.mpr known, here⟩

theorem exists_of_census_pos (some : 0 < census counted parties size) :
    ∃ party < size, counted (parties party) = true := by
  obtain ⟨party, member, here⟩ := countP_pos_iff.mp some
  exact ⟨party, mem_range.mp member, here⟩

theorem census_all (all : ∀ party < size, counted (parties party) = true) :
    census counted parties size = size := by
  rw [census, countP_eq_length.mpr, length_range]
  intro party member
  exact all party (mem_range.mp member)

end

section

variable (counted : Local → Bool) (parties : Nat → Local) {size : Nat}

include counted parties

theorem census_beyond {party : Nat} (beyond : size ≤ party) (state : Local) :
    census counted (update parties party state) size = census counted parties size := by
  refine countP_congr ?_
  intro other member
  have below := mem_range.mp member
  rw [update_of_ne (by omega)]

theorem census_update {party : Nat} (known : party < size) (state : Local) :
    census counted (update parties party state) size + (counted (parties party)).toNat =
      census counted parties size + (counted state).toNat := by
  induction size with
  | zero => omega
  | succ size ih =>
    rw [census_succ, census_succ]
    by_cases last : party = size
    · rw [last, update_self, census_beyond counted parties le_rfl]
      omega
    · have before := ih (by omega)
      rw [update_of_ne (Ne.symm last)]
      omega

theorem census_update_two {first second : Nat} (inside : first < size ∧ second < size)
    (apart : first ≠ second) (left right : Local) :
    census counted (update (update parties second right) first left) size +
        ((counted (parties first)).toNat + (counted (parties second)).toNat) =
      census counted parties size + ((counted left).toNat + (counted right).toNat) := by
  have one := census_update counted parties inside.2 right
  have two := census_update counted (update parties second right) inside.1 left
  rw [update_of_ne apart] at two
  omega

end

end Menagerie.Census
