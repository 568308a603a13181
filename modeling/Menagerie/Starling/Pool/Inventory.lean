import Menagerie.Library.Placement
import Menagerie.Starling.Pool.Basic

/-!
# The inventory of a pool

Where each slot is: in one of the two lists, in the idle bitmap, or with one exclusive owner.
This is the pool as its callers account for it, without threads and without a mutex. Every
operation moves slots from one place to another.
-/

namespace Menagerie.Starling.Pool

open Function List

/-- An owner of at most one slot. -/
inductive Cell
  | reserved (token : Nat)
  | borrowed (token : Nat)
  | flight (thread : Nat)
  | waiter (waiter : Nat)
  deriving DecidableEq

/-- Where a slot can be. -/
inductive Place
  | vacant
  | idle
  | quarantined
  | cell (cell : Cell)
  deriving DecidableEq

/-- How the pool counts a slot. -/
inductive Account
  | vacant
  | reserved
  | usable
  | quarantined
  deriving DecidableEq

instance : Fintype Account where
  elems := {.vacant, .reserved, .usable, .quarantined}
  complete account := by cases account <;> simp

/-- The counter that covers a place. -/
def Place.account : Place → Account
  | .vacant => .vacant
  | .quarantined => .quarantined
  | .cell (.reserved _) => .reserved
  | _ => .usable

/-- The entry of `states_` for a slot at a place. -/
def Place.slotState : Place → SlotState
  | .vacant => .vacant
  | .idle => .idle
  | .quarantined => .quarantined
  | .cell (.reserved _) => .reserved
  | .cell _ => .borrowed

/-- The places of all slots. -/
@[ext] structure Inventory where
  vacant : List Nat
  idle : Nat → Bool
  quarantined : List Nat
  cell : Cell → Option Nat

namespace Inventory

/-- The slot is at the place. -/
def holds (inventory : Inventory) : Place → Nat → Prop
  | .vacant, index => index ∈ inventory.vacant
  | .idle, index => inventory.idle index = true
  | .quarantined, index => index ∈ inventory.quarantined
  | .cell cell, index => inventory.cell cell = some index

/-- Put a slot into a cell or take it out. -/
def store (inventory : Inventory) (cell : Cell) (content : Option Nat) : Inventory :=
  { inventory with cell := Function.update inventory.cell cell content }

/-- One owner passes its slot to another. -/
def pass (inventory : Inventory) (source target : Cell) : Inventory :=
  (inventory.store source none).store target (inventory.cell source)

/-- Every slot below the capacity is at exactly one place, once. -/
structure Stocked (inventory : Inventory) (capacity : Nat) : Prop where
  allotted : Placement.Allotted (· < capacity) inventory.holds
  vacantOnce : inventory.vacant.Nodup
  quarantinedOnce : inventory.quarantined.Nodup

/-- Slots move from one place to another. -/
abbrev Transfer (before after : Inventory) (source target : Place) (items : Finset Nat) : Prop :=
  Placement.Transfer before.holds after.holds source target (· ∈ items)

section Moves

variable {inventory : Inventory} {capacity index : Nat} {source target : Cell}

theorem holds_store_self (content : Option Nat) (other : Nat) :
    (inventory.store source content).holds (.cell source) other ↔ content = some other := by
  simp [holds, store]

theorem holds_store_other {place : Place} (differs : place ≠ .cell source)
    (content : Option Nat) (other : Nat) :
    (inventory.store source content).holds place other ↔ inventory.holds place other := by
  cases place with
  | cell cell =>
    have apart : cell ≠ source := fun same => differs (congrArg Place.cell same)
    simp [holds, store, apart]
  | _ => exact Iff.rfl

theorem gone_of_cell (owner : inventory.cell source = some index) (other : Nat) :
    False ↔ inventory.holds (.cell source) other ∧ other ≠ index := by
  simp only [holds, owner, Option.some.injEq]
  constructor
  · exact False.elim
  · rintro ⟨rfl, apart⟩
    exact apart rfl

theorem pass_transfer (distinct : source ≠ target) (owner : inventory.cell source = some index)
    (free : inventory.cell target = none) :
    Transfer inventory (inventory.pass source target) (.cell source) (.cell target) {index} := by
  have apart : Place.cell source ≠ .cell target := fun same => distinct (by cases same; rfl)
  refine Placement.Transfer.one apart owner ?_ ?_ ?_
  · intro other
    rw [pass, holds_store_other apart, holds_store_self, ← gone_of_cell owner]
    simp
  · intro other
    rw [pass, holds_store_self, owner]
    simp [holds, free, eq_comm]
  · intro place here there other
    rw [pass, holds_store_other there, holds_store_other here]

theorem pass_none (owner : inventory.cell source = none) (free : inventory.cell target = none) :
    inventory.pass source target = inventory := by
  have emptied : update inventory.cell source none = inventory.cell := by
    rw [← owner, update_eq_self]
  have still : update inventory.cell target none = inventory.cell := by
    rw [← free, update_eq_self]
  simp [pass, store, owner, emptied, still]

/-- A move-assignment, which empties its source last. -/
theorem replace_cell (free : inventory.cell target = none) :
    update (update inventory.cell target (inventory.cell source)) source none =
      (inventory.pass source target).cell := by
  by_cases same : source = target
  · subst same
    have still : update inventory.cell source none = inventory.cell := by
      rw [← free, update_eq_self]
    rw [pass_none free free, free, update_idem, still]
  · rw [update_comm (Ne.symm same)]
    rfl

theorem publish_transfer (inventory : Inventory) (source : Cell)
    (owner : inventory.cell source = some index) {idle : Nat → Bool}
    (added : ∀ other, idle other = true ↔ inventory.idle other = true ∨ other = index) :
    Transfer inventory { inventory.store source none with idle } (.cell source) .idle {index} := by
  refine Placement.Transfer.one (by simp) owner ?_ ?_ ?_
  · intro other
    rw [← gone_of_cell owner]
    simp [holds, store]
  · intro other
    rw [holds, added other, or_comm]
    rfl
  · intro place here there other
    cases place with
    | idle => exact absurd rfl there
    | cell cell => exact holds_store_other here none other
    | _ => exact Iff.rfl

theorem claim_transfer (inventory : Inventory) (target : Cell)
    (present : inventory.idle index = true)
    (free : inventory.cell target = none) {idle : Nat → Bool}
    (removed : ∀ other, idle other = true ↔ inventory.idle other = true ∧ other ≠ index) :
    Transfer inventory { inventory.store target (some index) with idle } .idle (.cell target)
      {index} := by
  refine Placement.Transfer.one (by simp) present removed ?_ ?_
  · intro other
    simp [holds, store, free, eq_comm]
  · intro place here there other
    cases place with
    | idle => exact absurd rfl here
    | cell cell => exact holds_store_other there (some index) other
    | _ => exact Iff.rfl

theorem quarantine_transfer (inventory : Inventory) (source : Cell)
    (owner : inventory.cell source = some index) :
    Transfer inventory { inventory.store source none with
      quarantined := inventory.quarantined ++ [index] } (.cell source) .quarantined {index} := by
  refine Placement.Transfer.one (by simp) owner ?_ ?_ ?_
  · intro other
    rw [← gone_of_cell owner]
    simp [holds, store]
  · intro other
    simp [holds, or_comm]
  · intro place here there other
    cases place with
    | quarantined => exact absurd rfl there
    | cell cell => exact holds_store_other here none other
    | _ => exact Iff.rfl

theorem vacate_transfer (owner : inventory.cell source = some index) :
    Transfer inventory { inventory.store source none with
      vacant := inventory.vacant ++ [index] } (.cell source) .vacant {index} := by
  refine Placement.Transfer.one (by simp) owner ?_ ?_ ?_
  · intro other
    rw [← gone_of_cell owner]
    simp [holds, store]
  · intro other
    simp [holds, or_comm]
  · intro place here there other
    cases place with
    | vacant => exact absurd rfl there
    | cell cell => exact holds_store_other here none other
    | _ => exact Iff.rfl

theorem mem_dropLast {list : List Nat} (once : list.Nodup) (last : list.getLast? = some index)
    (other : Nat) : other ∈ list.dropLast ↔ other ∈ list ∧ other ≠ index := by
  obtain ⟨front, rfl⟩ := getLast?_eq_some_iff.mp last
  rw [dropLast_concat]
  rw [nodup_append] at once
  have fresh : index ∉ front := fun member => once.2.2 index member index (by simp) rfl
  constructor
  · intro member
    exact ⟨mem_append_left _ member, fun same => fresh (same ▸ member)⟩
  · rintro ⟨member, apart⟩
    exact (mem_append.mp member).resolve_right (fun only => apart (mem_singleton.mp only))

theorem reserve_transfer (once : inventory.vacant.Nodup)
    (last : inventory.vacant.getLast? = some index) (free : inventory.cell target = none) :
    Transfer inventory { inventory.store target (some index) with
      vacant := inventory.vacant.dropLast } .vacant (.cell target) {index} := by
  refine Placement.Transfer.one (by simp) (mem_of_getLast? last) (mem_dropLast once last)
    ?_ ?_
  · intro other
    simp [holds, store, free, eq_comm]
  · intro place here there other
    cases place with
    | vacant => exact absurd rfl here
    | cell cell => exact holds_store_other there (some index) other
    | _ => exact Iff.rfl

theorem restore_transfer (once : inventory.quarantined.Nodup)
    (last : inventory.quarantined.getLast? = some index) (free : inventory.cell target = none) :
    Transfer inventory { inventory.store target (some index) with
      quarantined := inventory.quarantined.dropLast } .quarantined (.cell target) {index} := by
  refine Placement.Transfer.one (by simp) (mem_of_getLast? last) (mem_dropLast once last)
    ?_ ?_
  · intro other
    simp [holds, store, free, eq_comm]
  · intro place here there other
    cases place with
    | quarantined => exact absurd rfl here
    | cell cell => exact holds_store_other there (some index) other
    | _ => exact Iff.rfl

end Moves

end Inventory

end Menagerie.Starling.Pool
