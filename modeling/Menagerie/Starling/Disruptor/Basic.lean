import Menagerie.Library.RingIndex
import Menagerie.Library.Transition

/-!
# The multi-producer disruptor

The data of `Disruptor<T, MultiProducerSequencer>`: the ring of `2 ^ shift` slots, the claim and
consumption cursors, the generation of the last publication in each slot, and the program points
of the producers and of the consumer. Cursors are mathematical integers; the producers claim at most
up to `INT64_MAX`, so that none of them leaves `int64_t`. The masks and casts that turn them into
slot indices and generations are those of the source.
-/

namespace Menagerie.Starling

open List

/-- `std::numeric_limits<std::int64_t>::max()`. -/
def int64Max : Int := 9223372036854775807

namespace Disruptor

/-- A ring size whose value fits the signed cursors. -/
structure Config where
  /-- `generation_shift_ = countr_zero(buffer_size)`. -/
  shift : Nat
  /-- `static_cast<std::int64_t>(capacity_)` is positive. -/
  fits : shift ≤ 62

namespace Config

variable (config : Config)

/-- `capacity_`. -/
def capacity : Nat := 2 ^ config.shift

/-- `slot_index_mask_`. -/
def slotIndexMask : BitVec 64 := BitVec.ofNat 64 config.capacity - 1

/-- `static_cast<std::size_t>(sequence) & slot_index_mask_`. -/
def slotIndex (sequence : Int) : Nat := (BitVec.ofInt 64 sequence &&& config.slotIndexMask).toNat

/-- `generation_of`. -/
def generationOf (sequence : Int) : BitVec 32 := BitVec.ofInt 32 (sequence >>> config.shift)

theorem capacity_pos : 0 < config.capacity := Nat.two_pow_pos config.shift

theorem slotIndex_eq (sequence : Int) :
    config.slotIndex sequence = (sequence % config.capacity).toNat := by
  have bound : config.shift < 64 := by
    have := config.fits
    omega
  have power : ((config.capacity : Nat) : Int) = 2 ^ config.shift := by
    rw [capacity]
    push_cast
    rfl
  rw [power]
  exact RingIndex.and_mask_eq_emod sequence bound

theorem apart_of_slotIndex {left right : Int}
    (same : config.slotIndex left = config.slotIndex right) (differs : left ≠ right) :
    left + config.capacity ≤ right ∨ right + config.capacity ≤ left := by
  rw [slotIndex_eq, slotIndex_eq] at same
  have positive := config.capacity_pos
  exact RingIndex.lap_apart (by omega) same differs

/-- The next lap uses the same slot. -/
theorem slotIndex_previous (sequence : Int) :
    config.slotIndex (sequence - config.capacity) = config.slotIndex sequence := by
  rw [slotIndex_eq, slotIndex_eq, Int.sub_emod_right]

/-- One lap earlier is one generation less. -/
theorem shiftRight_previous (sequence : Int) :
    (sequence - config.capacity) >>> config.shift = sequence >>> config.shift - 1 := by
  have positive := config.capacity_pos
  have shifted : sequence - config.capacity = sequence + (-1) * (2 ^ config.shift : Nat) := by
    rw [capacity]
    omega
  rw [Int.shiftRight_eq_div_pow, Int.shiftRight_eq_div_pow, shifted,
    Int.add_mul_ediv_right _ _ (by rw [capacity] at positive; omega)]
  rfl

theorem generationOf_previous (sequence : Int) :
    config.generationOf (sequence - config.capacity) ≠ config.generationOf sequence := by
  rw [generationOf, generationOf, shiftRight_previous]
  exact RingIndex.lap_succ_ne (by decide) _

theorem generationOf_unpublished {sequence : Int} (early : sequence < 0)
    (recent : -config.capacity ≤ sequence) : config.generationOf sequence = -1 := by
  have later := config.shiftRight_previous (sequence + config.capacity)
  have first : (sequence + config.capacity) >>> config.shift = 0 := by
    rw [Int.shiftRight_eq_div_pow]
    exact Int.ediv_eq_zero_of_lt (by omega) (by rw [← capacity]; omega)
  rw [first, Int.add_sub_cancel] at later
  rw [generationOf, later]
  rfl

end Config

/-- One claim: the producer, the first sequence and how many. -/
structure Claim where
  thread : Nat
  first : Int
  count : Nat
  deriving DecidableEq, Repr

def Claim.sequences (claim : Claim) : List Int :=
  (range claim.count).map (fun (offset : Nat) => claim.first + offset)

/-- How far the producer of one sequence has come. -/
inductive Stage
  | free
  | waiting (thread : Nat)
  | granted (thread : Nat)
  | blank (thread : Nat)
  | written (thread : Nat)
  | published (thread : Nat)
  deriving DecidableEq, Repr

/-- The producer that claimed the sequence. -/
def Stage.claimant : Stage → Option Nat
  | .free => none
  | .waiting thread | .granted thread | .blank thread | .written thread | .published thread =>
    some thread

/-- The program point of a producer. -/
inductive Producer (α : Type)
  | ready
  /-- `wait_for_capacity`: load of the consumed position; `emplace` then has a value. -/
  | waitForCapacity (first : Int) (count : Nat) (value : Option α)
  | tryNextCapacity (current : Int)
  | tryNextSwap (current : Int)
  | destroySlot (sequence : Int) (value : α)
  | constructSlot (sequence : Int) (value : α) (emplacing : Bool)
  /-- `publish_batch`: the generation of `sequence`, then the rest up to `last`. -/
  | publishSlot (sequence last : Int)
  | signal
  deriving DecidableEq, Repr

/-- Who waits. -/
inductive Caller
  | manual
  | pull (sequence : Int)
  deriving DecidableEq, Repr

/-- The program point of the consumer. -/
inductive Consumer
  | ready
  | waitFor (sequence : Int) (caller : Caller)
  | getPublishedSequence (lowerBound : Int)
  | scanPublished (sequence claimed : Int) (caller : Caller)
  | take (sequence : Int)
  | consume (sequence : Int)
  deriving DecidableEq, Repr

/-- The disruptor, its producers and its consumer. -/
structure State (α : Type) where
  claimed : Int := -1
  consumed : Int := -1
  generations : Nat → BitVec 32 := fun _ => -1
  /-- `buffer_`; `none` before a write, during it and after a move. -/
  buffer : Nat → Option α := fun _ => none
  cachedPublished : Int := -1
  producerCount : Nat
  producers : Nat → Producer α := fun _ => .ready
  consumer : Consumer := .ready
  /-- The highest frontier that manual waits have returned. -/
  frontier : Int := -1
  nextRead : Int := 0
  /-- History: the stage of every sequence. -/
  stage : Int → Stage := fun _ => .free
  /-- History: the claims in their atomic order. -/
  claims : List Claim := []
  /-- History: the last value of a sequence, and by whom. -/
  written : Int → Option (Nat × α) := fun _ => none
  /-- History: what the consumer has read, oldest first. -/
  reads : List (Int × Option α) := []

/-- A new disruptor. -/
def State.initial (α : Type) (producerCount : Nat) : State α := { producerCount }

/-- The sequences before `next` have been read, in order. -/
abbrev InOrder {α : Type} (reads : List (Int × Option α)) (next : Int) : Prop :=
  reads.map Prod.fst = (range next.toNat).map (fun (sequence : Nat) => (sequence : Int))

section InOrder

variable {α : Type} {reads : List (Int × Option α)} {next : Int} (order : InOrder reads next)

include order

theorem InOrder.length : reads.length = next.toNat := by
  have mapped := congrArg List.length order
  rw [List.length_map, List.length_map, List.length_range] at mapped
  exact mapped

theorem InOrder.range {sequence : Int} {content : Option α} (read : (sequence, content) ∈ reads) :
    0 ≤ sequence ∧ sequence < next := by
  have member : sequence ∈ reads.map Prod.fst := mem_map_of_mem read
  rw [order] at member
  obtain ⟨position, below, rfl⟩ := mem_map.mp member
  have bound := mem_range.mp below
  omega

theorem InOrder.snoc (start : 0 ≤ next) (content : Option α) :
    InOrder (reads ++ [(next, content)]) (next + 1) := by
  have count : (next + 1).toNat = next.toNat + 1 := by omega
  have lifted : (next.toNat : Int) = next := by omega
  rw [InOrder, map_append, order, count, range_succ, map_append]
  simp [lifted]

end InOrder

end Disruptor

end Menagerie.Starling
