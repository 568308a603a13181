import Menagerie.Starling.Pool.Inventory
import Menagerie.Starling.Pool.Slots
import Menagerie.Starling.Pool.Tokens

/-!
# The accounts of the pool

`Owned` says that every slot is at exactly one place of the inventory, that `states_` names
that place and that the two counters agree with it. The lemmas of this module say, for each
effect that concerns a slot, from where to where the slot goes and that the accounts follow.
-/

namespace Menagerie.Starling.Pool

open Function State List

/-- The slot of a `Borrowed`. -/
def Handle.slot : Handle Nat → Option Nat
  | .live index => some index
  | _ => none

def Handle.reservedSlot : Handle ReservedSlot → Option Nat
  | .live slot => some slot.index
  | _ => none

/-- The four families of exclusive owners as one. -/
def cells (reserved borrowed flight waiter : Nat → Option Nat) : Cell → Option Nat
  | .reserved token => reserved token
  | .borrowed token => borrowed token
  | .flight thread => flight thread
  | .waiter node => waiter node

section Cells

variable (reserved borrowed flight waiter : Nat → Option Nat) (owner : Nat) (content : Option Nat)

theorem cells_reserved : cells (update reserved owner content) borrowed flight waiter =
    update (cells reserved borrowed flight waiter) (.reserved owner) content := by
  funext cell
  cases cell <;> simp [cells, update_apply]

theorem cells_borrowed : cells reserved (update borrowed owner content) flight waiter =
    update (cells reserved borrowed flight waiter) (.borrowed owner) content := by
  funext cell
  cases cell <;> simp [cells, update_apply]

theorem cells_flight : cells reserved borrowed (update flight owner content) waiter =
    update (cells reserved borrowed flight waiter) (.flight owner) content := by
  funext cell
  cases cell <;> simp [cells, update_apply]

theorem cells_waiter : cells reserved borrowed flight (update waiter owner content) =
    update (cells reserved borrowed flight waiter) (.waiter owner) content := by
  funext cell
  cases cell <;> simp [cells, update_apply]

end Cells

def State.borrowedSlots (s : State) (token : Nat) : Option Nat := (s.borrowed token).slot

def State.reservedSlots (s : State) (token : Nat) : Option Nat := (s.reserved token).reservedSlot

def State.flights (s : State) (thread : Nat) : Option Nat := (s.threads thread).slot

/-- The inventory of a pool. -/
def State.inventory (s : State) : Inventory where
  vacant := s.vacant
  idle := s.idle
  quarantined := s.quarantined
  cell := cells s.reservedSlots s.borrowedSlots s.flights s.slots

theorem State.perform_cell (s : State) (thread : Nat) (effect : Effect) (after : Frame) :
    (s.perform thread (effect, after)).inventory.cell =
      update (s.apply thread effect).inventory.cell (.flight thread) after.slot := by
  have flights : (s.perform thread (effect, after)).flights =
      update (s.apply thread effect).flights thread after.slot := by
    refine (perform_feature Frame.slot s thread effect after).trans ?_
    rw [← s.apply_threads thread effect]
    rfl
  rw [inventory, flights, cells_flight]
  rfl

/-- What the pool itself records about its slots. -/
structure Ledger where
  vacant : List Nat
  quarantined : List Nat
  words : Nat → BitVec 64
  states : Nat → SlotState
  usableSize : Nat
  reservedCount : Nat

/-- The ledger of a pool. -/
def State.ledger (s : State) : Ledger where
  vacant := s.vacant
  quarantined := s.quarantined
  words := s.words
  states := s.states
  usableSize := s.usableSize
  reservedCount := s.reservedCount

def Effect.onLedger : Effect → Bool
  | .claim _ | .reclaim _ | .publish _ | .quarantine _ | .reserveVacant | .reserveQuarantined
  | .reserveIdle _ | .sweep _ | .startPublish _ | .rollback _ => true
  | _ => false

theorem State.apply_ledger (s : State) (thread : Nat) {effect : Effect}
    (other : effect.onLedger = false) : (s.apply thread effect).ledger = s.ledger := by
  revert other
  fun_cases apply s thread effect
  all_goals intro other
  all_goals first
    | (rw [addResult_eq]
       simp only [ledger, log, finishNode, removeNode, setNode,
        setContext])
    | (simp only [ledger, log, unlinkWaiter, completeWaiter,
        setNode]; done)
    | cases other; done
    | rfl

section Tables

variable {s s' : State}

theorem State.borrowedSlots_update (table : Nat → Handle Nat) (token : Nat) (handle : Handle Nat) :
    (fun other => (update table token handle other).slot) =
      update (fun other => (table other).slot) token handle.slot := by
  funext other
  exact apply_update (fun _ => Handle.slot) table token handle other

theorem State.reservedSlots_update (table : Nat → Handle ReservedSlot) (token : Nat)
    (handle : Handle ReservedSlot) :
    (fun other => (update table token handle other).reservedSlot) =
      update (fun other => (table other).reservedSlot) token handle.reservedSlot := by
  funext other
  exact apply_update (fun _ => Handle.reservedSlot) table token handle other

/-- The owners of a state that differs in some of them. -/
theorem State.cell_eq {reserved : Nat → Handle ReservedSlot} {borrowed : Nat → Handle Nat}
    {slots : Nat → Option Nat} (threads : s'.threads = s.threads)
    (reservedEq : s'.reserved = reserved) (borrowedEq : s'.borrowed = borrowed)
    (slotsEq : s'.slots = slots) :
    s'.inventory.cell = cells (fun token => (reserved token).reservedSlot)
      (fun token => (borrowed token).slot) s.flights slots := by
  subst reservedEq borrowedEq slotsEq
  change cells _ _ (fun thread => (s'.threads thread).slot) _ = _
  rw [threads]
  rfl

variable (thread : Nat) {effect : Effect}

section

variable (borrowed : effect.onBorrowed = false) (reserved : effect.onReserved = false)

include borrowed reserved

/-- An effect that concerns no token object and no waiter. -/
theorem State.apply_cell (slots : (s.apply thread effect).slots = s.slots) :
    (s.apply thread effect).inventory.cell = s.inventory.cell :=
  cell_eq (s.apply_threads thread effect) (s.apply_reserved thread effect reserved).1
    (s.apply_borrowed thread effect borrowed).1 slots

theorem State.apply_cell_waiter {waiter : Nat} {content : Option Nat}
    (slots : (s.apply thread effect).slots = update s.slots waiter content) :
    (s.apply thread effect).inventory.cell =
      update s.inventory.cell (.waiter waiter) content := by
  rw [cell_eq (s.apply_threads thread effect) (s.apply_reserved thread effect reserved).1
    (s.apply_borrowed thread effect borrowed).1 slots, cells_waiter]
  rfl

end

theorem State.apply_cell_borrowed {token : Nat} {handle : Handle Nat}
    (table : (s.apply thread effect).borrowed = update s.borrowed token handle)
    (reserved : effect.onReserved = false) (slots : (s.apply thread effect).slots = s.slots) :
    (s.apply thread effect).inventory.cell =
      update s.inventory.cell (.borrowed token) handle.slot := by
  rw [cell_eq (s.apply_threads thread effect) (s.apply_reserved thread effect reserved).1
    table slots, borrowedSlots_update, cells_borrowed]
  rfl

theorem State.apply_cell_reserved {token : Nat} {handle : Handle ReservedSlot}
    (applied : s.apply thread effect = s') (borrowed : effect.onBorrowed = false)
    (table : s'.reserved = update s.reserved token handle) (slots : s'.slots = s.slots) :
    s'.inventory.cell =
      update s.inventory.cell (.reserved token) handle.reservedSlot := by
  subst applied
  rw [cell_eq (s.apply_threads thread effect) table
    (s.apply_borrowed thread effect borrowed).1 slots, reservedSlots_update, cells_reserved]
  rfl

end Tables

/-- The accounts of the pool agree with its inventory. -/
structure Owned (s : State) : Prop where
  stocked : s.inventory.Stocked s.capacity
  labelled : ∀ place index, s.inventory.holds place index → s.states index = place.slotState
  usable : s.usableSize =
    (Placement.ofKind Place.account s.inventory.holds s.capacity .usable).card
  reserved : s.reservedCount =
    (Placement.ofKind Place.account s.inventory.holds s.capacity .reserved).card

section Transfers

variable {s s' : State}

theorem Owned.still (owned : Owned s) (capacity : s'.capacity = s.capacity)
    (inventory : s'.inventory = s.inventory) (states : s'.states = s.states)
    (usable : s'.usableSize = s.usableSize) (reserved : s'.reservedCount = s.reservedCount) :
    Owned s' where
  stocked := by
    rw [inventory, capacity]
    exact owned.stocked
  labelled := by
    rw [inventory, states]
    exact owned.labelled
  usable := by
    rw [usable, inventory, capacity]
    exact owned.usable
  reserved := by
    rw [reserved, inventory, capacity]
    exact owned.reserved

theorem Owned.transfer {source target : Place} {items : Finset Nat} (owned : Owned s)
    (moved : Inventory.Transfer s.inventory s'.inventory source target items)
    (capacity : s'.capacity = s.capacity)
    (vacantOnce : s'.vacant.Nodup) (quarantinedOnce : s'.quarantined.Nodup)
    (relabelled : ∀ index, index ∈ items → s'.states index = target.slotState)
    (kept : ∀ index, index ∉ items → s'.states index = s.states index)
    (usable : s'.usableSize = s.usableSize + (if target.account = .usable then items.card else 0) -
      (if source.account = .usable then items.card else 0))
    (reserved : s'.reservedCount = s.reservedCount +
      (if target.account = .reserved then items.card else 0) -
      (if source.account = .reserved then items.card else 0)) : Owned s' where
  stocked := by
    rw [capacity]
    exact ⟨moved.allotted owned.stocked.allotted, vacantOnce, quarantinedOnce⟩
  labelled place index held := by
    by_cases moves : index ∈ items
    · have arrived := (moved.moved_iff owned.stocked.allotted.unshared moves place).mp held
      rw [relabelled index moves, arrived]
    · rw [kept index moves]
      exact owned.labelled place index ((moved.unmoved_iff moves place).mp held)
  usable := by
    rw [usable, capacity, owned.usable, moved.card_eq owned.stocked.allotted]
  reserved := by
    rw [reserved, capacity, owned.reserved, moved.card_eq owned.stocked.allotted]

theorem State.inventory_of_ledger (ledger : s'.ledger = s.ledger) :
    s'.inventory = { s.inventory with cell := s'.inventory.cell } := by
  have vacant : s'.vacant = s.vacant := congrArg Ledger.vacant ledger
  have quarantined : s'.quarantined = s.quarantined := congrArg Ledger.quarantined ledger
  have words : s'.words = s.words := congrArg Ledger.words ledger
  simp only [inventory, vacant, quarantined, Inventory.mk.injEq, true_and, and_true]
  funext index
  rw [idle, idle, words]

theorem Owned.rest (owned : Owned s) (capacity : s'.capacity = s.capacity)
    (ledger : s'.ledger = s.ledger) (cell : s'.inventory.cell = s.inventory.cell) : Owned s' := by
  have inventory : s'.inventory = s.inventory := by
    rw [inventory_of_ledger ledger, cell]
  exact owned.still capacity inventory (congrArg Ledger.states ledger)
    (congrArg Ledger.usableSize ledger) (congrArg Ledger.reservedCount ledger)

/-- A slot, if any, passes to another owner of the same kind. -/
theorem Owned.pass (owned : Owned s) (source target : Cell) (capacity : s'.capacity = s.capacity)
    (ledger : s'.ledger = s.ledger)
    (cell : s'.inventory.cell = (s.inventory.pass source target).cell)
    (free : s.inventory.cell target = none)
    (account : (Place.cell source).account = (Place.cell target).account)
    (label : (Place.cell source).slotState = (Place.cell target).slotState) : Owned s' := by
  have states : s'.states = s.states := congrArg Ledger.states ledger
  have usable : s'.usableSize = s.usableSize := congrArg Ledger.usableSize ledger
  have reserved : s'.reservedCount = s.reservedCount := congrArg Ledger.reservedCount ledger
  have vacant : s'.vacant = s.vacant := congrArg Ledger.vacant ledger
  have quarantined : s'.quarantined = s.quarantined := congrArg Ledger.quarantined ledger
  have inventory : s'.inventory = s.inventory.pass source target := by
    rw [inventory_of_ledger ledger, cell]
    rfl
  cases owner : s.inventory.cell source with
  | none =>
    rw [Inventory.pass_none owner free] at inventory
    exact owned.still capacity inventory states usable reserved
  | some index =>
    have distinct : source ≠ target := by
      rintro rfl
      rw [free] at owner
      cases owner
    have moved : Inventory.Transfer s.inventory s'.inventory (.cell source) (.cell target)
        {index} := by
      rw [inventory]
      exact Inventory.pass_transfer distinct owner free
    refine owned.transfer moved capacity ?_ ?_ ?_ ?_ ?_ ?_
    · rw [vacant]
      exact owned.stocked.vacantOnce
    · rw [quarantined]
      exact owned.stocked.quarantinedOnce
    · intro other moves
      rw [Finset.mem_singleton.mp moves, states, ← label]
      exact owned.labelled (.cell source) index owner
    · intro other _
      rw [states]
    · rw [usable, account, Nat.add_sub_cancel]
    · rw [reserved, account, Nat.add_sub_cancel]

end Transfers

section Passing

variable {s : State} {thread : Nat} {after : Frame}

theorem State.perform_capacity (s : State) (thread : Nat) (move : Effect × Frame) :
    (s.perform thread move).capacity = s.capacity := by
  simp [perform, goto]

section

variable {effect : Effect} (owned : Owned s)

include owned

section

variable (kept : after.slot = (s.threads thread).slot)

include kept

theorem Owned.settled (ledger : (s.apply thread effect).ledger = s.ledger)
    (cell : (s.apply thread effect).inventory.cell = s.inventory.cell) :
    Owned (s.perform thread (effect, after)) := by
  refine owned.rest (s.perform_capacity thread _) ledger ?_
  rw [perform_cell, cell, kept]
  exact update_eq_self (Cell.flight thread) s.inventory.cell

theorem Owned.idle (ledger : effect.onLedger = false) (borrowed : effect.onBorrowed = false)
    (reserved : effect.onReserved = false) (slots : (s.apply thread effect).slots = s.slots) :
    Owned (s.perform thread (effect, after)) :=
  owned.settled kept (s.apply_ledger thread ledger)
    (apply_cell thread borrowed reserved slots)

theorem Owned.noop (same : s.apply thread effect = s) : Owned (s.perform thread (effect, after)) :=
  owned.settled kept (congrArg ledger same)
    (congrArg (fun state : State => state.inventory.cell) same)

theorem Owned.keepReserved {s' : State} {token : Nat} {handle : Handle ReservedSlot}
    (applied : s.apply thread effect = s') (ledger : effect.onLedger = false)
    (borrowed : effect.onBorrowed = false)
    (table : s'.reserved = update s.reserved token handle) (slots : s'.slots = s.slots)
    (same : handle.reservedSlot = (s.reserved token).reservedSlot) :
    Owned (s.perform thread (effect, after)) := by
  have cell := apply_cell_reserved thread applied borrowed table slots
  refine owned.settled kept (s.apply_ledger thread ledger) ?_
  rw [applied, cell, same]
  exact update_eq_self (Cell.reserved token) s.inventory.cell

end

variable (ledger : effect.onLedger = false)

include ledger

theorem Owned.land {index : Nat} (target : Cell)
    (cell : (s.apply thread effect).inventory.cell =
      update s.inventory.cell target (some index)) (free : s.inventory.cell target = none)
    (held : (s.threads thread).slot = some index) (done : after.slot = none)
    (usable : (Place.cell target).account = .usable)
    (lent : (Place.cell target).slotState = .borrowed) :
    Owned (s.perform thread (effect, after)) := by
  have owner : s.inventory.cell (.flight thread) = some index := held
  have apart : target ≠ .flight thread := by
    rintro rfl
    rw [free] at owner
    cases owner
  refine owned.pass (.flight thread) target (s.perform_capacity thread _)
    (s.apply_ledger thread ledger) ?_ free usable.symm lent.symm
  rw [perform_cell, cell, done, update_comm apart, Inventory.pass, owner]
  rfl

theorem Owned.lift {index : Nat} (source : Cell)
    (cell : (s.apply thread effect).inventory.cell = update s.inventory.cell source none)
    (owner : s.inventory.cell source = some index) (outside : (s.threads thread).slot = none)
    (taken : after.slot = some index) (usable : (Place.cell source).account = .usable)
    (lent : (Place.cell source).slotState = .borrowed) :
    Owned (s.perform thread (effect, after)) := by
  refine owned.pass source (.flight thread) (s.perform_capacity thread _)
    (s.apply_ledger thread ledger) ?_ outside usable lent
  rw [perform_cell, cell, taken, Inventory.pass, owner]
  rfl

variable (kept : after.slot = (s.threads thread).slot)

include kept

theorem Owned.replace (source target : Cell)
    (account : (Place.cell source).account = (Place.cell target).account)
    (label : (Place.cell source).slotState = (Place.cell target).slotState)
    (cell : (s.apply thread effect).inventory.cell = update
      (update s.inventory.cell target (s.inventory.cell source)) source none)
    (free : s.inventory.cell target = none)
    (apart : ∀ other, source ≠ .flight other ∧ target ≠ .flight other) :
    Owned (s.perform thread (effect, after)) := by
  refine owned.pass source target (s.perform_capacity thread _) (s.apply_ledger thread ledger) ?_
    free account label
  have still : (s.apply thread effect).inventory.cell (.flight thread) = after.slot := by
    rw [cell, update_of_ne (apart thread).1.symm,
      update_of_ne (apart thread).2.symm, kept]
    rfl
  rw [perform_cell, ← still, update_eq_self, cell, Inventory.replace_cell free]

theorem Owned.replaceBorrowed {token : Nat} (source : Nat) (reserved : effect.onReserved = false)
    (slots : (s.apply thread effect).slots = s.slots)
    (table : (s.apply thread effect).borrowed =
      update (update s.borrowed token (s.borrowed source)) source .empty)
    (free : s.borrowedSlots token = none) : Owned (s.perform thread (effect, after)) := by
  refine owned.replace ledger kept (.borrowed source) (.borrowed token) rfl rfl ?_ free
    (fun _ => ⟨by simp, by simp⟩)
  rw [cell_eq (s.apply_threads thread effect) (s.apply_reserved thread effect reserved).1
    table slots, borrowedSlots_update, borrowedSlots_update, cells_borrowed,
    cells_borrowed]
  rfl

theorem Owned.replaceReserved {token : Nat} (source : Nat) (borrowed : effect.onBorrowed = false)
    (slots : (s.apply thread effect).slots = s.slots)
    (table : (s.apply thread effect).reserved =
      update (update s.reserved token (s.reserved source)) source .empty)
    (free : s.reservedSlots token = none) : Owned (s.perform thread (effect, after)) := by
  refine owned.replace ledger kept (.reserved source) (.reserved token) rfl rfl ?_ free
    (fun _ => ⟨by simp, by simp⟩)
  rw [cell_eq (s.apply_threads thread effect) table
    (s.apply_borrowed thread effect borrowed).1 slots, reservedSlots_update,
    reservedSlots_update, cells_reserved, cells_reserved]
  rfl

theorem Owned.deliver {waiter index : Nat} (reserved : effect.onReserved = false)
    (table : (s.apply thread effect).borrowed =
      update s.borrowed s.borrowedCount (.live index))
    (slots : (s.apply thread effect).slots = update s.slots waiter none)
    (fresh : s.borrowed s.borrowedCount = .absent) (owner : s.slots waiter = some index) :
    Owned (s.perform thread (effect, after)) := by
  refine owned.replace ledger kept (.waiter waiter) (.borrowed s.borrowedCount) rfl rfl ?_
    (congrArg Handle.slot fresh) (fun _ => ⟨by simp, by simp⟩)
  have lent : s.inventory.cell (.waiter waiter) = some index := owner
  rw [cell_eq (s.apply_threads thread effect) (s.apply_reserved thread effect reserved).1
    table slots, borrowedSlots_update, cells_waiter, cells_borrowed, lent]
  rfl

end

end Passing

section Accounting

variable {s s' : State} {thread : Nat} {after : Frame}

theorem Owned.one {effect : Effect} {source target : Place} {index : Nat}
    {cell : Cell → Option Nat} (owned : Owned s) (applied : s.apply thread effect = s')
    (moved : Inventory.Transfer s.inventory ⟨s'.vacant, s'.idle, s'.quarantined, cell⟩ source
      target {index})
    (cells : update s'.inventory.cell (.flight thread) after.slot = cell)
    (vacantOnce : s'.vacant.Nodup) (quarantinedOnce : s'.quarantined.Nodup)
    (states : s'.states = update s.states index target.slotState)
    (usable : s'.usableSize = s.usableSize + (if target.account = .usable then 1 else 0) -
      (if source.account = .usable then 1 else 0))
    (reserved : s'.reservedCount = s.reservedCount +
      (if target.account = .reserved then 1 else 0) -
      (if source.account = .reserved then 1 else 0)) :
    Owned (s.perform thread (effect, after)) := by
  subst applied
  have inventory : (s.perform thread (effect, after)).inventory =
      ⟨(s.apply thread effect).vacant, (s.apply thread effect).idle,
        (s.apply thread effect).quarantined, cell⟩ :=
    Inventory.ext rfl rfl rfl ((s.perform_cell thread effect after).trans cells)
  rw [← inventory] at moved
  refine owned.transfer moved (s.perform_capacity thread _) vacantOnce quarantinedOnce ?_ ?_
    usable reserved
  · intro other moves
    rw [Finset.mem_singleton.mp moves]
    exact (congrFun states index).trans (update_self ..)
  · intro other stays
    refine (congrFun states other).trans (update_of_ne ?_ ..)
    exact fun same => stays (Finset.mem_singleton.mpr same)

theorem Owned.claim {word : Nat} (owned : Owned s) (nonzero : s.words word ≠ 0)
    (outside : (s.threads thread).slot = none) (taken : after.slot = some (s.lowest word)) :
    Owned (s.perform thread (.claim word, after)) := by
  refine owned.one rfl (s.inventory.claim_transfer (.flight thread) (s.idle_lowest nonzero) outside
    (s.idle_claim thread nonzero)) ?_ owned.stocked.vacantOnce owned.stocked.quarantinedOnce
    rfl rfl rfl
  rw [apply_cell thread rfl rfl rfl, taken]
  rfl

section

variable {index : Nat}

theorem Owned.reclaim (owned : Owned s) (present : s.idle index = true)
    (outside : (s.threads thread).slot = none) (taken : after.slot = some index) :
    Owned (s.perform thread (.reclaim index, after)) := by
  refine owned.one rfl (s.inventory.claim_transfer (.flight thread) present outside
    (s.idle_reclaim thread index)) ?_ owned.stocked.vacantOnce owned.stocked.quarantinedOnce
    rfl rfl rfl
  rw [apply_cell thread rfl rfl rfl, taken]
  rfl

/-- `publish_bit` makes a slot idle. -/
theorem Owned.publish (owned : Owned s) (held : (s.threads thread).slot = some index)
    (done : after.slot = none) :
    Owned (s.perform thread (.publish index, after)) := by
  refine owned.one rfl (s.inventory.publish_transfer (.flight thread) held
    (s.idle_publish thread index)) ?_ owned.stocked.vacantOnce owned.stocked.quarantinedOnce
    rfl rfl rfl
  rw [apply_cell thread rfl rfl rfl, done]
  rfl

theorem Owned.absent (owned : Owned s) (place : Place) (cell : Cell)
    (owner : s.inventory.cell cell = some index) (other : place ≠ .cell cell) :
    ¬ s.inventory.holds place index := by
  intro held
  exact other (owned.stocked.allotted.unshared index place (.cell cell) held owner)

theorem Owned.quarantine (owned : Owned s) (held : (s.threads thread).slot = some index)
    (done : after.slot = none) :
    Owned (s.perform thread (.quarantine index, after)) := by
  have fresh : index ∉ s.quarantined :=
    owned.absent .quarantined (.flight thread) held (by simp)
  have once := owned.stocked.quarantinedOnce.concat fresh
  rw [concat_eq_append] at once
  refine owned.one rfl (s.inventory.quarantine_transfer (.flight thread) held) ?_
    owned.stocked.vacantOnce once rfl rfl rfl
  rw [apply_cell thread rfl rfl rfl, done]
  rfl

end

theorem State.stored_cell {token : Nat} {content : Option Nat}
    (cell : s'.inventory.cell = update s.inventory.cell (.reserved token) content)
    (kept : after.slot = (s.threads thread).slot) :
    update s'.inventory.cell (.flight thread) after.slot =
      (s.inventory.store (.reserved token) content).cell := by
  rw [cell, kept]
  exact update_eq_self_iff.mpr (by simp [inventory, cells, flights])

section

variable {index : Nat} (owned : Owned s)

include owned

theorem Owned.reserveVacant (last : s.vacant.getLast? = some index)
    (fresh : s.reserved s.reservedTokens = .absent) (kept : after.slot = (s.threads thread).slot) :
    Owned (s.perform thread (.reserveVacant, after)) := by
  have applied : s.apply thread .reserveVacant =
      ({ s.setSlot index .reserved with
          vacant := s.vacant.dropLast
          reservedCount := s.reservedCount + 1 }.addReserved ⟨index, false⟩).log
        [.returned (s.late thread) (.reserved s.reservedTokens)] := by
    simp only [apply, last]
  have cell := apply_cell_reserved thread applied rfl rfl rfl
  have free : s.inventory.cell (.reserved s.reservedTokens) = none :=
    congrArg Handle.reservedSlot fresh
  exact owned.one applied (Inventory.reserve_transfer owned.stocked.vacantOnce last free)
    (stored_cell cell kept)
    (owned.stocked.vacantOnce.sublist (dropLast_sublist s.vacant))
    owned.stocked.quarantinedOnce rfl rfl rfl

theorem Owned.reserveQuarantined (last : s.quarantined.getLast? = some index)
    (fresh : s.reserved s.reservedTokens = .absent) (kept : after.slot = (s.threads thread).slot) :
    Owned (s.perform thread (.reserveQuarantined, after)) := by
  have applied : s.apply thread .reserveQuarantined =
      ({ s.setSlot index .reserved with
          quarantined := s.quarantined.dropLast
          reservedCount := s.reservedCount + 1 }.addReserved ⟨index, true⟩).log
        [.returned (s.late thread) (.reserved s.reservedTokens)] := by
    simp only [apply, last]
  have cell := apply_cell_reserved thread applied rfl rfl rfl
  have free : s.inventory.cell (.reserved s.reservedTokens) = none :=
    congrArg Handle.reservedSlot fresh
  exact owned.one applied (Inventory.restore_transfer owned.stocked.quarantinedOnce last free)
    (stored_cell cell kept) owned.stocked.vacantOnce
    (owned.stocked.quarantinedOnce.sublist (dropLast_sublist s.quarantined)) rfl rfl rfl

/-- `try_take_idle` turns the claimed slot into a reservation. -/
theorem Owned.reserveIdle (fresh : s.reserved s.reservedTokens = .absent)
    (held : (s.threads thread).slot = some index) (done : after.slot = none) :
    Owned (s.perform thread (.reserveIdle index, after)) := by
  have owner : s.inventory.cell (.flight thread) = some index := held
  have free : s.inventory.cell (.reserved s.reservedTokens) = none :=
    congrArg Handle.reservedSlot fresh
  refine owned.one rfl (Inventory.pass_transfer (by simp) owner free) ?_ owned.stocked.vacantOnce
    owned.stocked.quarantinedOnce rfl rfl rfl
  rw [apply_cell_reserved thread rfl rfl rfl rfl, done, update_comm (by simp)]
  exact congrArg (update _ _) owner.symm

end

section

variable {token : Nat} {slot : ReservedSlot} (owned : Owned s)
  (live : s.reserved token = .live slot)

include owned live

/-- `publish` turns a reservation into a slot in flight. -/
theorem Owned.startPublish (outside : (s.threads thread).slot = none)
    (taken : after.slot = some slot.index) :
    Owned (s.perform thread (.startPublish token, after)) := by
  have owner : s.inventory.cell (.reserved token) = some slot.index :=
    congrArg Handle.reservedSlot live
  have applied : s.apply thread (.startPublish token) =
      { (s.setSlot slot.index .borrowed).setReserved token .busy with
        reservedCount := s.reservedCount - 1
        usableSize := s.usableSize + 1 } := by
    simp only [apply, live]
  have free : s.inventory.cell (.flight thread) = none := outside
  refine owned.one applied (Inventory.pass_transfer (by simp) owner free) ?_
    owned.stocked.vacantOnce owned.stocked.quarantinedOnce rfl rfl rfl
  rw [apply_cell_reserved thread applied rfl rfl rfl, taken]
  exact congrArg (update _ _) owner.symm

/-- `rollback` makes a reserved slot vacant. -/
theorem Owned.rollback (kept : after.slot = (s.threads thread).slot) :
    Owned (s.perform thread (.rollback token, after)) := by
  have owner : s.inventory.cell (.reserved token) = some slot.index :=
    congrArg Handle.reservedSlot live
  have applied : s.apply thread (.rollback token) =
      { (s.setSlot slot.index .vacant).setReserved token .empty with
        vacant := s.vacant ++ [slot.index]
        reservedCount := s.reservedCount - 1 } := by
    simp only [apply, live]
  have cell := apply_cell_reserved thread applied rfl rfl rfl
  have fresh : slot.index ∉ s.vacant :=
    owned.absent .vacant (.reserved token) owner (by simp)
  have once := owned.stocked.vacantOnce.concat fresh
  rw [concat_eq_append] at once
  exact owned.one applied (Inventory.vacate_transfer owner) (stored_cell cell kept) once
    owned.stocked.quarantinedOnce rfl rfl rfl

end

/-- `shutdown` quarantines the idle slots of one word. -/
theorem Owned.sweep {word : Nat} (owned : Owned s)
    (kept : after.slot = (s.threads thread).slot) :
    Owned (s.perform thread (.sweep word, after)) := by
  have cell : (s.perform thread (.sweep word, after)).inventory.cell = s.inventory.cell := by
    rw [perform_cell, apply_cell thread rfl rfl rfl, kept]
    exact update_eq_self (Cell.flight thread) s.inventory.cell
  have once := s.nodup_sweptSlots word
  have moved : Inventory.Transfer s.inventory (s.perform thread (.sweep word, after)).inventory
      .idle .quarantined (s.sweptSlots word).toFinset := by
    refine ⟨by simp, ?_, ?_, ?_, ?_⟩
    · intro index moves
      exact ((s.mem_sweptSlots word index).mp (mem_toFinset.mp moves)).1
    · intro index
      refine (s.idle_sweep thread word index).trans ?_
      rw [mem_toFinset, s.mem_sweptSlots]
      tauto
    · intro index
      rw [mem_toFinset]
      exact mem_append.trans or_comm
    · intro place here there index
      cases place with
      | idle => exact absurd rfl here
      | quarantined => exact absurd rfl there
      | vacant => exact Iff.rfl
      | cell owner =>
        change (s.perform thread (.sweep word, after)).inventory.cell owner = _ ↔ _
        rw [cell]
        rfl
  have apart : (s.quarantined ++ s.sweptSlots word).Nodup := by
    rw [nodup_append]
    refine ⟨owned.stocked.quarantinedOnce, once, ?_⟩
    rintro index member _ swept rfl
    have idle := ((s.mem_sweptSlots word index).mp swept).1
    have both := owned.stocked.allotted.unshared index .idle .quarantined idle member
    cases both
  have count : (s.sweptSlots word).toFinset.card = (s.sweptSlots word).length :=
    toFinset_card_of_nodup once
  refine owned.transfer moved (s.perform_capacity thread _) owned.stocked.vacantOnce apart
    ?_ ?_ ?_ rfl
  · intro index moves
    exact if_pos (mem_toFinset.mp moves)
  · intro index stays
    exact if_neg (fun swept => stays (mem_toFinset.mpr swept))
  · rw [count]
    rfl

end Accounting

end Menagerie.Starling.Pool
