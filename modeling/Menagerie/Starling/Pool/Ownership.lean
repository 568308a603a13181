import Menagerie.Starling.Pool.Accounts

/-!
# Ownership of slots

Every move of a thread is a transfer in the inventory or leaves it alone. Hence in every
reachable state the accounts are right: no slot is lost, none is owned twice.
-/

namespace Menagerie.Starling.Pool

open State

/-- The effects that move no slot. -/
def Effect.stays (effect : Effect) : Bool :=
  !effect.onLedger && !effect.onBorrowed && !effect.onReserved && effect.hold.isNone

theorem SlotFlow.of_stays {s : State} {before after : Option Nat} {effect : Effect}
    (flow : SlotFlow s before after effect) (stays : effect.stays = true) : after = before := by
  cases effect with
  | claim _ | reclaim _ | publish _ | quarantine _ | reserveIdle _ | newBorrowed _ | assign _ _
  | selfAssign _ _ | takeBack _ | abandonSlot _ | takeToken _ | startPublish _ => cases stays
  | _ => exact flow

/-- A completion without a slot constructs nothing. -/
theorem State.addResult_unassigned {s : State} {waiter : Nat}
    (rejected : (s.nodes waiter).state ≠ .assigned) : s.addResult waiter = s := by
  unfold addResult
  split
  · rename_i index outcome
    exact absurd (WaiterNode.result_ok outcome).1 rejected
  · rfl

theorem State.addResult_assigned {s : State} {waiter : Nat}
    (assigned : (s.nodes waiter).state = .assigned) :
    s.addResult waiter = s.addBorrowed (s.nodes waiter).assignedSlot := by
  simp [addResult, WaiterNode.result, assigned]

theorem Owned.move {s : State} {thread : Nat} {effect : Effect} {after : Frame} (owned : Owned s)
    (borrowed : s.BorrowedTokens) (reserved : s.ReservedTokens)
    (sound : ∀ waiter, (s.profile waiter).Sound)
    (moves : Moves s (s.threads thread) effect after) :
    Owned (s.perform thread (effect, after)) := by
  have flow := moves.slot
  obtain ⟨borrows, reserves⟩ := moves.tokens
  have prior := moves.node.prior sound rfl
  have slots := prior.slots thread
  have fresh : s.borrowed s.borrowedCount = .absent := borrowed.fresh _ (Nat.le_refl _)
  have unused : s.reserved s.reservedTokens = .absent := reserved.fresh _ (Nat.le_refl _)
  by_cases stays : effect.stays = true
  · have apart := stays
    simp only [Effect.stays, Bool.and_eq_true, Bool.not_eq_true', Option.isNone_iff_eq_none]
      at apart
    obtain ⟨⟨⟨ledger, objects⟩, reservations⟩, unheld⟩ := apart
    rw [unheld] at slots
    exact owned.idle (flow.of_stays stays) ledger objects reservations slots
  cases effect with
  | claim word => exact owned.claim flow.1 flow.2.1 flow.2.2
  | reclaim index => exact owned.reclaim flow.1 flow.2.1 flow.2.2
  | publish index => exact owned.publish flow.1 flow.2
  | quarantine index => exact owned.quarantine flow.1 flow.2
  | reserveVacant =>
    cases last : s.vacant.getLast? with
    | none => exact owned.noop flow (by simp only [apply, last])
    | some index => exact owned.reserveVacant last unused flow
  | reserveQuarantined =>
    cases last : s.quarantined.getLast? with
    | none => exact owned.noop flow (by simp only [apply, last])
    | some index => exact owned.reserveQuarantined last unused flow
  | reserveIdle index => exact owned.reserveIdle unused flow.1 flow.2
  | sweep word => exact owned.sweep flow
  | startPublish token =>
    obtain ⟨slot, live, outside, taken⟩ := flow
    exact owned.startPublish live outside taken
  | rollback token =>
    obtain ⟨⟨slot, live⟩, -⟩ := reserves
    exact owned.rollback live flow
  | newBorrowed index =>
    have cell := @State.apply_cell_borrowed s thread (.newBorrowed index) _ _ rfl rfl rfl
    exact owned.land rfl (.borrowed _) cell (congrArg Handle.slot fresh) flow.1 flow.2 rfl rfl
  | takeToken token =>
    obtain ⟨index, live, outside, taken⟩ := flow
    have cell := @State.apply_cell_borrowed s thread (.takeToken token) _ _ rfl rfl rfl
    exact owned.lift rfl (.borrowed token) cell (congrArg Handle.slot live) outside taken rfl rfl
  | clearToken token =>
    refine owned.settled flow (s.apply_ledger thread rfl) ?_
    rw [apply_cell_borrowed thread rfl rfl rfl, Function.update_eq_self_iff]
    exact (congrArg Handle.slot (borrowed.busy thread token borrows.1)).symm
  | assignToken token source =>
    refine owned.replaceBorrowed rfl flow source rfl slots rfl ?_
    rcases borrows.1 with used | ⟨-, empty⟩
    · exact congrArg Handle.slot (borrowed.busy thread token used)
    · exact congrArg Handle.slot empty
  | moveToken source =>
    exact owned.replaceBorrowed rfl flow source rfl slots rfl (congrArg Handle.slot fresh)
  | endPublish token =>
    have busy := reserved.busy thread token reserves.1
    refine owned.keepReserved flow rfl rfl rfl rfl slots ?_
    rw [busy]
    rfl
  | assignReserved token source =>
    exact owned.replaceReserved rfl flow source rfl slots rfl
      (congrArg Handle.reservedSlot reserves.1)
  | moveReserved source =>
    exact owned.replaceReserved rfl flow source rfl slots rfl (congrArg Handle.reservedSlot unused)
  | construct token =>
    obtain ⟨⟨slot, live⟩, -⟩ := reserves
    have applied : s.apply thread (.construct token) =
        s.setReserved token (.live { slot with constructed := true }) := by
      simp only [apply, live]
    exact owned.keepReserved flow applied rfl rfl rfl rfl (congrArg Handle.reservedSlot live).symm
  | destroy token =>
    obtain ⟨⟨slot, live⟩, -⟩ := reserves
    have applied : s.apply thread (.destroy token) =
        s.setReserved token (.live { slot with constructed := false }) := by
      simp only [apply, live]
    exact owned.keepReserved flow applied rfl rfl rfl rfl (congrArg Handle.reservedSlot live).symm
  | assign waiter index | selfAssign waiter index =>
    have free : (s.nodes waiter).state ≠ .assigned := by
      rw [prior.2]
      decide
    exact owned.land rfl (.waiter waiter) (apply_cell_waiter thread rfl rfl slots)
      (WaiterNode.slot_of_unassigned free) flow.1 flow.2 rfl rfl
  | takeBack waiter | abandonSlot waiter =>
    exact owned.lift rfl (.waiter waiter) (apply_cell_waiter thread rfl rfl slots)
      (WaiterNode.slot_of_assigned prior.1 prior.2) flow.1 flow.2 rfl rfl
  | hand waiter =>
    have table := (s.hand_borrowed thread waiter).1
    rw [addResult_assigned prior.2] at table
    exact owned.deliver rfl flow rfl table slots fresh
      (WaiterNode.slot_of_assigned prior.1 prior.2)
  | deliver waiter =>
    have table := (s.deliver_borrowed thread waiter).1
    by_cases assigned : (s.nodes waiter).state = .assigned
    · rw [addResult_assigned assigned] at table
      exact owned.deliver rfl flow rfl table slots fresh
        (WaiterNode.slot_of_assigned prior.1 assigned)
    · rw [addResult_unassigned assigned] at table
      have free : s.slots waiter = none := WaiterNode.slot_of_unassigned assigned
      have still := slots.trans (Function.update_eq_self_iff.mpr free.symm)
      exact owned.settled flow (s.apply_ledger thread rfl)
        (cell_eq (s.apply_threads thread _) (s.apply_reserved thread _ rfl).1 table still)
  | _ => exact absurd rfl stays

theorem Owned.initial (capacity threadCount : Nat) :
    Owned (State.initial capacity threadCount) := by
  have held : ∀ place index, (State.initial capacity threadCount).inventory.holds place index ↔
      place = .vacant ∧ index < capacity := by
    intro place index
    cases place with
    | vacant | quarantined => simp [State.initial, State.inventory, Inventory.holds]
    | idle => simp [State.initial, State.inventory, Inventory.holds, State.idle]
    | cell cell => cases cell <;> simp [State.initial, State.inventory, Inventory.holds, cells,
        reservedSlots, borrowedSlots, flights, slots, Handle.slot,
        Handle.reservedSlot, Frame.slot, WaiterNode.slot]
  have none : ∀ account, account ≠ .vacant → Placement.ofKind Place.account
      (State.initial capacity threadCount).inventory.holds capacity account = ∅ := by
    intro account other
    ext index
    simp only [Placement.mem_ofKind, held, Finset.notMem_empty, iff_false]
    rintro ⟨-, place, named, rfl, -⟩
    exact other named.symm
  refine ⟨⟨⟨?_, ?_, ?_⟩, ?_, ?_⟩, ?_, ?_, ?_⟩
  · intro place index here
    exact ((held place index).mp here).2
  · intro index known
    exact ⟨.vacant, (held .vacant index).mpr ⟨rfl, known⟩⟩
  · intro index left right first second
    rw [((held left index).mp first).1, ((held right index).mp second).1]
  · exact List.nodup_reverse.mpr List.nodup_range
  · exact List.nodup_nil
  · intro place index here
    rw [((held place index).mp here).1]
    rfl
  · exact (congrArg Finset.card (none .usable (by decide))).symm
  · exact (congrArg Finset.card (none .reserved (by decide))).symm

theorem reachable_owned {capacity : Nat} {s : State} (reached : (system capacity).Reachable s) :
    Owned s := by
  refine invariant_of_moves Owned reached (Owned.initial capacity) ?_ ?_
  · intro s now owned
    exact ⟨owned.stocked, owned.labelled, owned.usable, owned.reserved⟩
  · intro s thread effect after before owned _ moves
    obtain ⟨borrowed, reserved⟩ := reachable_tokens before
    exact owned.move borrowed reserved (reachable_sound before) moves

section Conservation

variable {capacity : Nat} {s : State}

theorem reachable_capacity (reached : (system capacity).Reachable s) : s.capacity = capacity := by
  refine invariant_of_moves (fun s => s.capacity = capacity) reached (fun _ => rfl)
    (fun _ _ same => same) ?_
  intro s thread effect after _ same _ _
  rw [s.perform_capacity]
  exact same

theorem Owned.card_list (owned : Owned s) (place : Place) (list : List Nat)
    (only : ∀ other : Place, other.account = place.account → other = place)
    (listed : ∀ index, s.inventory.holds place index ↔ index ∈ list) (once : list.Nodup) :
    (Placement.ofKind Place.account s.inventory.holds s.capacity place.account).card =
      list.length := by
  have slots : Placement.ofKind Place.account s.inventory.holds s.capacity place.account =
      list.toFinset := by
    ext index
    rw [Placement.mem_ofKind, List.mem_toFinset, ← listed index]
    constructor
    · rintro ⟨-, other, named, held⟩
      rw [only other named] at held
      exact held
    · intro held
      exact ⟨owned.stocked.allotted.inside place index held, place, rfl, held⟩
  rw [slots, List.toFinset_card_of_nodup once]

theorem Place.eq_vacant {place : Place} (named : place.account = .vacant) : place = .vacant := by
  rcases place with _ | _ | _ | ⟨_ | _ | _ | _⟩
  case vacant => rfl
  all_goals cases named

theorem Place.eq_quarantined {place : Place} (named : place.account = .quarantined) :
    place = .quarantined := by
  rcases place with _ | _ | _ | ⟨_ | _ | _ | _⟩
  case quarantined => rfl
  all_goals cases named

theorem Owned.capacity_eq (owned : Owned s) : s.capacity =
    s.vacant.length + s.reservedCount + s.quarantined.length + s.usableSize := by
  have vacant := owned.card_list .vacant s.vacant (fun _ => Place.eq_vacant)
    (fun _ => Iff.rfl) owned.stocked.vacantOnce
  have quarantined := owned.card_list .quarantined s.quarantined (fun _ => Place.eq_quarantined)
    (fun _ => Iff.rfl) owned.stocked.quarantinedOnce
  have total : ∑ account : Account, (Placement.ofKind Place.account s.inventory.holds
      s.capacity account).card = s.capacity := owned.stocked.allotted.sum_card
  have expanded : ∑ account : Account, (Placement.ofKind Place.account s.inventory.holds
      s.capacity account).card = s.vacant.length + (s.reservedCount +
        (s.usableSize + s.quarantined.length)) := by
    rw [owned.reserved, owned.usable, ← vacant, ← quarantined]
    rfl
  omega

theorem Owned.idleCount_le (owned : Owned s) : s.idleCount ≤ s.usableSize := by
  have inside : ∀ index, s.idle index = true → index < s.capacity :=
    owned.stocked.allotted.inside .idle
  rw [s.idleCount_eq inside s.capacity_le_words, owned.usable]
  refine Finset.card_le_card ?_
  intro index member
  obtain ⟨known, idle⟩ := Finset.mem_filter.mp member
  exact Placement.mem_ofKind.mpr ⟨Finset.mem_range.mp known, .idle, rfl, idle⟩

theorem Owned.cell_injective (owned : Owned s) (left right : Cell) {index : Nat}
    (first : s.inventory.cell left = some index) (second : s.inventory.cell right = some index) :
    left = right := by
  have same := owned.stocked.allotted.unshared index (.cell left) (.cell right) first second
  cases same
  rfl

/-- Every slot is at exactly one place, so no two token objects own the same slot, and the accounts
add up to the capacity. -/
theorem slot_at_one_place (reached : (system capacity).Reachable s) :
    (∀ index, index < capacity → ∃! place, s.inventory.holds place index) ∧
    (∀ place index, s.inventory.holds place index → index < capacity) ∧
    s.vacant.Nodup ∧ s.quarantined.Nodup ∧
    (∀ left right index, s.borrowed left = .live index → s.borrowed right = .live index →
      left = right) ∧
    (∀ left right first second, s.reserved left = .live first → s.reserved right = .live second →
      first.index = second.index → left = right) ∧
    (∀ left right index slot, s.borrowed left = .live index → s.reserved right = .live slot →
      slot.index ≠ index) ∧
    (s.mutex = none →
      capacity = s.vacant.length + s.reservedCount + s.quarantined.length + s.usableSize ∧
      s.idleCount ≤ s.usableSize) := by
  have owned := reachable_owned reached
  have size := reachable_capacity reached
  have allotted := owned.stocked.allotted
  rw [size] at allotted
  refine ⟨fun index known => allotted.exists_unique known, allotted.inside,
    owned.stocked.vacantOnce, owned.stocked.quarantinedOnce, ?_, ?_, ?_, ?_⟩
  · intro left right index first second
    have same := owned.cell_injective (.borrowed left) (.borrowed right)
      (congrArg Handle.slot first) (congrArg Handle.slot second)
    cases same
    rfl
  · intro left right first second former latter shared
    have same := owned.cell_injective (.reserved left) (.reserved right)
      (congrArg Handle.reservedSlot former)
      ((congrArg Handle.reservedSlot latter).trans (congrArg some shared.symm))
    cases same
    rfl
  · intro left right index slot former latter shared
    have same := owned.cell_injective (.borrowed left) (.reserved right)
      (congrArg Handle.slot former)
      ((congrArg Handle.reservedSlot latter).trans (congrArg some shared))
    cases same
  · intro _
    rw [← size]
    exact ⟨owned.capacity_eq, owned.idleCount_le⟩

set_option maxRecDepth 4000 in
/-- A slot that was reserved, published, claimed and lent. -/
theorem lent_slot_at_one_place : ∃ s, (system 2).Reachable s ∧ s.mutex = none ∧
    s.borrowed 0 = .live 0 ∧ s.vacant = [1] ∧
    (∃! place, s.inventory.holds place 0) ∧ (∃! place, s.inventory.holds place 1) ∧
    2 = s.vacant.length + s.reservedCount + s.quarantined.length + s.usableSize := by
  refine (system 2).exists_reachable ⟨1, rfl⟩ (publishing ++ turns 0 .tryAcquire 5)
    ⟨_, rfl, fun reached => ?_⟩
  have placed := slot_at_one_place reached
  exact ⟨rfl, rfl, rfl, placed.1 0 (by decide), placed.1 1 (by decide),
    (placed.2.2.2.2.2.2.2 rfl).1⟩

end Conservation

end Menagerie.Starling.Pool
