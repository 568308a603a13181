import Menagerie.Starling.Pool.Waiters
import Menagerie.Starling.Pool.Bitmap

/-!
# Slots in flight

Between the atomic operation that takes a slot from one place and the one that puts it into
another, the slot is in a local variable of the thread. `Frame.slot` reads it off the program
point, `SlotFlow` says how each effect changes it, and `NodeMove.slots` does the same for the
slots of assigned waiters.
-/

namespace Menagerie.Starling.Pool

open Function State

/-- The slot that a thread has taken and not yet passed on. -/
def Frame.slot : Frame → Option Nat
  | .tryAcquireClaimed index | .quarantine index _ | .yield index | .acquireClaimed _ index
  | .acquireClaimedExpired _ index | .lowerGate _ _ index | .registerClaimed _ _ index
  | .takeIdleClaimed index | .giveBack index _ | .giveBackGate index _ | .publishIdle index _
  | .handoff _ index _ _ | .notify _ (.retry index _ _) => some index
  | _ => none

/-- How the slot in flight changes with each effect. -/
def SlotFlow (s : State) (before after : Option Nat) : Effect → Prop
  | .claim word => s.words word ≠ 0 ∧ before = none ∧ after = some (s.lowest word)
  | .reclaim index => s.idle index = true ∧ before = none ∧ after = some index
  | .publish index | .quarantine index | .reserveIdle index | .newBorrowed index
  | .assign _ index | .selfAssign _ index => before = some index ∧ after = none
  | .takeBack waiter | .abandonSlot waiter =>
    before = none ∧ after = some (s.nodes waiter).assignedSlot
  | .takeToken token => ∃ index, s.borrowed token = .live index ∧ before = none ∧ after = some index
  | .startPublish token =>
    ∃ slot, s.reserved token = .live slot ∧ before = none ∧ after = some slot.index
  | _ => after = before

theorem Scan.slot_empty (scan : Scan) : scan.empty.slot = none := by
  cases scan <;> rfl

theorem Scan.slot_found (scan : Scan) (index : Nat) : (scan.found index).slot = some index := by
  cases scan <;> rfl

/-- A selector keeps its slot across the notification. -/
theorem Selected.slot_resume (selected : Selected) (waiter : Nat) :
    selected.resume.slot = (Frame.notify waiter selected).slot := by
  fun_cases Selected.resume selected <;> rfl

/-- The slot that `reclaim_idle` finds set. -/
theorem State.idle_of_word {s : State} {index : Nat}
    {bits : { bits : BitVec 64 // bits.getLsbD (index % bitsPerWord) = true }}
    (same : s.words (index / bitsPerWord) = bits) : s.idle index = true := by
  rw [idle, same]
  exact bits.2

/-- The word that `claim_idle` finds. -/
theorem State.nonzero_of_word {s : State} {word : Nat} {bits : { bits : BitVec 64 // bits ≠ 0 }}
    (same : s.words word = bits) : s.words word ≠ 0 := by
  rw [same]
  exact bits.2

theorem Moves.slot {s : State} {frame after : Frame} {effect : Effect}
    (moves : Moves s frame effect after) : SlotFlow s frame.slot after.slot effect := by
  cases moves with
  | began operation outside moved =>
    subst outside
    revert moved
    fun_cases start s operation
    all_goals rintro ⟨⟩
    all_goals first
      | rfl
      | exact ⟨_, ‹_›, rfl, rfl⟩
  | continued choice moved =>
    revert moved
    fun_cases next s choice frame
    all_goals rintro ⟨⟩
    all_goals first
      | rfl
      | exact ⟨rfl, rfl⟩
      | exact ⟨_, ‹_›, rfl, rfl⟩
      | exact Scan.slot_empty _
      | exact Selected.slot_resume _ _
      | exact ⟨idle_of_word (And.right ‹_ ∧ _›), rfl, rfl⟩
      | exact ⟨nonzero_of_word (And.right ‹_ ∧ _›), rfl, Scan.slot_found _ _⟩
      | exact ⟨rfl, congrArg some (WaiterNode.result_ok ‹_›).2.symm⟩

/-- The slots that assigned waiters hold. -/
def State.slots (s : State) (waiter : Nat) : Option Nat := (s.nodes waiter).slot

/-- What an effect does to the slot of a waiter. -/
def Effect.hold : Effect → Option (Nat × Option Nat)
  | .assign waiter index | .selfAssign waiter index => some (waiter, some index)
  | .hand waiter | .takeBack waiter | .abandonSlot waiter | .deliver waiter => some (waiter, none)
  | _ => none

theorem WaiterNode.slot_of_unassigned {node : WaiterNode} (free : node.state ≠ .assigned) :
    node.slot = none := by
  simp [slot, free]

theorem WaiterNode.slot_of_finished {node : WaiterNode} (ended : node.pending = false) :
    node.slot = none := by
  simp [slot, ended]

theorem WaiterNode.slot_of_assigned {node : WaiterNode} (pending : node.pending = true)
    (assigned : node.state = .assigned) : node.slot = some node.assignedSlot := by
  simp [slot, pending, assigned]

section Holding

variable {s : State} {thread : Nat} {v : View}

section

variable {effect : Effect} {waiter : Nat}

theorem State.slots_of_target (target : s.target effect = some waiter) :
    (s.apply thread effect).slots =
      update s.slots waiter ((s.apply thread effect).nodes waiter).slot := by
  funext other
  by_cases same : other = waiter
  · rw [same, update_self, slots]
  · have kept := apply_profile_other s thread target same
    have node : (s.apply thread effect).nodes other = s.nodes other := congrArg Profile.node kept
    rw [update_of_ne same, slots, node, slots]

theorem State.slots_of_same (target : s.target effect = some waiter)
    (same : ((s.apply thread effect).nodes waiter).slot = (s.nodes waiter).slot) :
    (s.apply thread effect).slots = s.slots := by
  rw [slots_of_target target, same]
  exact update_eq_self waiter s.slots

theorem State.node_of_profile {p : Profile} (profile : (s.apply thread effect).profile waiter = p) :
    (s.apply thread effect).nodes waiter = p.node :=
  congrArg Profile.node profile

theorem State.slots_of_rejected (rejection : Rejection) (target : s.target effect = some waiter)
    (before : (s.nodes waiter).state ≠ .assigned)
    (after : ((s.apply thread effect).nodes waiter).state = rejection.state) :
    (s.apply thread effect).slots = s.slots := by
  refine slots_of_same target ?_
  rw [WaiterNode.slot_of_unassigned before, WaiterNode.slot_of_unassigned]
  rw [after]
  exact rejection.state_ne_assigned

end

section

variable {effect : Effect} {waiter : Nat} (target : s.target effect = some waiter)

include target

theorem State.slots_of_ended (before : (s.nodes waiter).state ≠ .assigned)
    (after : ((s.apply thread effect).nodes waiter).pending = false) :
    (s.apply thread effect).slots = s.slots := by
  refine slots_of_same target ?_
  rw [WaiterNode.slot_of_unassigned before, WaiterNode.slot_of_finished after]

/-- A call ends, and its slot, if any, goes elsewhere. -/
theorem State.slots_of_finished (after : ((s.apply thread effect).nodes waiter).pending = false) :
    (s.apply thread effect).slots = update s.slots waiter none := by
  rw [slots_of_target target, WaiterNode.slot_of_finished after]

theorem State.slots_of_given {index : Nat}
    (pending : ((s.apply thread effect).nodes waiter).pending = true)
    (assigned : ((s.apply thread effect).nodes waiter).state = .assigned)
    (given : ((s.apply thread effect).nodes waiter).assignedSlot = index) :
    (s.apply thread effect).slots = update s.slots waiter (some index) := by
  rw [slots_of_target target, WaiterNode.slot_of_assigned pending assigned, given]

end

theorem State.queued_of_linked (sound : ∀ waiter, (s.profile waiter).Sound) {waiter : Nat}
    (linked : waiter ∈ s.waiters) :
    (s.nodes waiter).pending = true ∧ (s.nodes waiter).state = .queued := by
  obtain ⟨phase, fits⟩ := (sound waiter).fits
  exact (fits.linked (profile_linked linked)).2

/-- A node that does not exist yet is the default one. -/
theorem Profile.Sound.unborn {p : Profile} (sound : p.Sound) (early : p.born = false) :
    p.node = {} := by
  obtain ⟨phase, fits⟩ := sound.fits
  cases phase with
  | unborn => exact fits.2.1
  | _ =>
    have born : p.born = true := fits.1
    rw [early] at born
    cases born

/-- A completion is posted only while the call is pending and its context runs. -/
theorem Profile.Sound.posted {p : Profile} (sound : p.Sound) (posted : p.node.posted ≠ 0)
    (running : p.stopped = false) : p.node.pending = true ∧ p.node.state ≠ .queued := by
  obtain ⟨phase, fits⟩ := sound.fits
  cases phase with
  | unborn => exact absurd (by rw [fits.2.1]) posted
  | waits thread stage | starts thread stage | queued | chosen thread =>
    exact absurd fits.2.2.2.1 posted
  | posted => exact ⟨fits.2.1.2.1, fits.2.2.2.2.2.2.1⟩
  | ended =>
    rcases fits.2.2.2.2.2.2 with ⟨-, stopped⟩ | ⟨none, -⟩
    · rw [running] at stopped
      cases stopped
    · exact absurd none posted
  | abandoned thread =>
    have stopped := fits.2.2.2.1
    rw [running] at stopped
    cases stopped

/-- What the target of an effect is like before it. -/
def Prior (s : State) : Effect → Prop
  | .assign waiter _ | .selfAssign waiter _ =>
    (s.nodes waiter).pending = true ∧ (s.nodes waiter).state = .queued
  | .linkFailed waiter | .unlink waiter _ | .complete waiter _ =>
    (s.nodes waiter).state = .queued
  | .settle waiter _ => (s.nodes waiter).state = .queued
  | .retire waiter | .discard waiter | .abandon waiter => (s.nodes waiter).state ≠ .assigned
  | .hand waiter | .takeBack waiter | .abandonSlot waiter =>
    (s.nodes waiter).pending = true ∧ (s.nodes waiter).state = .assigned
  | .deliver waiter => (s.nodes waiter).pending = true ∧ (s.nodes waiter).state ≠ .queued
  | .allocate _ _ => s.nodes s.nodeCount = {}
  | _ => True

theorem Prior.of_quiet {effect : Effect} (silent : effect.quiet = true) : Prior s effect := by
  cases effect with
  | link _ _ | linkFailed _ | unlink _ _ | complete _ _ | assign _ _ | selfAssign _ _
  | settle _ _ | allocate _ _ | enroll _ | retire _ | discard _ | takeBack _ | abandon _
  | abandonSlot _ | hand _ | deliver _ | unpin _ | post _ | disarm _ | stopContext _ =>
    cases silent
  | _ => trivial

theorem NodeMove.prior (sound : ∀ waiter, (s.profile waiter).Sound) {effect : Effect}
    {after : View} (viewed : (s.threads thread).view = v) (move : NodeMove s v effect after) :
    Prior s effect := by
  cases move with
  | quiet silent | finish silent => exact Prior.of_quiet silent
  | allocate request connected stage unowned running staged =>
    have early : Nat.blt s.nodeCount s.nodeCount = false :=
      Bool.eq_false_iff.mpr (fun known => Nat.lt_irrefl _ (Nat.blt_eq.mp known))
    exact (sound s.nodeCount).unborn early
  | settle waiter rejection owned =>
    obtain ⟨phase, fits⟩ := (sound waiter).fits
    rcases owned with entering | ⟨fresh, undecided⟩
    · exact (fits.entering (owner_of_view viewed entering)).2.2
    · exact (fits.fresh_async (owner_of_view viewed fresh)).resolve_right undecided
  | selfAssign waiter index owned =>
    obtain ⟨phase, fits⟩ := (sound waiter).fits
    have owner := owner_of_view viewed owned
    exact ⟨fits.pending_of_owner owner, (fits.entering owner).2.2⟩
  | linkFailed waiter owned =>
    obtain ⟨phase, fits⟩ := (sound waiter).fits
    exact (fits.entering (owner_of_view viewed owned)).2.2
  | expire waiter owned waiting => exact waiting
  | withdraw waiter abandoned linked | complete waiter rejection linked idle own =>
    exact (queued_of_linked sound linked).2
  | assign waiter index linked idle own => exact queued_of_linked sound linked
  | reject waiter rejection selected waiting unlinked free => exact waiting
  | retire waiter stage owned last =>
    obtain ⟨phase, fits⟩ := (sound waiter).fits
    have owner := owner_of_view viewed owned
    rcases last with rfl | rfl | ⟨-, rejected⟩
    · rw [Prior, show (s.nodes waiter).state = _ from fits.fresh_sync owner]
      decide
    · rw [Prior, show (s.nodes waiter).state = _ from (fits.entering owner).2.2]
      decide
    · exact rejected
  | hand waiter owned assigned | takeBack waiter owned assigned =>
    obtain ⟨phase, fits⟩ := (sound waiter).fits
    exact ⟨fits.pending_of_owner (owner_of_view viewed owned), assigned⟩
  | discard waiter stage owned last =>
    obtain ⟨phase, fits⟩ := (sound waiter).fits
    rcases last with rfl | ⟨-, rejected⟩
    · rw [Prior, show (s.nodes waiter).state = _ from fits.failed (owner_of_view viewed owned)]
      decide
    · exact rejected
  | deliver waiter posted running => exact (sound waiter).posted posted running
  | abandon waiter rest abandoned chosen rejected => exact rejected
  | abandonSlot waiter rest abandoned assigned =>
    obtain ⟨phase, fits⟩ := (sound waiter).fits
    have present : (s.profile waiter).abandons thread ≠ 0 := by
      simp [profile, viewed, abandoned]
    cases fits.of_abandons present
    exact ⟨fits.2.2.1, assigned⟩
  | _ => trivial

theorem Prior.slots (thread : Nat) {effect : Effect} (prior : Prior s effect) :
    (s.apply thread effect).slots = match effect.hold with
      | none => s.slots
      | some (waiter, content) => update s.slots waiter content := by
  by_cases silent : effect.quiet = true
  · have same : (s.apply thread effect).slots = s.slots := by
      funext waiter
      have kept := apply_profile_quiet s thread waiter silent
      rw [State.slots, State.node_of_profile kept]
      rfl
    cases effect with
    | assign _ _ | selfAssign _ _ | hand _ | takeBack _ | abandonSlot _ | deliver _ => cases silent
    | _ => exact same
  cases effect with
  | assign waiter index =>
    obtain ⟨notifier, profile⟩ := assign_profile s thread waiter index
    have node := node_of_profile profile
    refine slots_of_given rfl ?_ ?_ ?_
    all_goals rw [node]
    · exact prior.1
    · rfl
    · rfl
  | selfAssign waiter index =>
    have node := node_of_profile (selfAssign_profile s thread waiter index)
    refine slots_of_given rfl ?_ ?_ ?_
    all_goals rw [node]
    · exact prior.1
    · rfl
    · rfl
  | linkFailed waiter =>
    refine slots_of_rejected .cancelled rfl (by rw [prior]; decide) ?_
    rw [node_of_profile (linkFailed_profile s thread waiter)]
    rfl
  | unlink waiter rejection =>
    refine slots_of_rejected rejection rfl (by rw [prior]; decide) ?_
    rw [node_of_profile (unlink_profile s thread waiter rejection)]
    rfl
  | complete waiter rejection =>
    obtain ⟨notifier, profile⟩ := complete_profile s thread waiter rejection
    refine slots_of_rejected rejection rfl (by rw [prior]; decide) ?_
    rw [node_of_profile profile]
    rfl
  | settle waiter rejection =>
    refine slots_of_rejected rejection rfl (by rw [prior]; decide) ?_
    rw [node_of_profile (settle_profile s thread waiter rejection)]
    rfl
  | retire waiter =>
    refine slots_of_ended rfl prior ?_
    rw [node_of_profile (retire_profile s thread waiter)]
    rfl
  | discard waiter =>
    refine slots_of_ended rfl prior ?_
    rw [node_of_profile (discard_profile s thread waiter)]
    rfl
  | abandon waiter =>
    refine slots_of_ended rfl prior ?_
    rw [node_of_profile (abandon_profile s thread waiter)]
    rfl
  | hand waiter =>
    refine slots_of_finished rfl ?_
    rw [node_of_profile (hand_profile s thread waiter prior.2)]
    rfl
  | takeBack waiter =>
    refine slots_of_finished rfl ?_
    rw [node_of_profile (takeBack_profile s thread waiter)]
    rfl
  | abandonSlot waiter =>
    refine slots_of_finished rfl ?_
    rw [node_of_profile (abandonSlot_profile s thread waiter)]
    rfl
  | deliver waiter =>
    refine slots_of_finished rfl ?_
    rw [node_of_profile (deliver_profile s thread waiter)]
    rfl
  | allocate request connected =>
    refine slots_of_same rfl ?_
    rw [node_of_profile (allocate_profile s thread request connected)]
    rw [show s.nodes s.nodeCount = {} from prior]
    rfl
  | link waiter armed =>
    refine slots_of_same rfl ?_
    rw [node_of_profile (link_profile s thread waiter armed)]
    rfl
  | enroll waiter =>
    refine slots_of_same rfl ?_
    rw [node_of_profile (enroll_profile s thread waiter)]
    rfl
  | unpin waiter =>
    refine slots_of_same rfl ?_
    rw [node_of_profile (unpin_profile s thread waiter)]
    rfl
  | post waiter =>
    refine slots_of_same rfl ?_
    rw [node_of_profile (post_profile s thread waiter)]
    rfl
  | disarm waiter =>
    refine slots_of_same rfl ?_
    rw [node_of_profile (disarm_profile s thread waiter)]
    rfl
  | stopContext context => rfl
  | _ => exact absurd rfl silent

end Holding

end Menagerie.Starling.Pool
