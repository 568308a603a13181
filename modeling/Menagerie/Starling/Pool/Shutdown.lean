import Menagerie.Starling.Pool.Wakeup

/-!
# Shutdown

After `closed_` is set, every idle bit is still on the list of some thread: the sweep has not
reached its word, or the publisher that set it has yet to look at `closed_` again. Every waiter
left in the queue is still to be drained. When all calls have returned nothing is left, and a
call that began later found the pool closed at its first check.
-/

namespace Menagerie.Starling.Pool

open Function State List

/-- The thread will still remove an idle bit of a closed pool. -/
def Frame.clears (frame : Frame) (index : Nat) : Prop :=
  match frame with
  | .sweep word => word ≤ index / bitsPerWord
  | .recheckClosed named _ | .reclaimLoad named _ | .reclaimSwap named _ _ => named = index
  | _ => False

/-- The thread executes the first `shutdown` call. -/
def Frame.drains : Frame → Bool
  | .sweep _ | .drain _ | .notify _ .drain => true
  | _ => false

/-- What a move does about `closed_`. -/
def ClosingFlow (s : State) (before after : Frame) : Effect → Prop
  | .publish index => after.clears index ∨ s.closed = false
  | .close => s.mutex = none ∧ after = .sweep 0
  | .closeDone => before.drains = true ∨ s.closed = true
  | _ => True

/-- In the registration section, past the check of `closed_`. -/
def Frame.registers : Frame → Bool
  | .raiseGate _ _ => true
  | frame => frame.raised

theorem Frame.held_of_registers {frame : Frame} (registers : frame.registers = true) :
    frame.held = true := by
  cases frame with
  | raiseGate request waiter => rfl
  | _ => exact Frame.held_of_raised registers

section Flow

variable {s : State} {frame after : Frame} {effect : Effect} {index : Nat}

section

variable (moves : Moves s frame effect after)

include moves

/-- An idle bit of a closed pool is left alone only when it is gone. -/
theorem Moves.clears (clears : frame.clears index) :
    after.clears index ∨ s.closed = false ∨ s.idle index = false ∨ effect = .reclaim index ∨
      effect = .sweep (index / bitsPerWord) ∨ s.Clear (index / bitsPerWord) := by
  cases moves with
  | began operation outside moved =>
    subst outside
    exact False.elim clears
  | continued choice moved =>
    revert moved
    fun_cases next s choice frame
    all_goals rintro ⟨⟩
    all_goals first
      | exact False.elim clears
      | exact .inl clears
      | exact .inr (.inl (Bool.eq_false_iff.mpr ‹_›))
      | exact .inr (.inr (.inr (.inl (congrArg Effect.reclaim clears))))
      | exact .inr (.inr (.inl (clears ▸ Bool.eq_false_iff.mpr ‹_›)))
      | exact .inr (.inr (.inr (.inr (.inr (.inr
          (Nat.le_trans (Nat.le_of_not_lt ‹_›) clears))))))
      | exact (Nat.lt_or_eq_of_le clears).imp id
          (fun same => .inr (.inr (.inr (.inl (congrArg Effect.sweep same)))))

/-- A publication into a closed pool is looked at again, and `shutdown` closes before it ends. -/
theorem Moves.closing : ClosingFlow s frame after effect := by
  cases moves with
  | began operation outside moved =>
    revert moved
    fun_cases start s operation
    all_goals rintro ⟨⟩
    all_goals trivial
  | continued choice moved =>
    revert moved
    fun_cases next s choice frame
    all_goals rintro ⟨⟩
    all_goals first
      | trivial
      | exact .inl rfl
      | exact .inr (Bool.eq_false_iff.mpr ‹_›)
      | exact .inr ‹_›

/-- A `shutdown` call returns when the queue is empty. -/
theorem Moves.drains (drains : frame.drains = true) :
    after.drains = true ∨ s.waiters = [] := by
  cases moves with
  | began operation outside moved =>
    subst outside
    cases drains
  | continued choice moved =>
    revert moved
    fun_cases next s choice frame
    all_goals rintro ⟨⟩
    all_goals first
      | exact .inl rfl
      | exact .inr ‹_›
      | cases drains
      | (cases ‹Selected› <;> first | exact .inl rfl | cases drains)

/-- The first `shutdown` call begins by closing the pool. -/
theorem Moves.draining (drains : after.drains = true) :
    frame.drains = true ∨ effect = .close := by
  cases moves with
  | began operation outside moved =>
    revert moved
    fun_cases start s operation
    all_goals rintro ⟨⟩
    all_goals cases drains
  | continued choice moved =>
    revert moved
    fun_cases next s choice frame
    all_goals rintro ⟨⟩
    all_goals first
      | exact .inl rfl
      | exact .inr rfl
      | cases drains
      | (cases ‹Scan› <;> cases drains)
      | (cases ‹Selected› with
         | served serving after => cases serving <;> cases drains
         | drain => exact .inl rfl
         | _ => cases drains)

/-- A registration enters its section only while the pool is open. -/
theorem Moves.registers (registers : after.registers = true) :
    frame.registers = true ∨ s.closed = false := by
  cases moves with
  | began operation outside moved =>
    revert moved
    fun_cases start s operation
    all_goals rintro ⟨⟩
    all_goals cases registers
  | continued choice moved =>
    revert moved
    fun_cases next s choice frame
    all_goals rintro ⟨⟩
    all_goals first
      | exact .inl rfl
      | cases registers; done
      | exact .inr (Bool.eq_false_iff.mpr ‹_›)
      | (cases ‹Scan› <;> first | exact .inl rfl | cases registers)
      | (cases ‹Selected› with
         | served serving after => cases serving <;> cases registers
         | _ => cases registers)

end

end Flow

/-- Some thread knows what is left to do in a closed pool. -/
structure Closing (s : State) : Prop where
  clears : s.closed = true → ∀ index, s.idle index = true →
    ∃ thread, (s.threads thread).clears index
  drains : s.closed = true → s.waiters ≠ [] → ∃ thread, (s.threads thread).drains = true
  draining : ∀ thread, (s.threads thread).drains = true → s.closed = true
  registers : ∀ thread, (s.threads thread).registers = true → s.closed = false

section Closing

variable {s : State} {thread : Nat} {effect : Effect} {after : Frame}

theorem Closing.clears_move (closing : Closing s) (owned : Owned s)
    (moves : Moves s (s.threads thread) effect after)
    (closed : (s.perform thread (effect, after)).closed = true) {index : Nat}
    (idle : (s.perform thread (effect, after)).idle index = true) :
    ∃ other, ((s.perform thread (effect, after)).threads other).clears index := by
  have here : (s.perform thread (effect, after)).threads thread = after :=
    s.perform_threads_self thread effect after
  have nonzero : ∀ word, effect = .claim word → s.words word ≠ 0 := by
    rintro word rfl
    exact moves.slot.1
  by_cases closes : effect = .close
  · subst closes
    refine ⟨thread, ?_⟩
    rw [here, moves.closing.2]
    exact Nat.zero_le _
  have before : s.closed = true := (apply_closed closes).symm.trans closed
  rcases idle_of_apply nonzero idle with present | rfl
  · obtain ⟨other, clears⟩ := closing.clears before index present
    by_cases same : other = thread
    · subst same
      rcases moves.clears clears with kept | running | gone | rfl | rfl | clear
      · exact ⟨other, by rw [here]; exact kept⟩
      · rw [before] at running
        cases running
      · rw [present] at gone
        cases gone
      · exact absurd rfl ((s.idle_reclaim other index index).mp idle).2
      · exact absurd rfl ((s.idle_sweep other _ index).mp idle).2
      · exact absurd clear (owned.not_clear present)
    · refine ⟨other, ?_⟩
      rw [perform_threads_other s thread effect after same]
      exact clears
  · rcases moves.closing with clears | running
    · exact ⟨thread, by rw [here]; exact clears⟩
    · rw [before] at running
      cases running

theorem Closing.drains_move (closing : Closing s)
    (moves : Moves s (s.threads thread) effect after)
    (closed : (s.perform thread (effect, after)).closed = true)
    (queued : (s.perform thread (effect, after)).waiters ≠ []) :
    ∃ other, ((s.perform thread (effect, after)).threads other).drains = true := by
  have here : (s.perform thread (effect, after)).threads thread = after :=
    s.perform_threads_self thread effect after
  by_cases closes : effect = .close
  · subst closes
    refine ⟨thread, ?_⟩
    rw [here, moves.closing.2]
    rfl
  have before : s.closed = true := (apply_closed closes).symm.trans closed
  rcases queued_of_apply queued with present | ⟨waiter, armed, rfl⟩
  · obtain ⟨other, drains⟩ := closing.drains before present
    by_cases same : other = thread
    · subst same
      rcases moves.drains drains with kept | none
      · exact ⟨other, by rw [here]; exact kept⟩
      · exact absurd none present
    · refine ⟨other, ?_⟩
      rw [perform_threads_other s thread effect after same]
      exact drains
  · -- A registration in progress would have found the pool open.
    have raised : (s.threads thread).raised = true := moves.gate.1
    have registers : (s.threads thread).registers = true := by
      cases frame : s.threads thread with
      | raiseGate request waiter => rfl
      | _ =>
        rw [frame] at raised
        exact raised
    have running := closing.registers thread registers
    rw [before] at running
    cases running

theorem Closing.move (closing : Closing s) (owned : Owned s) (locked : Locked s)
    (moves : Moves s (s.threads thread) effect after) :
    Closing (s.perform thread (effect, after)) := by
  have here : (s.perform thread (effect, after)).threads thread = after :=
    s.perform_threads_self thread effect after
  refine ⟨fun closed index => closing.clears_move owned moves closed,
    closing.drains_move moves, ?_, ?_⟩
  · intro other drains
    have before : s.closed = true ∨ effect = .close := by
      by_cases same : other = thread
      · subst same
        rw [here] at drains
        exact (moves.draining drains).imp_left (closing.draining other)
      · rw [perform_threads_other s thread effect after same] at drains
        exact .inl (closing.draining other drains)
    by_cases closes : effect = .close
    · subst closes
      rfl
    · exact (apply_closed closes).trans (before.resolve_right closes)
  · intro other registers
    by_cases closes : effect = .close
    · -- `shutdown` closes the pool with the mutex, so nobody is registering.
      subst closes
      obtain ⟨free, swept⟩ := moves.closing
      by_cases same : other = thread
      · rw [same, here, swept] at registers
        cases registers
      · rw [perform_threads_other s thread _ after same] at registers
        have owner := (locked other).mpr (Frame.held_of_registers registers)
        rw [free] at owner
        cases owner
    · refine (apply_closed closes).trans ?_
      by_cases same : other = thread
      · subst same
        rw [here] at registers
        exact (moves.registers registers).elim (closing.registers other) id
      · rw [perform_threads_other s thread effect after same] at registers
        exact closing.registers other registers

end Closing

/-- In every reachable state what is left to do in a closed pool is known. -/
theorem reachable_closing {capacity : Nat} {s : State} (reached : (system capacity).Reachable s) :
    Closing s := by
  refine invariant_of_moves Closing reached ?_
    (fun _ _ closing => ⟨closing.clears, closing.drains, closing.draining, closing.registers⟩) ?_
  · intro threadCount
    exact ⟨nofun, nofun, nofun, nofun⟩
  · intro s thread effect after before closing _ moves
    exact closing.move (reachable_owned before) (reachable_locked before) moves

/-- The call gives a slot or an accepted publication. -/
def Outcome.grants : Outcome → Bool
  | .borrowed _ | .reserved _ | .published true => true
  | _ => false

/-- The call gives something when the routine has finished. -/
def Return.admitted : Return → Bool
  | .published _ => true
  | .toCaller outcome => outcome.grants
  | _ => false

/-- The call of a scan has passed a check of `closed_`. -/
def Scan.admitted : Scan → Bool
  | .serve after => after.admitted
  | _ => true

/-- The call has passed a check of `closed_` and may give something. -/
def Frame.admitted : Frame → Bool
  | .tryAcquireClaimed _ | .yield _ | .acquireExpired _ | .acquireClaimed _ _
  | .acquireClaimedExpired _ _ | .allocate _ | .enroll _ _ | .register _ _ | .raiseGate _ _
  | .lowerGate _ _ _ | .registerClaimed _ _ _ | .park _ _ | .takeIdleGate
  | .takeIdleClaimed _ => true
  | .claimLoad scan _ | .claimSwap scan _ _ => scan.admitted
  | frame => (frame.continuation.map Return.admitted).getD false

/-- A call that began after `shutdown` was given something. -/
def Event.lateGrant : Event → Bool
  | .returned true outcome => outcome.grants
  | _ => false

/-- How a call comes to give something to its caller. -/
def GrantFlow (s : State) (before after : Frame) : Effect → Prop
  | .newBorrowed _ | .endPublish _ | .allocate _ _ | .reserveIdle _ => before.admitted = true
  | .reserveVacant | .reserveQuarantined => s.closed = false
  | .give outcome => (outcome.grants = true → before.admitted = true) ∧ after.admitted = false
  | .enter => after.admitted = false
  | _ => after.admitted = true → before.admitted = true ∨ s.closed = false

theorem Selected.admitted_resume {selected : Selected} {waiter : Nat}
    (admitted : selected.resume.admitted = true) :
    (Frame.notify waiter selected).admitted = true := by
  revert admitted
  fun_cases Selected.resume selected
  all_goals exact fun admitted => admitted

theorem Scan.admitted_empty {scan : Scan} (admitted : scan.empty.admitted = true) :
    scan.admitted = true := by
  cases scan <;> first | rfl | exact admitted

theorem Scan.admitted_found {scan : Scan} {index : Nat}
    (admitted : (scan.found index).admitted = true) : scan.admitted = true := by
  cases scan <;> first | rfl | exact admitted

/-- A call gives something only if it found the pool open. -/
theorem Moves.grants {s : State} {frame after : Frame} {effect : Effect}
    (moves : Moves s frame effect after) : GrantFlow s frame after effect := by
  cases moves with
  | began operation outside moved =>
    subst outside
    revert moved
    fun_cases start s operation
    all_goals rintro ⟨⟩
    all_goals first
      | rfl
      | (intro admitted; cases admitted)
  | continued choice moved =>
    revert moved
    fun_cases next s choice frame
    all_goals rintro ⟨⟩
    all_goals first
      | rfl
      | exact ⟨id, rfl⟩
      | exact ⟨fun _ => rfl, rfl⟩
      | exact fun _ => .inl rfl
      | exact fun admitted => .inl admitted
      | exact fun _ => .inr (Bool.eq_false_iff.mpr ‹_›)
      | exact fun admitted => .inl (Selected.admitted_resume admitted)
      | exact fun admitted => .inl (Scan.admitted_empty admitted)
      | exact fun admitted => .inl (Scan.admitted_found admitted)
      | exact Bool.eq_false_iff.mpr (fun closed => ‹¬ (_ ∨ _)› (.inl closed))

/-- Calls that begin after `shutdown` has returned are given nothing. -/
structure Final (s : State) : Prop where
  returned : s.shutdownReturned = true → s.closed = true
  closed : ∀ thread, s.late thread = true → s.closed = true
  admitted : ∀ thread, s.late thread = true → (s.threads thread).admitted = false
  waiters : ∀ waiter, (s.nodes waiter).late = false
  history : ∀ event ∈ s.history, event.lateGrant = false

section Final

variable {s : State} {thread : Nat} {effect : Effect} {after : Frame}

theorem Final.not_late (final : Final s)
    (early : (s.threads thread).admitted = true ∨ s.closed = false) : s.late thread = false := by
  by_contra late
  have late : s.late thread = true := eq_true_of_ne_false late
  rcases early with admitted | running
  · rw [final.admitted thread late] at admitted
    cases admitted
  · rw [final.closed thread late] at running
    cases running

theorem State.apply_node_late (s : State) (thread : Nat) {effect : Effect}
    (early : ∀ waiter, (s.nodes waiter).late = false)
    (caller : ∀ request connected, effect = .allocate request connected →
      s.late thread = false) (waiter : Nat) :
    ((s.apply thread effect).nodes waiter).late = false := by
  by_cases allocates : ∃ request connected, effect = .allocate request connected
  · obtain ⟨request, connected, rfl⟩ := allocates
    change (update s.nodes s.nodeCount _ waiter).late = false
    by_cases same : waiter = s.nodeCount
    · rw [same, update_self]
      exact caller request connected rfl
    · rw [update_of_ne same]
      exact early waiter
  clear caller
  fun_cases apply s thread effect
  all_goals first
    | exact absurd ⟨_, _, rfl⟩ allocates
    | (rw [addResult_eq]
       simp [log, finishNode, removeNode, setNode, setContext,
        update_apply, apply_ite WaiterNode.late, early])
    | exact early waiter
    | simp [log, unlinkWaiter, completeWaiter, finishNode,
        removeNode, setNode, setContext, update_apply,
        apply_ite WaiterNode.late, early]

section

variable (final : Final s) (moves : Moves s (s.threads thread) effect after)

include final moves

theorem Final.emits_move :
    ∀ event ∈ s.emits thread effect, event.lateGrant = false := by
  have flow := moves.grants
  intro event member
  have caller : (s.threads thread).admitted = true ∨ s.closed = false →
      ∀ outcome, (Event.returned (s.late thread) outcome).lateGrant = false := by
    intro early outcome
    rw [final.not_late early]
    rfl
  have waiter : ∀ node outcome, (Event.returned (s.nodes node).late outcome).lateGrant = false := by
    intro node outcome
    rw [final.waiters node]
    rfl
  have completion : ∀ node, event ∈ s.completionEvents node → event.lateGrant = false := by
    intro node member
    unfold completionEvents at member
    split at member
    · simp only [mem_cons, not_mem_nil, or_false] at member
      rcases member with rfl | rfl
      · rfl
      · exact waiter node _
    · rw [mem_singleton.mp member]
      exact waiter node _
    · cases member
  revert member
  fun_cases emits s thread effect
  all_goals intro member
  case case1 outcome =>
    rw [mem_singleton.mp member]
    by_cases grants : outcome.grants = true
    · exact caller (.inl (flow.1 grants)) outcome
    · cases late : s.late thread
      · rfl
      · exact Bool.eq_false_iff.mpr grants
  all_goals first
    | cases member; done
    | exact completion _ member
    | (rw [mem_singleton.mp member]; exact caller (.inl flow) _)
    | (rw [mem_singleton.mp member]; exact caller (.inr flow) _)
    | (rw [mem_singleton.mp member]; rfl)
    | (rcases mem_cons.mp member with rfl | member
       · rfl
       · rw [mem_singleton.mp member]
         rfl)

theorem Final.admitted_move (late : (s.perform thread (effect, after)).late thread = true) :
    after.admitted = false := by
  have flow := moves.grants
  by_cases enters : effect = .enter
  · subst enters
    exact flow
  have before : s.late thread = true := by
    rw [← apply_late enters]
    exact late
  have barred : ¬ ((s.threads thread).admitted = true ∨ s.closed = false) := by
    intro early
    rw [final.not_late early] at before
    cases before
  refine Bool.eq_false_iff.mpr (fun admitted => ?_)
  cases effect with
  | newBorrowed _ | endPublish _ | allocate _ _ | reserveIdle _ => exact barred (.inl flow)
  | reserveVacant | reserveQuarantined => exact barred (.inr flow)
  | give outcome =>
    rw [flow.2] at admitted
    cases admitted
  | enter => exact enters rfl
  | _ => exact barred (flow admitted)

end

theorem Final.move (final : Final s) (closing : Closing s)
    (moves : Moves s (s.threads thread) effect after) :
    Final (s.perform thread (effect, after)) := by
  have monotone : s.closed = true → (s.perform thread (effect, after)).closed = true := by
    intro closed
    by_contra still
    have running := closed_of_apply (s := s) (eq_false_of_ne_true still)
    rw [closed] at running
    cases running
  have returned : (s.perform thread (effect, after)).shutdownReturned = true →
      s.closed = true := by
    intro returned
    by_cases ends : effect = .closeDone
    · subst ends
      exact moves.closing.elim (closing.draining thread) id
    · exact final.returned ((apply_shutdownReturned ends).symm.trans returned)
  have elsewhere : ∀ other, other ≠ thread →
      (s.perform thread (effect, after)).late other = s.late other := by
    intro other differs
    by_cases enters : effect = .enter
    · subst enters
      exact update_of_ne differs _ _
    · exact congrFun (apply_late enters) other
  refine ⟨fun late => monotone (returned late), ?_, ?_, ?_, ?_⟩
  · intro other late
    refine monotone ?_
    by_cases same : other = thread
    · subst same
      by_cases enters : effect = .enter
      · subst enters
        have began : s.shutdownReturned = true := by
          rw [← update_self other s.shutdownReturned s.late]
          exact late
        exact final.returned began
      · exact final.closed other ((congrFun (apply_late enters) other).symm.trans late)
    · rw [elsewhere other same] at late
      exact final.closed other late
  · intro other late
    by_cases same : other = thread
    · subst same
      rw [perform_threads_self]
      exact final.admitted_move moves late
    · rw [elsewhere other same] at late
      rw [perform_threads_other s thread effect after same]
      exact final.admitted other late
  · refine s.apply_node_late thread final.waiters ?_
    rintro request connected rfl
    exact final.not_late (.inl moves.grants)
  · intro event member
    have grown : event ∈ s.history ++ s.emits thread effect := by
      rw [← s.apply_history]
      exact member
    rcases mem_append.mp grown with before | emitted
    · exact final.history event before
    · exact final.emits_move moves event emitted

end Final

/-- In every reachable state late calls have been given nothing. -/
theorem reachable_final {capacity : Nat} {s : State} (reached : (system capacity).Reachable s) :
    Final s := by
  refine invariant_of_moves Final reached ?_
    (fun _ _ final => ⟨final.returned, final.closed, final.admitted, final.waiters,
      final.history⟩) ?_
  · intro threadCount
    exact ⟨nofun, nofun, nofun, fun _ => rfl, nofun⟩
  · intro s thread effect after before final _ moves
    exact final.move (reachable_closing before) moves

/-- When `shutdown()` and every other call have returned and every token object is destroyed,
nothing is idle, nobody waits and every slot is vacant or quarantined; and no call that began after
`shutdown()` had returned is given a token or publishes one. -/
theorem shutdown_complete {capacity : Nat} {s : State} (reached : (system capacity).Reachable s) :
    (s.shutdownReturned = true → (∀ thread, s.threads thread = .ready) →
      (∀ waiter, (s.nodes waiter).pending = false) →
      (∀ token index, s.borrowed token ≠ .live index) →
      (∀ token slot, s.reserved token ≠ .live slot) →
      (∀ index, s.idle index = false) ∧ s.waiters = [] ∧
      (∀ index, index < capacity → index ∈ s.vacant ∨ index ∈ s.quarantined) ∧
      s.usableSize = 0 ∧ s.reservedCount = 0) ∧
    (∀ token, .returned true (.borrowed token) ∉ s.history) ∧
    (∀ token, .returned true (.reserved token) ∉ s.history) ∧
    .returned true (.published true) ∉ s.history := by
  have final := reachable_final reached
  have closing := reachable_closing reached
  have owned := reachable_owned reached
  refine ⟨?_, ?_, ?_, ?_⟩
  · intro returned outside ended unlent unreserved
    have closed := final.returned returned
    have idle : ∀ index, s.idle index = false := by
      intro index
      by_contra set
      obtain ⟨thread, clears⟩ := closing.clears closed index (eq_true_of_ne_false set)
      rw [outside thread] at clears
      exact clears
    have queue : s.waiters = [] := by
      by_contra queued
      obtain ⟨thread, drains⟩ := closing.drains closed queued
      rw [outside thread] at drains
      cases drains
    have unowned : ∀ cell index, s.inventory.cell cell ≠ some index := by
      intro cell index owner
      cases cell with
      | reserved token =>
        cases handle : s.reserved token with
        | live slot => exact unreserved token slot handle
        | _ => simp [inventory, cells, reservedSlots, handle, Handle.reservedSlot] at owner
      | borrowed token =>
        cases handle : s.borrowed token with
        | live slot => exact unlent token slot handle
        | _ => simp [inventory, cells, borrowedSlots, handle, Handle.slot] at owner
      | flight thread =>
        simp [inventory, cells, flights, outside thread, Frame.slot] at owner
      | waiter waiter =>
        have none := WaiterNode.slot_of_finished (ended waiter)
        simp [inventory, cells, slots, none] at owner
    have placed : ∀ place index, s.inventory.holds place index →
        place = .vacant ∨ place = .quarantined := by
      intro place index held
      cases place with
      | vacant => exact .inl rfl
      | quarantined => exact .inr rfl
      | idle =>
        have set : s.idle index = true := held
        rw [idle index] at set
        cases set
      | cell cell => exact absurd held (unowned cell index)
    have none : ∀ account, account ≠ .vacant → account ≠ .quarantined →
        Placement.ofKind Place.account s.inventory.holds s.capacity account = ∅ := by
      intro account first second
      ext index
      simp only [Placement.mem_ofKind, Finset.notMem_empty, iff_false]
      rintro ⟨-, place, named, held⟩
      rcases placed place index held with rfl | rfl
      · exact first named.symm
      · exact second named.symm
    refine ⟨idle, queue, ?_, ?_, ?_⟩
    · intro index known
      rw [← reachable_capacity reached] at known
      obtain ⟨place, held⟩ := owned.stocked.allotted.covered index known
      rcases placed place index held with rfl | rfl
      · exact .inl held
      · exact .inr held
    · rw [owned.usable, none .usable (by decide) (by decide)]
      rfl
    · rw [owned.reserved, none .reserved (by decide) (by decide)]
      rfl
  · intro token member
    have grant := final.history _ member
    cases grant
  · intro token member
    have grant := final.history _ member
    cases grant
  · intro member
    have grant := final.history _ member
    cases grant

set_option maxRecDepth 4000 in
/-- A pool with one idle slot is shut down and refuses a later call. -/
theorem shutdown_complete_idle : ∃ s, (system 2).Reachable s ∧ s.shutdownReturned = true ∧
    .returned true (.error .shutdown) ∈ s.history ∧ s.vacant = [1] ∧ s.quarantined = [0] ∧
    (∀ index, s.idle index = false) ∧ s.waiters = [] ∧ s.usableSize = 0 ∧ s.reservedCount = 0 := by
  refine (system 2).exists_reachable ⟨1, rfl⟩ (publishing ++ turns 0 .shutdown 4 ++
    turns 0 .tryAcquire 1) ⟨_, rfl, fun reached => ?_⟩
  have quiet := (shutdown_complete reached).1 rfl (by rintro (_ | thread) <;> rfl)
    (fun _ => rfl) (fun _ _ => nofun) (by rintro (_ | token) slot ⟨⟩)
  exact ⟨rfl, mem_of_getLast? rfl, rfl, rfl, quiet.1, quiet.2.1, quiet.2.2.2⟩

end Menagerie.Starling.Pool
