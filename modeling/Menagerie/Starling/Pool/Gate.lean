import Menagerie.Starling.Pool.Waiters

/-!
# The waiter gate

`waiter_gate_` counts the waiters in the queue and, while a registration scans the bitmap for
the last time, the waiter about to enter it. A publisher that reads zero after its publication
therefore knows that nobody can have missed the bit.
-/

namespace Menagerie.Starling.Pool

open State List

/-- The registration has raised the gate and not linked its waiter. -/
def Frame.raised : Frame → Bool
  | .claimLoad (.register _ _) _ | .claimSwap (.register _ _) _ _ | .lowerGate _ _ _
  | .park _ _ => true
  | _ => false

theorem Frame.held_of_raised {frame : Frame} (raised : frame.raised = true) :
    frame.held = true := by
  revert raised
  fun_cases Frame.raised frame
  all_goals intro raised
  all_goals first | rfl | cases raised

/-- How an effect changes whether the thread has raised the gate. -/
def GateFlow (before after : Frame) : Effect → Prop
  | .raiseGate => before.held = true ∧ before.raised = false ∧ after.raised = true
  | .lowerGate | .link _ _ | .linkFailed _ => before.raised = true ∧ after.raised = false
  | _ => after.raised = before.raised

theorem Selected.raised_resume (selected : Selected) : selected.resume.raised = false := by
  fun_cases Selected.resume selected <;> rfl

/-- The gate is raised and lowered by the registrations. -/
theorem Moves.gate {s : State} {frame after : Frame} {effect : Effect}
    (moves : Moves s frame effect after) : GateFlow frame after effect := by
  cases moves with
  | began operation outside moved =>
    subst outside
    revert moved
    fun_cases start s operation
    all_goals rintro ⟨⟩
    all_goals rfl
  | continued choice moved =>
    revert moved
    fun_cases next s choice frame
    all_goals rintro ⟨⟩
    all_goals first
      | rfl
      | exact ⟨rfl, rfl, rfl⟩
      | exact ⟨rfl, rfl⟩
      | exact Selected.raised_resume _
      | (cases ‹Scan› <;> rfl)

def Effect.onQueue : Effect → Bool
  | .raiseGate | .lowerGate | .link _ _ | .linkFailed _ | .unlink _ _ | .complete _ _
  | .assign _ _ => true
  | _ => false

theorem State.apply_queue (s : State) (thread : Nat) {effect : Effect}
    (other : effect.onQueue = false) :
    (s.apply thread effect).waiters = s.waiters ∧
      (s.apply thread effect).waiterGate = s.waiterGate := by
  revert other
  fun_cases apply s thread effect
  all_goals intro other
  all_goals first
    | (rw [addResult_eq]
       simp only [log, finishNode, removeNode, setNode, setContext,
        and_self])
    | cases other; done
    | exact ⟨rfl, rfl⟩

theorem GateFlow.of_untouched {before after : Frame} {effect : Effect}
    (flow : GateFlow before after effect) (other : effect.onQueue = false) :
    after.raised = before.raised := by
  cases effect with
  | raiseGate | lowerGate | link _ _ | linkFailed _ => cases other
  | _ => exact flow

theorem NodeMove.linked {s : State} {thread : Nat} {v after : View} {effect : Effect}
    {waiter : Nat} (sound : ∀ waiter, (s.profile waiter).Sound)
    (viewed : (s.threads thread).view = v) (move : NodeMove s v effect after)
    (taken : (∃ rejection, effect = .unlink waiter rejection) ∨
      (∃ rejection, effect = .complete waiter rejection) ∨
      ∃ index, effect = .assign waiter index) : waiter ∈ s.waiters := by
  cases move with
  | quiet silent | finish silent =>
    rcases taken with ⟨_, rfl⟩ | ⟨_, rfl⟩ | ⟨_, rfl⟩
    all_goals cases silent
  | expire node owned waiting =>
    rcases taken with ⟨_, same⟩ | ⟨_, same⟩ | ⟨_, same⟩ <;> cases same
    obtain ⟨phase, fits⟩ := (sound waiter).fits
    have owner := owner_of_view viewed owned
    rcases fits.of_owner owner with rfl | rfl
    · rcases fits.2.2.2.2.1 with ⟨once, -⟩ | ⟨-, chosen⟩
      · have present : s.waiters.count waiter = 1 := once
        exact count_pos_iff.mp (by omega)
      · exact absurd waiting chosen
    · exact absurd fits.2.2.2.2.2.1 id
  | withdraw node abandoned linked | complete node rejection linked idle own
  | assign node index linked idle own =>
    rcases taken with ⟨_, same⟩ | ⟨_, same⟩ | ⟨_, same⟩ <;> cases same
    exact linked
  | _ => rcases taken with ⟨_, same⟩ | ⟨_, same⟩ | ⟨_, same⟩ <;> cases same

/-- The gate counts the queue and the registration in progress. -/
structure Gate (s : State) : Prop where
  up : ∀ thread, (s.threads thread).raised = true → s.waiterGate = s.waiters.length + 1
  down : (∀ thread, (s.threads thread).raised = false) → s.waiterGate = s.waiters.length

section Gate

variable {s : State} {thread : Nat} {effect : Effect} {after : Frame}

theorem Locked.lowered_elsewhere (locked : Locked s) (inside : (s.threads thread).held = true)
    {other : Nat} (differs : other ≠ thread) : (s.threads other).raised = false := by
  by_contra raised
  have held := Frame.held_of_raised (eq_true_of_ne_false raised)
  have owner := (locked thread).mpr inside
  have also := (locked other).mpr held
  rw [owner] at also
  exact differs (Option.some.inj also).symm

/-- A move that does not change whether the gate is raised. -/
theorem raised_kept (kept : after.raised = (s.threads thread).raised) (other : Nat) :
    ((s.perform thread (effect, after)).threads other).raised = (s.threads other).raised := by
  by_cases same : other = thread
  · rw [same, perform_threads_self, kept]
  · rw [perform_threads_other s thread effect after same]

section

variable (gate : Gate s)

include gate

/-- A move that touches neither the queue nor the gate. -/
theorem Gate.still (kept : after.raised = (s.threads thread).raised)
    (waiters : (s.apply thread effect).waiters = s.waiters)
    (level : (s.apply thread effect).waiterGate = s.waiterGate) :
    Gate (s.perform thread (effect, after)) := by
  constructor
  · intro other up
    rw [raised_kept kept] at up
    change (s.apply thread effect).waiterGate = (s.apply thread effect).waiters.length + 1
    rw [waiters, level]
    exact gate.up other up
  · intro all
    change (s.apply thread effect).waiterGate = (s.apply thread effect).waiters.length
    rw [waiters, level]
    exact gate.down (fun other => (raised_kept kept other).symm.trans (all other))

theorem Gate.shrink (kept : after.raised = (s.threads thread).raised) {waiter : Nat}
    (linked : waiter ∈ s.waiters)
    (waiters : (s.apply thread effect).waiters = s.waiters.erase waiter)
    (lowered : (s.apply thread effect).waiterGate = s.waiterGate - 1) :
    Gate (s.perform thread (effect, after)) := by
  have positive : 0 < s.waiters.length := length_pos_of_mem linked
  have length : (s.apply thread effect).waiters.length = s.waiters.length - 1 := by
    rw [waiters, length_erase_of_mem linked]
  constructor
  · intro other up
    rw [raised_kept kept] at up
    have before := gate.up other up
    change (s.apply thread effect).waiterGate = (s.apply thread effect).waiters.length + 1
    omega
  · intro all
    have before := gate.down (fun other => (raised_kept kept other).symm.trans (all other))
    change (s.apply thread effect).waiterGate = (s.apply thread effect).waiters.length
    omega

/-- A registration links its waiter or lowers the gate. -/
theorem Gate.settle (locked : Locked s) (before : (s.threads thread).raised = true)
    (done : after.raised = false)
    (counted : s.waiterGate + (s.apply thread effect).waiters.length =
      (s.apply thread effect).waiterGate + s.waiters.length + 1) :
    Gate (s.perform thread (effect, after)) := by
  have up := gate.up thread before
  have lowered : ∀ other, ((s.perform thread (effect, after)).threads other).raised = false := by
    intro other
    by_cases same : other = thread
    · rw [same, perform_threads_self, done]
    · rw [perform_threads_other s thread effect after same]
      exact locked.lowered_elsewhere (Frame.held_of_raised before) same
  constructor
  · intro other raised
    rw [lowered other] at raised
    cases raised
  · intro _
    change (s.apply thread effect).waiterGate = (s.apply thread effect).waiters.length
    omega

theorem Gate.move (locked : Locked s) (sound : ∀ waiter, (s.profile waiter).Sound)
    (moves : Moves s (s.threads thread) effect after) :
    Gate (s.perform thread (effect, after)) := by
  have flow := moves.gate
  have node := moves.node
  by_cases touched : effect.onQueue = false
  · obtain ⟨waiters, level⟩ := s.apply_queue thread touched
    exact gate.still (flow.of_untouched touched) waiters level
  cases effect with
  | raiseGate =>
    obtain ⟨inside, before, raised⟩ := flow
    have lowered : ∀ other, (s.threads other).raised = false := by
      intro other
      by_cases same : other = thread
      · rw [same, before]
      · exact locked.lowered_elsewhere inside same
    have down := gate.down lowered
    constructor
    · intro _ _
      change s.waiterGate + 1 = s.waiters.length + 1
      omega
    · intro all
      have here := all thread
      rw [perform_threads_self, raised] at here
      cases here
  | lowerGate =>
    have up := gate.up thread flow.1
    refine gate.settle locked flow.1 flow.2 ?_
    change s.waiterGate + s.waiters.length = s.waiterGate - 1 + s.waiters.length + 1
    omega
  | link waiter armed =>
    refine gate.settle locked flow.1 flow.2 ?_
    change s.waiterGate + (s.waiters ++ [waiter]).length = s.waiterGate + s.waiters.length + 1
    rw [length_append, length_singleton]
    omega
  | linkFailed waiter =>
    have up := gate.up thread flow.1
    refine gate.settle locked flow.1 flow.2 ?_
    change s.waiterGate + ((s.waiters ++ [waiter]).erase waiter).length =
      s.waiterGate - 1 + s.waiters.length + 1
    have member : waiter ∈ s.waiters ++ [waiter] := by simp
    rw [length_erase_of_mem member, length_append, length_singleton]
    omega
  | unlink waiter rejection =>
    exact gate.shrink flow (node.linked sound rfl (.inl ⟨rejection, rfl⟩)) rfl rfl
  | complete waiter rejection =>
    exact gate.shrink flow (node.linked sound rfl (.inr (.inl ⟨rejection, rfl⟩))) rfl rfl
  | assign waiter index =>
    exact gate.shrink flow (node.linked sound rfl (.inr (.inr ⟨index, rfl⟩))) rfl rfl
  | _ => exact absurd rfl touched

theorem Gate.open_of_queued (queued : s.waiters ≠ []) : s.waiterGate ≠ 0 := by
  have positive : 0 < s.waiters.length := length_pos_iff.mpr queued
  by_cases raised : ∃ thread, (s.threads thread).raised = true
  · obtain ⟨thread, raised⟩ := raised
    have up := gate.up thread raised
    omega
  · have down := gate.down (fun thread => Bool.eq_false_iff.mpr (fun up => raised ⟨thread, up⟩))
    omega

/-- A registration in progress keeps the gate up. -/
theorem Gate.open_of_raised (raised : (s.threads thread).raised = true) :
    s.waiterGate ≠ 0 := by
  have up := gate.up thread raised
  omega

end

end Gate

theorem reachable_gate {capacity : Nat} {s : State} (reached : (system capacity).Reachable s) :
    Gate s := by
  refine invariant_of_moves Gate reached ?_ (fun _ _ gate => ⟨gate.up, gate.down⟩) ?_
  · intro threadCount
    refine ⟨?_, fun _ => rfl⟩
    intro thread raised
    cases raised
  · intro s thread effect after before gate _ moves
    exact gate.move (reachable_locked before) (reachable_sound before) moves

end Menagerie.Starling.Pool
