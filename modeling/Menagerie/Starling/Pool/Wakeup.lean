import Menagerie.Starling.Pool.Gate
import Menagerie.Starling.Pool.History
import Menagerie.Starling.Pool.Ownership

/-!
# No lost wakeup

An idle bit and a waiter that missed it are always known to some thread that has not finished:
the publisher that still has to look at the gate, or the one that serves the queue. The
registration raises the gate before its last scan and the publisher looks at the gate after
its publication, so one of them sees the other.
-/

namespace Menagerie.Starling.Pool

open State

/-- The last scan of a registration has passed the word. -/
def Frame.scanned (frame : Frame) (word : Nat) : Prop :=
  match frame with
  | .claimLoad (.register _ _) position | .claimSwap (.register _ _) position _ => word < position
  | .park _ _ => True
  | _ => False

/-- The thread will look for waiters, or for idle bits in the word. -/
def Frame.duty (frame : Frame) (word : Nat) : Prop :=
  match frame with
  | .recheckClosed _ _ | .recheckGate _ | .serve _ _ | .handoff _ _ true _
  | .notify _ (.retry _ true _) | .notify _ (.served true _) => True
  | .claimLoad (.serve _) position | .claimSwap (.serve _) position _ => position ≤ word
  | _ => False

theorem Frame.raised_of_scanned {frame : Frame} {word : Nat} (scanned : frame.scanned word) :
    frame.raised = true := by
  revert scanned
  fun_cases Frame.scanned frame word
  all_goals intro scanned
  all_goals first | rfl | cases scanned

theorem Frame.lowered_of_duty {frame : Frame} {word : Nat} (duty : frame.duty word) :
    frame.raised = false := by
  revert duty
  fun_cases Frame.duty frame word
  all_goals intro duty
  all_goals first | rfl | cases duty

/-- No bit of the word is set. -/
def State.Clear (s : State) (word : Nat) : Prop := s.words word = 0 ∨ s.wordCount ≤ word

/-- The thread executes its next step with the mutex. -/
def State.Alone (s : State) (frame : Frame) : Prop := frame.held = true ∨ s.mutex = none

section Scans

variable {scan : Scan} {position word index : Nat}
  {bits later : { bits : BitVec 64 // bits ≠ 0 }}

theorem Scan.scanned_swap : (Frame.claimSwap scan position bits).scanned word ↔
    (Frame.claimLoad scan position).scanned word := by
  cases scan <;> rfl

theorem Scan.scanned_succ (scanned : (Frame.claimLoad scan (position + 1)).scanned word) :
    (Frame.claimLoad scan position).scanned word ∨ word = position := by
  cases scan with
  | register request waiter =>
    change word < position + 1 at scanned
    change word < position ∨ word = position
    omega
  | _ => cases scanned

/-- At the end of the bitmap every word has been passed. -/
theorem Scan.scanned_empty (scanned : scan.empty.scanned word) :
    (Frame.claimLoad scan position).scanned word ∨ position ≤ word := by
  cases scan with
  | register request waiter => exact Nat.lt_or_ge word position
  | _ => cases scanned

theorem Scan.scanned_found : ¬ (scan.found index).scanned word := by
  cases scan <;> exact id

theorem Scan.duty_swap : (Frame.claimSwap scan position bits).duty word ↔
    (Frame.claimLoad scan position).duty word := by
  cases scan <;> rfl

section

variable (duty : (Frame.claimLoad scan position).duty word)

include duty

/-- Advancing by one word gives up that word. -/
theorem Scan.duty_succ :
    (Frame.claimLoad scan (position + 1)).duty word ∨ word = position := by
  cases scan with
  | serve after =>
    change position ≤ word at duty
    change position + 1 ≤ word ∨ word = position
    omega
  | _ => cases duty

/-- At the end of the bitmap only words beyond it are left. -/
theorem Scan.duty_end : position ≤ word := by
  cases scan with
  | serve after => exact duty
  | _ => cases duty

theorem Scan.duty_found :
    (scan.found index).duty word := by
  cases scan with
  | serve after => trivial
  | _ => cases duty

end

theorem Selected.scanned_resume (selected : Selected) : ¬ selected.resume.scanned word := by
  fun_cases Selected.resume selected <;> exact id

/-- A server goes on serving after a notification. -/
theorem Selected.duty_resume {selected : Selected} {waiter : Nat}
    (duty : (Frame.notify waiter selected).duty word) : selected.resume.duty word := by
  revert duty
  fun_cases Selected.resume selected
  case case1 index serving after => cases serving <;> exact id
  all_goals exact fun duty => duty

section

variable {held serving : Bool} {waiter : Nat} {after : Return}
  (duty : (Frame.handoff held index serving after).duty word)

include duty

theorem duty_retry :
    (Frame.notify waiter (.retry index serving after)).duty word := by
  cases serving <;> exact duty

theorem duty_served :
    (Frame.notify waiter (.served serving after)).duty word := by
  cases serving <;> exact duty

end

end Scans

section Flow

variable {s : State} {frame after : Frame} {effect : Effect} {word : Nat}

/-- A registration passes a word only when it is empty. -/
theorem Moves.scanned (moves : Moves s frame effect after) (scanned : after.scanned word) :
    frame.scanned word ∨ s.Clear word := by
  have empty : ∀ position, ¬ s.words position ≠ 0 → word = position → s.Clear word := by
    intro position zero same
    rw [same]
    exact .inl (not_not.mp zero)
  have beyond : ∀ position, ¬ position < s.wordCount → position ≤ word → s.Clear word :=
    fun position past here => .inr (Nat.le_trans (Nat.le_of_not_lt past) here)
  cases moves with
  | began operation outside moved =>
    revert moved
    fun_cases start s operation
    all_goals rintro ⟨⟩
    all_goals exact False.elim scanned
  | continued choice moved =>
    revert moved
    fun_cases next s choice frame
    all_goals rintro ⟨⟩
    all_goals first
      | exact False.elim scanned
      | exact absurd scanned (Nat.not_lt_zero _)
      | exact absurd scanned Scan.scanned_found
      | exact absurd scanned (Selected.scanned_resume _)
      | exact .inl (Scan.scanned_swap.mp scanned)
      | exact .inl (Scan.scanned_swap.mpr (Scan.scanned_swap.mp scanned))
      | exact (Scan.scanned_succ scanned).imp_right (empty _ ‹_›)
      | exact (Scan.scanned_succ scanned).imp Scan.scanned_swap.mpr (empty _ ‹_›)
      | exact (Scan.scanned_empty scanned).imp_right (beyond _ ‹_›)

/-- A thread gives up its duty only when there is nothing to serve. -/
theorem Moves.duty (moves : Moves s frame effect after) (duty : frame.duty word) :
    after.duty word ∨ s.closed = true ∨ s.Clear word ∨ s.waiterGate = 0 ∨
      s.waiters = [] ∧ s.Alone frame := by
  have empty : ∀ position, ¬ s.words position ≠ 0 → word = position → s.Clear word := by
    intro position zero same
    rw [same]
    exact .inl (not_not.mp zero)
  cases moves with
  | began operation outside moved =>
    subst outside
    exact False.elim duty
  | continued choice moved =>
    revert moved
    fun_cases next s choice frame
    all_goals rintro ⟨⟩
    all_goals first
      | exact False.elim duty
      | exact .inl duty
      | exact .inl trivial
      | exact .inr (.inl ‹_›)
      | exact .inl (Selected.duty_resume duty)
      | exact .inl (Scan.duty_swap.mpr duty)
      | exact .inl (Scan.duty_swap.mpr (Scan.duty_swap.mp duty))
      | exact .inl (Scan.duty_found (Scan.duty_swap.mp duty))
      | exact (Scan.duty_succ duty).imp_right (fun same => .inr (.inl (empty _ ‹_› same)))
      | exact (Scan.duty_succ (Scan.duty_swap.mp duty)).imp_right
          (fun same => .inr (.inl (empty _ ‹_› same)))
      | exact .inr (.inr (.inl (.inr (Nat.le_trans (Nat.le_of_not_lt ‹_›) (Scan.duty_end duty)))))
      | exact .inr (.inr (.inr (.inl (not_not.mp ‹_›))))
      | exact .inr (.inr (.inr (.inr ⟨‹_›, ‹_›⟩)))
      | exact .inl (Nat.zero_le _)
      | exact .inl (duty_retry duty)
      | exact .inl (duty_served duty)
      | exact Or.elim ‹s.closed = true ∨ s.waiters = []› (fun closed => .inr (.inl closed))
          (fun none => .inr (.inr (.inr (.inr ⟨none, ‹_›⟩))))

/-- A publisher takes over the duty, or sees an empty queue under the mutex. -/
theorem Moves.publishes {index : Nat} (moves : Moves s frame (.publish index) after) (word : Nat) :
    after.duty word ∨ s.waiters = [] ∧ s.Alone frame ∧ after.raised = false := by
  cases moves with
  | began operation outside moved =>
    revert moved
    fun_cases start s operation
    all_goals rintro ⟨⟩
  | continued choice moved =>
    revert moved
    fun_cases next s choice frame
    all_goals rintro ⟨⟩
    all_goals first
      | exact .inl trivial
      | exact .inr ⟨‹_›, ‹_›, rfl⟩

theorem Moves.links {waiter : Nat} {armed : Bool}
    (moves : Moves s frame (.link waiter armed) after) : frame.scanned word := by
  cases moves with
  | began operation outside moved =>
    revert moved
    fun_cases start s operation
    all_goals rintro ⟨⟩
  | continued choice moved =>
    revert moved
    fun_cases next s choice frame
    all_goals rintro ⟨⟩
    all_goals trivial

end Flow

section Changes

variable {s : State} {thread : Nat} {effect : Effect}

/-- The effects on the bitmap. -/
def Effect.onWords : Effect → Bool
  | .claim _ | .reclaim _ | .publish _ | .sweep _ => true
  | _ => false

theorem State.apply_words (other : effect.onWords = false) :
    (s.apply thread effect).words = s.words := by
  revert other
  fun_cases apply s thread effect
  all_goals intro other
  all_goals first
    | (rw [addResult_eq]
       simp only [log, finishNode, removeNode, setNode, setContext])
    | (simp only [log, unlinkWaiter, completeWaiter, setNode]; done)
    | rfl
    | cases other

theorem State.idle_of_apply {index : Nat} (nonzero : ∀ word, effect = .claim word →
    s.words word ≠ 0) (idle : (s.apply thread effect).idle index = true) :
    s.idle index = true ∨ effect = .publish index := by
  by_cases touched : effect.onWords = false
  · rw [State.idle, State.apply_words touched] at idle
    exact .inl idle
  cases effect with
  | claim word => exact .inl ((s.idle_claim thread (nonzero word rfl) index).mp idle).1
  | reclaim reclaimed => exact .inl ((s.idle_reclaim thread reclaimed index).mp idle).1
  | publish published =>
    rcases (s.idle_publish thread published index).mp idle with before | same
    · exact .inl before
    · rw [same]
      exact .inr rfl
  | sweep word => exact .inl ((s.idle_sweep thread word index).mp idle).1
  | _ => exact absurd rfl touched

theorem State.queued_of_apply (queued : (s.apply thread effect).waiters ≠ []) :
    s.waiters ≠ [] ∨ ∃ waiter armed, effect = .link waiter armed := by
  by_cases touched : effect.onQueue = false
  · rw [(s.apply_queue thread touched).1] at queued
    exact .inl queued
  refine or_iff_not_imp_left.mpr (fun none => ?_)
  have none : s.waiters = [] := not_not.mp none
  cases effect with
  | link waiter armed => exact ⟨waiter, armed, rfl⟩
  | raiseGate | lowerGate => exact absurd none queued
  | linkFailed waiter =>
    refine absurd ?_ queued
    change (s.waiters ++ [waiter]).erase waiter = []
    simp [none]
  | unlink waiter rejection | complete waiter rejection | assign waiter index =>
    refine absurd ?_ queued
    change s.waiters.erase waiter = []
    simp [none]
  | _ => exact absurd rfl touched

end Changes

/-- Every idle slot that a waiter has missed is somebody's duty. -/
def Watched (s : State) : Prop :=
  s.closed = false → ∀ index, s.idle index = true →
    (s.waiters ≠ [] ∨ ∃ thread, (s.threads thread).scanned (index / bitsPerWord)) →
    ∃ thread, (s.threads thread).duty (index / bitsPerWord)

section Watched

variable {s : State} {thread : Nat} {effect : Effect} {after : Frame} {index : Nat}

theorem Owned.not_clear (owned : Owned s) (idle : s.idle index = true) :
    ¬ s.Clear (index / bitsPerWord) := by
  rintro (zero | beyond)
  · rw [State.idle, zero] at idle
    simp at idle
  · have known : index < s.capacity := owned.stocked.allotted.inside .idle index idle
    have covered := s.capacity_le_words
    have past : s.wordCount * bitsPerWord ≤ index / bitsPerWord * bitsPerWord :=
      Nat.mul_le_mul_right bitsPerWord beyond
    have here := Nat.div_mul_le_self index bitsPerWord
    omega

/-- While another thread has the mutex nobody registers. -/
theorem Locked.unscanned (locked : Locked s) (alone : s.Alone (s.threads thread))
    (lowered : (s.threads thread).raised = false) (other word : Nat) :
    ¬ (s.threads other).scanned word := by
  intro scanned
  have raised := Frame.raised_of_scanned scanned
  have owner := (locked other).mpr (Frame.held_of_raised raised)
  rcases alone with held | free
  · have same := (locked thread).mpr held
    rw [owner] at same
    rw [Option.some.inj same, lowered] at raised
    cases raised
  · rw [free] at owner
    cases owner

/-- No missed slot is left without somebody in charge. -/
theorem Watched.move (watched : Watched s) (owned : Owned s) (locked : Locked s) (gate : Gate s)
    (moves : Moves s (s.threads thread) effect after) :
    Watched (s.perform thread (effect, after)) := by
  intro still index idle missed
  have running : s.closed = false := closed_of_apply still
  have nonzero : ∀ word, effect = .claim word → s.words word ≠ 0 := by
    rintro word rfl
    exact moves.slot.1
  have elsewhere : ∀ other, other ≠ thread →
      (s.perform thread (effect, after)).threads other = s.threads other :=
    fun other => perform_threads_other s thread effect after
  have here : (s.perform thread (effect, after)).threads thread = after :=
    s.perform_threads_self thread effect after
  rcases idle_of_apply nonzero idle with idle | rfl
  · have present := owned.not_clear idle
    -- The slot was missed before the move as well.
    have before : s.waiters ≠ [] ∨ ∃ other, (s.threads other).scanned (index / bitsPerWord) := by
      rcases missed with queued | ⟨other, scanned⟩
      · rcases queued_of_apply queued with queued | ⟨waiter, armed, rfl⟩
        · exact .inl queued
        · exact .inr ⟨thread, moves.links⟩
      · by_cases same : other = thread
        · rw [same, here] at scanned
          exact .inr ⟨thread, (moves.scanned scanned).resolve_right present⟩
        · rw [elsewhere other same] at scanned
          exact .inr ⟨other, scanned⟩
    obtain ⟨other, duty⟩ := watched running index idle before
    by_cases same : other = thread
    · subst same
      rcases moves.duty duty with kept | closed | clear | down | ⟨none, alone⟩
      · exact ⟨other, by rw [here]; exact kept⟩
      · rw [running] at closed
        cases closed
      · exact absurd clear present
      · rcases before with queued | ⟨registrar, scanned⟩
        · exact absurd down (gate.open_of_queued queued)
        · exact absurd down (gate.open_of_raised (Frame.raised_of_scanned scanned))
      · rcases before with queued | ⟨registrar, scanned⟩
        · exact absurd none queued
        · exact absurd scanned
            (locked.unscanned alone (Frame.lowered_of_duty duty) registrar _)
    · exact ⟨other, by rw [elsewhere other same]; exact duty⟩
  · rcases moves.publishes (index / bitsPerWord) with duty | ⟨none, alone, lowered⟩
    · exact ⟨thread, by rw [here]; exact duty⟩
    · have before : (s.threads thread).raised = false := moves.gate.symm.trans lowered
      rcases missed with queued | ⟨other, scanned⟩
      · exact absurd none queued
      · by_cases same : other = thread
        · rw [same, here] at scanned
          have raised := Frame.raised_of_scanned scanned
          rw [lowered] at raised
          cases raised
        · rw [elsewhere other same] at scanned
          exact absurd scanned (locked.unscanned alone before other _)

end Watched

theorem reachable_watched {capacity : Nat} {s : State} (reached : (system capacity).Reachable s) :
    Watched s := by
  refine invariant_of_moves Watched reached ?_ (fun _ _ watched => watched) ?_
  · intro threadCount _ index idle
    simp [State.initial, State.idle] at idle
  · intro s thread effect after before watched _ moves
    exact watched.move (reachable_owned before) (reachable_locked before) (reachable_gate before)
      moves

/-- When every thread is outside the pool or waits for its own notification, waiters in the queue of
an open pool mean that nothing is idle. -/
theorem no_idle_slot_with_waiters {capacity : Nat} {s : State}
    (reached : (system capacity).Reachable s)
    (quiet : ∀ thread, s.threads thread = .ready ∨ ∃ waiter, s.threads thread = .parked waiter)
    (running : s.closed = false) (queued : s.waiters ≠ []) (index : Nat) :
    s.idle index = false := by
  by_contra idle
  have idle : s.idle index = true := eq_true_of_ne_false idle
  obtain ⟨thread, duty⟩ := reachable_watched reached running index idle (.inl queued)
  rcases quiet thread with outside | ⟨waiter, waiting⟩
  · rw [outside] at duty
    exact duty
  · rw [waiting] at duty
    exact duty

set_option maxRecDepth 4000 in
/-- A thread waits while another one has the only slot. -/
theorem no_idle_slot_with_parked_thread : ∃ s, (system 1).Reachable s ∧
    s.threads 1 = .parked 0 ∧ s.waiters = [0] ∧ s.borrowed 0 = .live 0 ∧ s.idle 0 = false := by
  refine (system 1).exists_reachable ⟨2, rfl⟩ (publishing ++ turns 0 .tryAcquire 5 ++
    turns 1 .acquire 10) ⟨_, rfl, fun reached => ?_⟩
  refine ⟨rfl, rfl, rfl, no_idle_slot_with_waiters reached ?_ rfl (List.cons_ne_nil 0 []) 0⟩
  rintro (_ | _ | thread)
  · exact .inl rfl
  · exact .inr ⟨0, rfl⟩
  · exact .inl rfl

/-- The accounts add up and idle slots are usable; a thread that has the mutex and has not raised
the gate finds as many waiters as the gate counts; whoever is queued has not been selected; and
`states_` says of every slot where it is. -/
theorem pool_assertions_hold {capacity : Nat} {s : State}
    (reached : (system capacity).Reachable s) :
    s.capacity = s.vacant.length + s.reservedCount + s.quarantined.length + s.usableSize ∧
    s.idleCount ≤ s.usableSize ∧
    (∀ thread, (s.threads thread).held = true → (s.threads thread).raised = false →
      s.waiterGate = s.waiters.length) ∧
    (∀ waiter ∈ s.waiters, (s.nodes waiter).state = .queued) ∧
    ∀ place index, s.inventory.holds place index → s.states index = place.slotState := by
  have owned := reachable_owned reached
  have locked := reachable_locked reached
  refine ⟨owned.capacity_eq, owned.idleCount_le, ?_, ?_, owned.labelled⟩
  · intro thread inside lowered
    refine (reachable_gate reached).down fun other => Bool.eq_false_iff.mpr fun raised => ?_
    -- The other thread would have the mutex as well.
    have taken := (locked other).mpr (Frame.held_of_raised raised)
    rw [(locked thread).mpr inside] at taken
    cases taken
    rw [lowered] at raised
    cases raised
  · intro waiter queued
    exact (State.queued_of_linked (reachable_sound reached) queued).2

set_option maxRecDepth 4000 in
/-- The only slot is lent, one thread waits for it, and another one has the mutex. -/
theorem pool_assertions_hold_parked : ∃ s, (system 1).Reachable s ∧ s.mutex = some 2 ∧
    s.borrowed 0 = .live 0 ∧ s.waiters = [0] ∧
    1 = s.vacant.length + s.reservedCount + s.quarantined.length + s.usableSize ∧
    s.waiterGate = s.waiters.length ∧ (s.nodes 0).state = .queued ∧ s.states 0 = .borrowed := by
  refine (system 1).exists_reachable ⟨3, rfl⟩ (publishing ++ turns 0 .tryAcquire 5 ++
    turns 1 .acquire 10 ++ turns 2 .acquire 6) ⟨_, rfl, fun reached => ?_⟩
  obtain ⟨counted, -, gate, queued, labelled⟩ := pool_assertions_hold reached
  exact ⟨rfl, rfl, rfl, counted, gate 2 rfl rfl, queued 0 (.head []),
    labelled (.cell (.borrowed 0)) 0 rfl⟩

end Menagerie.Starling.Pool
