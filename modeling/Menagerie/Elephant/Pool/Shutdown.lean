import Menagerie.Elephant.Pool.Capacity
import Menagerie.Elephant.Pool.Holders
import Menagerie.Elephant.Pool.Tracking

/-!
# Shutdown

The region of `shutdown` empties the queue, `free_` and `holders_`. Async calls look at `shutdown_`
again before they add a new connection, sync calls do not, and a sync waiter that has been assigned
a holder may still have to take it.
-/

namespace Menagerie.Elephant.Pool

open List

/-- What follows `shutdown`. -/
structure Closing (s : State) : Prop where
  opened : ∀ thread, s.threads thread = .drain → s.shutdown = true
  closed : s.drained = true → s.shutdown = true
  vacant : s.drained = true → s.free = []
  unqueued : s.drained = true → ∀ call, ¬ s.owns .queue call

section Closing

variable {s : State} {thread : Nat} {effect : Effect} {after : Frame}

theorem State.shutdown_apply (closed : s.shutdown = true) : (s.apply effect).shutdown = true := by
  cases effect with
  | close => rfl
  | _ => exact closed

/-- After the region nothing is free and no async waiter queued. -/
theorem Closing.after_region (tracked : Tracked s) (closed : s.shutdown = true)
    (vacant : s.free = []) (unqueued : ∀ call, ¬ s.owns .queue call)
    (flow : Flow s (s.threads thread) effect after) :
    (s.apply effect).free = [] ∧ ∀ call, ¬ (s.apply effect).owns .queue call := by
  have stopped : s.shutdown ≠ false := by
    rw [closed]
    exact Bool.noConfusion
  have held : ∀ call ∈ (s.threads thread).calls, call < s.callCount :=
    fun call held => tracked.call_known held
  generalize s.threads thread = frame at flow held
  cases flow with
  | take _ _ _ running | lend _ _ _ running | park _ running
  | serveAsync _ _ _ running | serveSync _ _ _ running => exact absurd running stopped
  | queueSync call _ joins sync =>
    have known := held call (by rw [joins.calls.1]; exact mem_singleton_self call)
    refine ⟨vacant, fun other queued => ?_⟩
    rcases (tracked.owns_queue_enqueue known).mp queued with ⟨-, async⟩ | before
    · rw [sync] at async
      cases async
    · exact unqueued other before
  | queueAsync call _ joins async =>
    rcases joins with ⟨-, running, -⟩ | ⟨-, running⟩
    · exact absurd running stopped
    · exact absurd (running async) stopped
  | withdraw | expire =>
    refine ⟨vacant, fun other queued => unqueued other ?_⟩
    have kept := (tracked.owns_queue mem_of_mem_erase).mp queued
    exact ⟨mem_of_mem_erase kept.1, kept.2⟩
  | drain => exact ⟨rfl, fun other queued => not_mem_nil queued.1⟩
  | _ =>
    exact ⟨vacant, fun other queued => unqueued other ((tracked.owns_queue_same rfl).mp queued)⟩

theorem Closing.move (closing : Closing s) (tracked : Tracked s)
    (flow : Flow s (s.threads thread) effect after) :
    Closing (s.perform thread (effect, after)) := by
  -- The region is executed with the flag set.
  have region : (s.apply effect).drained = true →
      s.shutdown = true ∧ (s.drained = true ∨ effect = .drain) := by
    intro drained
    generalize at_ : s.threads thread = frame at flow
    cases flow with
    | drain => exact ⟨closing.opened thread at_, .inr rfl⟩
    | _ => exact ⟨closing.closed drained, .inl drained⟩
  have later : (s.apply effect).drained = true →
      (s.apply effect).free = [] ∧ ∀ call, ¬ (s.apply effect).owns .queue call := by
    intro drained
    obtain ⟨closed, before | rfl⟩ := region drained
    · exact Closing.after_region tracked closed (closing.vacant before)
        (closing.unqueued before) flow
    · exact ⟨rfl, fun other queued => not_mem_nil queued.1⟩
  refine ⟨?_, fun drained => State.shutdown_apply (region drained).1,
    fun drained => (later drained).1, fun drained => (later drained).2⟩
  intro other at_
  rcases update_apply_eq.mp at_ with ⟨rfl, rfl⟩ | ⟨-, at_⟩
  · generalize s.threads other = frame at flow
    cases flow with
    | close => rfl
  · exact State.shutdown_apply (closing.opened other at_)

theorem reachable_closing {config : PoolConfig}
    {condition : State → Frame → Effect → Frame → Prop} {s : State}
    (reached : (system config).ReachableBy (within condition) s) : Closing s := by
  refine invariant_of_moves Closing reached ?_ (fun s thread effect after before closing _ flow _ =>
    closing.move (reachable_tracked before) flow)
  exact fun _ _ _ => ⟨nofun, nofun, nofun, nofun⟩

end Closing

/-- Until the region of `shutdown` every holder is in `holders_` or still to be added. -/
def Enrolled (s : State) : Prop :=
  s.drained = false → ∀ place holder, s.At place holder →
    holder ∈ s.holders ∨ ∃ thread call, place = .thread thread ∧
      s.threads thread = .relock call (some holder)

section Enrolled

variable {s : State} {thread : Nat} {effect : Effect} {after : Frame}

/-- Only `drop_dead` and `shutdown` take a holder out of `holders_`. -/
theorem State.mem_apply_holders {holder : Nat} (member : holder ∈ s.holders)
    (kept : ∀ dropped, effect = .drop dropped → holder ≠ dropped)
    (running : (s.apply effect).drained = false) : holder ∈ (s.apply effect).holders := by
  cases effect with
  | adopt | adoptLend => exact mem_append_left _ member
  | drop dropped => exact (mem_erase_of_ne (kept dropped rfl)).mpr member
  | drain => cases running
  | _ => exact member

/-- Before the region of `shutdown` only registered holders are passed on, but for new ones. -/
theorem Enrolled.passed (enrolled : Enrolled s) (before : s.drained = false)
    (flow : Flow s (s.threads thread) effect after) {holder : Nat}
    (passed : after.carried = some holder ∨ ∃ place, effect.gives s = some (place, holder)) :
    holder ∈ (s.apply effect).holders ∨ ∃ call, after = .relock call (some holder) := by
  obtain ⟨supply, kept⟩ := flow.supply passed
  cases supply with
  | taken place present other =>
    rcases enrolled before place holder present with member | ⟨mover, -, same, -⟩
    · exact .inl (kept holder member)
    · exact absurd same (other mover)
  | carried present _ added =>
    rcases enrolled before (.thread thread) holder present with member | ⟨mover, call, same, at_⟩
    · exact .inl (kept holder member)
    · rw [← Place.thread.inj same] at at_
      exact .inl (added call at_)
  | made call _ _ adds => exact .inr ⟨call, adds⟩

/-- Until the pool is drained its holders stay registered. -/
theorem Enrolled.member_move (enrolled : Enrolled s) (exclusive : Exclusive s)
    (flow : Flow s (s.threads thread) effect after) (running : (s.apply effect).drained = false)
    {place : Place} {holder : Nat} (held : (s.perform thread (effect, after)).At place holder) :
    holder ∈ (s.apply effect).holders ∨ ∃ mover call, place = .thread mover ∧
      Function.update s.threads thread after mover = .relock call (some holder) := by
  have before : s.drained = false := by
    cases effect with
    | drain => cases running
    | _ => exact running
  rcases held.origin with ⟨present, other⟩ | ⟨rfl, carried⟩ | given
  · rcases enrolled before place holder present with member | ⟨mover, call, rfl, at_⟩
    · refine .inl (State.mem_apply_holders member ?_ running)
      rintro _ rfl rfl
      have carried : s.At (.thread thread) holder := by
        change (s.threads thread).carried = some holder
        generalize s.threads thread = frame at flow
        cases flow with
        | drop => rfl
      exact other (exclusive.unshared holder place (.thread thread) present carried)
    · have apart : mover ≠ thread := fun same => other (same ▸ rfl)
      exact .inr ⟨mover, call, rfl, by rw [Function.update_of_ne apart]; exact at_⟩
  · rcases enrolled.passed before flow (.inl carried) with member | ⟨call, created⟩
    · exact .inl member
    · exact .inr ⟨thread, call, rfl, by rw [Function.update_self]; exact created⟩
  · rcases enrolled.passed before flow (.inr ⟨place, given⟩) with member | ⟨call, rfl⟩
    · exact .inl member
    · generalize s.threads thread = frame at flow
      cases flow with
      | make => cases given

theorem reachable_enrolled {config : PoolConfig}
    {condition : State → Frame → Effect → Frame → Prop} {s : State}
    (reached : (system config).ReachableBy (within condition) s) : Enrolled s := by
  refine invariant_of_moves Enrolled reached ?_ ?_
  · intro created threadCount _ _ place holder held
    cases place with
    | free => exact .inl held
    | waiter => cases held.1
    | _ => cases held
  · intro s thread effect after before enrolled _ flow _ running place holder held
    exact enrolled.member_move (reachable_exclusive before) flow running held

/-- Until the region of `shutdown` a holder outside the threads is in `holders_`. -/
theorem Enrolled.stored (enrolled : Enrolled s) (running : s.drained = false) {place : Place}
    {holder : Nat} (held : s.At place holder) (other : ∀ thread, place ≠ .thread thread) :
    holder ∈ s.holders := by
  rcases enrolled running place holder held with member | ⟨thread, -, same, -⟩
  · exact member
  · exact absurd same (other thread)

end Enrolled

/-- The region of `shutdown` finds no ready sync waiter, and connections are added only before it.
-/
def Final (s : State) (_ : Frame) (effect : Effect) (_ : Frame) : Prop :=
  (effect = .drain → ∀ call < s.callCount, (s.calls call).ready = false) ∧
    (effect.adopts = true → s.drained = false)

instance (s : State) (frame : Frame) (effect : Effect) (after : Frame) :
    Decidable (Final s frame effect after) := by
  unfold Final
  infer_instance

/-- After the region of `shutdown` the pool has no holder and gives none. -/
structure Registered (s : State) : Prop where
  cleared : s.drained = true → s.holders = []
  unready : s.drained = true → ∀ call, (s.calls call).ready = false
  early : ∀ call holder, .obtained true call holder ∉ s.history

section Registered

variable {s : State} {thread : Nat} {effect : Effect} {after : Frame}

/-- A final step keeps the pool without holders. -/
theorem Registered.move (registered : Registered s) (tracked : Tracked s) (closing : Closing s)
    (flow : Flow s (s.threads thread) effect after)
    (final : Final s (s.threads thread) effect after) :
    Registered (s.perform thread (effect, after)) := by
  obtain ⟨unready, added⟩ := final
  have stopped : s.drained = true → s.shutdown ≠ false := by
    intro drained running
    rw [closing.closed drained] at running
    cases running
  refine ⟨?_, ?_, ?_⟩
  · intro drained
    generalize s.threads thread = frame at flow
    cases flow with
    | adopt | adoptLend => exact absurd ((added rfl).symm.trans drained) Bool.false_ne_true
    | drop _ running => exact absurd running (stopped drained)
    | drain => rfl
    | _ => exact registered.cleared drained
  · intro drained call
    by_contra ready
    rcases State.apply_ready (Bool.not_eq_false _ ▸ ready) with before | ⟨rest, holder, rfl⟩
    · have known := tracked.arrived call (tracked.marked call (.inr (.inl before)))
      have idle : (s.calls call).ready = false := by
        cases effect with
        | drain => exact unready rfl call known
        | _ => exact registered.unready drained call
      rw [idle] at before
      cases before
    · generalize s.threads thread = frame at flow
      cases flow with
      | serveAsync _ _ _ running | serveSync _ _ _ running => exact absurd running (stopped drained)
  · intro call holder event
    change .obtained true call holder ∈ (s.apply effect).history at event
    rw [s.apply_history] at event
    rcases mem_append.mp event with before | new
    · exact registered.early call holder before
    · generalize s.threads thread = frame at flow
      cases flow with
      | take _ _ _ running | lend _ _ _ running | adopt _ _ _ running
      | serveAsync _ _ _ running | serveSync _ _ _ running =>
        simp only [Effect.events, mem_cons, reduceCtorEq, Event.obtained.injEq,
          not_mem_nil, or_false, false_or] at new
        exact stopped new.1.symm running
      | adoptLend =>
        simp only [Effect.events, mem_cons, reduceCtorEq, Event.obtained.injEq,
          not_mem_nil, or_false] at new
        exact Bool.false_ne_true ((added rfl).symm.trans new.1.symm)
      | _ => simp [Effect.events] at new

theorem reachable_registered {config : PoolConfig} {s : State}
    (reached : (system config).ReachableBy (within Final) s) : Registered s := by
  refine invariant_of_moves Registered reached
    (fun _ _ _ => ⟨nofun, nofun, fun _ _ => not_mem_nil⟩) ?_
  intro s thread effect after before registered _ flow final
  exact registered.move (reachable_tracked before) (reachable_closing before) flow final

end Registered

/-- In every run in which the region of `shutdown` finds no ready sync waiter and connections are
added only before it, every holder in `free_` or of a ready waiter is in `holders_`, and after the
region `holders_` is empty and nobody obtains a holder. -/
theorem shutdown_final {config : PoolConfig} {s : State}
    (reached : (system config).ReachableBy (within Final) s) :
    (∀ holder ∈ s.free, holder ∈ s.holders) ∧
    (∀ call holder, (s.calls call).ready = true → (s.calls call).assigned = some holder →
      holder ∈ s.holders) ∧
    (s.drained = true → s.holders = []) ∧
    (∀ call holder, .obtained true call holder ∉ s.history) := by
  have registered := reachable_registered reached
  have enrolled := reachable_enrolled reached
  have closing := reachable_closing reached
  refine ⟨?_, ?_, registered.cleared, registered.early⟩
  · intro holder free
    cases drained : s.drained with
    | false =>
      have held : s.At .free holder := free
      exact enrolled.stored drained held nofun
    | true =>
      rw [closing.vacant drained] at free
      cases free
  · intro call holder ready assigned
    cases drained : s.drained with
    | false =>
      have held : s.At (.waiter call) holder := ⟨ready, assigned⟩
      exact enrolled.stored drained held nofun
    | true =>
      rw [registered.unready drained call] at ready
      cases ready

/-- The pool shuts down while its only connection is lent. -/
theorem shutdown_final_single : ∃ s, (system single).ReachableBy (within Final) s ∧
    s.drained = true ∧ s.borrows 0 = some 0 ∧ s.holders = [] := by
  refine (system single).exists_reachableBy (within Final) ⟨[], 2, rfl, rfl⟩
    (turns 0 (.acquire .tryAcquire) 4 ++ turns 1 .shutdown 2) ⟨_, rfl, fun reached => ?_⟩
  exact ⟨rfl, rfl, (shutdown_final reached).2.2.1 rfl⟩

/-- A sync call adds its new connection to `holders_` and returns it after the region of `shutdown`;
and a ready sync waiter keeps a pointer that is no longer in `holders_`. -/
theorem shutdown_not_final :
    (∃ s, (system single).Reachable s ∧ s.drained = true ∧ s.holders = [0] ∧
      .obtained true 0 0 ∈ s.history ∧ .completed 0 (.holder 0) ∈ s.history) ∧
    (∃ s, (system single).Reachable s ∧ (s.calls 1).ready = true ∧
      (s.calls 1).assigned = some 0 ∧ s.holders = []) := by
  constructor
  · exact (system single).exists_reachable ⟨[], 2, rfl, rfl⟩
      (turns 0 (.acquire .tryAcquire) 3 ++ turns 1 .shutdown 2 ++ [.step 0 {}])
      ⟨_, rfl, fun _ => ⟨rfl, rfl, by decide, by decide⟩⟩
  · exact (system single).exists_reachable ⟨[], 3, rfl, rfl⟩
      (turns 0 (.acquire .tryAcquire) 4 ++ turns 1 (.acquire .acquire) 2 ++
        turns 0 (.reset 0 true) 1 ++ turns 2 .shutdown 2) ⟨_, rfl, fun _ => ⟨rfl, rfl, rfl⟩⟩

end Menagerie.Elephant.Pool
