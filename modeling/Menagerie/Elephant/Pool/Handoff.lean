import Menagerie.Elephant.Pool.Shutdown

/-!
# Hand-off of connections

A call that obtains a holder completes with that holder, and with nothing else.
-/

namespace Menagerie.Elephant.Pool

open Function State List

/-- The history explains the state. -/
structure Explained (s : State) : Prop where
  obtained : ∀ late call holder, .obtained late call holder ∈ s.history →
    (∃ thread, s.threads thread = .waiting call ∧ s.At (.waiter call) holder) ∨
      (∃ thread, s.threads thread = .post call (.holder holder)) ∨
      .completed call (.holder holder) ∈ s.history
  assigned : ∀ call holder, s.At (.waiter call) holder →
    ∃ late, .obtained late call holder ∈ s.history
  given : ∀ call holder, s.At (.posted call) holder ∨ s.At (.borrower call) holder →
    .completed call (.holder holder) ∈ s.history

section Explained

variable {s : State} {thread : Nat} {effect : Effect} {after : Frame}

theorem Flow.of_waiting {call : Nat} (flow : Flow s (.waiting call) effect after) :
    (∃ holder, effect = .resume call holder ∧ (s.calls call).assigned = some holder) ∨
      (s.calls call).ready = false := by
  cases flow with
  | resume _ holder _ assigned => exact .inl ⟨holder, rfl, assigned⟩
  | withdraw _ unready => exact .inr unready
  | refuseSync _ _ entering | refuseAsync _ _ entering => rcases entering with h | h <;> cases h
  | exhausted _ _ joins | queueSync _ _ joins | queueAsync _ _ joins =>
    rcases joins with ⟨h, -⟩ | ⟨h, -⟩ <;> cases h

theorem Flow.of_post {call : Nat} {outcome : Outcome}
    (flow : Flow s (.post call outcome) effect after) : effect = .post call outcome := by
  cases flow with
  | post => rfl
  | refuseSync _ _ entering | refuseAsync _ _ entering => rcases entering with h | h <;> cases h
  | exhausted _ _ joins | queueSync _ _ joins | queueAsync _ _ joins =>
    rcases joins with ⟨h, -⟩ | ⟨h, -⟩ <;> cases h

theorem Tracked.waiter_kept (tracked : Tracked s) (flow : Flow s (s.threads thread) effect after)
    {other call holder : Nat} (apart : other ≠ thread) (waiting : s.threads other = .waiting call)
    (held : s.At (.waiter call) holder) : (s.apply effect).At (.waiter call) holder := by
  obtain ⟨ready, assigned⟩ := held
  have owner : call ∈ (s.threads other).calls := by
    rw [waiting]
    exact mem_singleton_self call
  change ((s.apply effect).calls call).ready = true ∧
    ((s.apply effect).calls call).assigned = some holder
  have marked := s.apply_marked effect call
  generalize (s.apply effect).calls call = waiter at marked
  cases marked with
  | enter mode new =>
    have known := tracked.call_known owner
    omega
  | resume taken =>
    -- Only the thread that waits for the call resumes it.
    have mover : call ∈ (s.threads thread).calls := by
      generalize s.threads thread = frame at flow
      cases flow with
      | resume => exact mem_singleton_self call
    have same := tracked.owned.unshared call (.thread other) (.thread thread) owner mover
    exact absurd (Owner.thread.inj same) apart
  | assign rest given sync =>
    have front := tracked.served_front flow
    have queued : call ∈ s.waiters := by
      rw [front]
      exact mem_cons_self
    rw [(tracked.parked call queued sync).1] at ready
    cases ready
  | _ => exact ⟨ready, assigned⟩

theorem State.mem_apply_history {event : Event} (before : event ∈ s.history) :
    event ∈ (s.apply effect).history := by
  rw [s.apply_history]
  exact mem_append_left _ before

theorem State.mem_of_events {event : Event} (new : event ∈ effect.events s) :
    event ∈ (s.apply effect).history := by
  rw [s.apply_history]
  exact mem_append_right _ new

section

variable {call holder : Nat}

theorem Effect.obtained_of_gives (given : effect.gives s = some (.waiter call, holder)) :
    .obtained s.drained call holder ∈ effect.events s := by
  cases effect with
  | serve target rest served =>
    rw [Effect.gives] at given
    split_ifs at given
    cases given
    simp [Effect.events]
  | post target outcome => cases outcome <;> cases given
  | deliver target =>
    obtain ⟨_, -, wrong⟩ := Option.map_eq_some_iff.mp given
    cases wrong
  | _ => cases given

theorem Effect.completed_of_posts (given : effect.gives s = some (.posted call, holder)) :
    .completed call (.holder holder) ∈ effect.events s := by
  cases effect with
  | post target outcome =>
    cases outcome with
    | holder posted =>
      cases given
      exact mem_singleton_self _
    | _ => cases given
  | serve target rest served =>
    rw [Effect.gives] at given
    split_ifs at given
    cases given
  | deliver target =>
    obtain ⟨_, -, wrong⟩ := Option.map_eq_some_iff.mp given
    cases wrong
  | _ => cases given

theorem Effect.completed_of_lends (given : effect.gives s = some (.borrower call, holder)) :
    s.At (.posted call) holder ∨ .completed call (.holder holder) ∈ effect.events s := by
  cases effect with
  | lend | adoptLend | resume =>
    cases given
    exact .inr (by simp [Effect.events])
  | post target outcome => cases outcome <;> cases given
  | serve target rest served =>
    rw [Effect.gives] at given
    split_ifs at given
    cases given
  | deliver target =>
    obtain ⟨lent, posted, same⟩ := Option.map_eq_some_iff.mp given
    cases same
    exact .inl posted
  | _ => cases given

theorem Tracked.obtains (tracked : Tracked s) (flow : Flow s (s.threads thread) effect after)
    {late : Bool} (event : .obtained late call holder ∈ effect.events s) :
    (∃ other, update s.threads thread after other = .waiting call ∧
        (s.apply effect).At (.waiter call) holder) ∨
      after = .post call (.holder holder) ∨
      .completed call (.holder holder) ∈ effect.events s := by
  generalize at_ : s.threads thread = frame at flow
  cases flow with
  | take | adopt | serveAsync =>
    simp only [Effect.events, mem_cons, reduceCtorEq, Event.obtained.injEq, not_mem_nil,
      or_false, false_or] at event
    obtain ⟨-, rfl, rfl⟩ := event
    exact .inr (.inl rfl)
  | lend | adoptLend =>
    simp only [Effect.events, mem_cons, reduceCtorEq, Event.obtained.injEq, not_mem_nil,
      or_false] at event
    obtain ⟨-, rfl, rfl⟩ := event
    exact .inr (.inr (by simp [Effect.events]))
  | serveSync given target rest _ first sync =>
    simp only [Effect.events, mem_cons, reduceCtorEq, Event.obtained.injEq, not_mem_nil,
      or_false, false_or] at event
    obtain ⟨-, rfl, rfl⟩ := event
    have front := tracked.first_waiter first
    have queued : call ∈ s.waiters := by
      rw [front]
      exact mem_cons_self
    obtain ⟨-, other, waiting⟩ := tracked.parked call queued sync
    have apart : other ≠ thread := by
      rintro rfl
      rw [waiting] at at_
      cases at_
    refine .inl ⟨other, by rw [update_of_ne apart]; exact waiting, ?_⟩
    simp [At, apply, setCall, log, sync]
  | _ => simp [Effect.events] at event

end

theorem Explained.move (explained : Explained s) (tracked : Tracked s)
    (flow : Flow s (s.threads thread) effect after) :
    Explained (s.perform thread (effect, after)) where
  obtained late call holder event := by
    change _ ∈ (s.apply effect).history at event
    change (∃ other, update s.threads thread after other = .waiting call ∧
        (s.apply effect).At (.waiter call) holder) ∨
      (∃ other, update s.threads thread after other = .post call (.holder holder)) ∨
      .completed call (.holder holder) ∈ (s.apply effect).history
    rw [s.apply_history] at event
    rcases mem_append.mp event with before | new
    · rcases explained.obtained late call holder before with
        ⟨other, waiting, held⟩ | ⟨other, posting⟩ | done
      · by_cases mover : other = thread
        · subst mover
          rw [waiting] at flow
          rcases flow.of_waiting with ⟨taken, rfl, assigned⟩ | unready
          · rw [held.2] at assigned
            rw [Option.some.inj assigned]
            exact .inr (.inr (by simp [s.apply_history, Effect.events]))
          · rw [held.1] at unready
            cases unready
        · exact .inl ⟨other, by rw [update_of_ne mover]; exact waiting,
            tracked.waiter_kept flow mover waiting held⟩
      · by_cases mover : other = thread
        · subst mover
          rw [posting] at flow
          obtain rfl := flow.of_post
          exact .inr (.inr (mem_of_events (mem_singleton_self _)))
        · exact .inr (.inl ⟨other, by rw [update_of_ne mover]; exact posting⟩)
      · exact .inr (.inr (mem_apply_history done))
    · rcases tracked.obtains flow new with waiting | rfl | done
      · exact .inl waiting
      · exact .inr (.inl ⟨thread, update_self _ _ _⟩)
      · exact .inr (.inr (mem_of_events done))
  assigned call holder held := by
    rcases apply_waiter held.1 held.2 with before | given
    · obtain ⟨late, event⟩ := explained.assigned call holder before
      exact ⟨late, mem_apply_history event⟩
    · exact ⟨s.drained, mem_of_events (Effect.obtained_of_gives given)⟩
  given call holder held := by
    have before : s.At (.posted call) holder ∨ s.At (.borrower call) holder →
        .completed call (.holder holder) ∈ (s.apply effect).history :=
      fun held => mem_apply_history (explained.given call holder held)
    rcases held with posted | borrowed
    · rcases apply_posted posted with held | given
      · exact before (.inl held)
      · exact mem_of_events (Effect.completed_of_posts given)
    · rcases apply_borrower borrowed with held | given
      · exact before (.inr held)
      · rcases Effect.completed_of_lends given with posted | event
        · exact before (.inl posted)
        · exact mem_of_events event

theorem reachable_explained {config : PoolConfig}
    {condition : State → Frame → Effect → Frame → Prop} {s : State}
    (reached : (system config).ReachableBy (within condition) s) : Explained s := by
  refine invariant_of_moves Explained reached ?_
    (fun s thread effect after before explained _ flow _ =>
    explained.move (reachable_tracked before) flow)
  intro created threadCount _
  refine ⟨nofun, fun _ _ held => (nomatch held.1), ?_⟩
  rintro call holder (held | held) <;> cases held

end Explained

/-- A call is pending while a thread or the queue has to complete it. -/
def State.Pending (s : State) (call : Nat) : Prop :=
  (∃ thread, s.owns (.thread thread) call) ∨ s.owns .queue call

section

variable {s : State} {call : Nat}

theorem Tracked.completed_once (tracked : Tracked s) (started : call < s.callCount) :
    (s.Pending call → s.completions.count call = 0) ∧
      (¬ s.Pending call → s.completions.count call = 1) := by
  have unshared := tracked.owned.unshared call
  constructor
  · intro pending
    rw [count_eq_zero]
    intro done
    rcases pending with ⟨thread, held⟩ | queued
    · exact nomatch unshared (.thread thread) .done held done
    · exact nomatch unshared .queue .done queued done
  · intro settled
    obtain ⟨owner, held⟩ := tracked.owned.covered call trivial
    cases owner with
    | unborn =>
      change s.callCount ≤ call at held
      omega
    | thread thread => exact absurd (.inl ⟨thread, held⟩) settled
    | queue => exact absurd (.inr held) settled
    | done => exact count_eq_one_of_mem tracked.once held

theorem Tracked.outcome_unique (tracked : Tracked s) {first second : Outcome}
    (left : .completed call first ∈ s.history) (right : .completed call second ∈ s.history) :
    first = second := by
  have same := ServiceOrder.entry_unique tracked.once left right rfl rfl
  exact (Event.completed.inj same).2

theorem Explained.no_holder (explained : Explained s) (tracked : Tracked s) {outcome : Outcome}
    (completed : .completed call outcome ∈ s.history) (none : outcome.given = none) (holder : Nat) :
    (∀ late, .obtained late call holder ∉ s.history) ∧ ¬ s.At (.waiter call) holder ∧
      ¬ s.At (.posted call) holder ∧ ¬ s.At (.borrower call) holder := by
  have done : s.owns .done call := mem_filterMap.mpr ⟨_, completed, rfl⟩
  have other : .completed call (.holder holder) ∉ s.history := by
    intro event
    rw [tracked.outcome_unique completed event] at none
    cases none
  have owner : ∀ thread frame, s.threads thread = frame → call ∉ frame.calls := by
    rintro thread _ rfl held
    exact nomatch tracked.owned.unshared call (.thread thread) .done held done
  have never : ∀ late, .obtained late call holder ∉ s.history := by
    intro late event
    rcases explained.obtained late call holder event with
      ⟨thread, waiting, -⟩ | ⟨thread, posting⟩ | completed
    · exact owner thread _ waiting (mem_singleton_self call)
    · exact owner thread _ posting (mem_singleton_self call)
    · exact other completed
  refine ⟨never, ?_, fun held => other (explained.given call holder (.inl held)),
    fun held => other (explained.given call holder (.inr held))⟩
  intro held
  obtain ⟨late, event⟩ := explained.assigned call holder held
  exact never late event

end

theorem Tracked.return_holder {s : State} (tracked : Tracked s) (running : s.shutdown = false)
    (holder : Nat) (choice : Choice) :
    (s.waiters = [] → next s choice (.returnHolder holder) = some (.park holder, .ready)) ∧
      ∀ call rest, s.waiters = call :: rest → (s.calls call).claimed = false ∧
        ∃ after, next s choice (.returnHolder holder) = some (.serve call rest holder, after) := by
  constructor
  · intro empty
    simp only [next, running, Bool.false_eq_true, if_false, empty, firstWaiter]
  · intro call rest front
    have unclaimed := tracked.unclaimed call (by rw [front]; exact mem_cons_self)
    have first : s.firstWaiter s.waiters = some (call, rest) := by
      rw [front, firstWaiter, unclaimed, Bool.and_false, if_neg Bool.false_ne_true]
    refine ⟨unclaimed, ?_⟩
    simp only [next, running, Bool.false_eq_true, if_false, first]
    split_ifs
    · exact ⟨_, rfl⟩
    · exact ⟨_, rfl⟩

/-- No holder is at two places or twice in `free_`; calls are served in order of arrival; a call
that has started and is not pending was completed exactly once; after the region of `shutdown` no
async call is queued; and a call that completes without a holder has never obtained one. -/
theorem handoff_exclusive_ordered_once {config : PoolConfig} {s : State}
    (reached : (system config).Reachable s) :
    (s.free.Nodup ∧ Placement.Unshared s.At) ∧
    ((s.shutdown = false → ∀ holder choice,
        (s.waiters = [] → next s choice (.returnHolder holder) = some (.park holder, .ready)) ∧
        ∀ call rest, s.waiters = call :: rest → (s.calls call).claimed = false ∧
          ∃ after, next s choice (.returnHolder holder) = some (.serve call rest holder, after)) ∧
      ServiceOrder.InOrder s.arrivals s.services s.waiters) ∧
    ((∀ call < s.callCount, (s.Pending call → s.completions.count call = 0) ∧
        (¬ s.Pending call → s.completions.count call = 1)) ∧
      (s.drained = true → ∀ call, ¬ s.owns .queue call)) ∧
    (∀ call outcome, .completed call outcome ∈ s.history → outcome.given = none → ∀ holder,
      (∀ late, .obtained late call holder ∉ s.history) ∧ ¬ s.At (.waiter call) holder ∧
        ¬ s.At (.posted call) holder ∧ ¬ s.At (.borrower call) holder) := by
  have within := reachable_within reached
  have exclusive := reachable_exclusive within
  have tracked := reachable_tracked within
  have explained := reachable_explained within
  have closing := reachable_closing within
  exact ⟨⟨exclusive.once, exclusive.unshared⟩,
    ⟨fun running holder choice => tracked.return_holder running holder choice, tracked.order⟩,
    ⟨fun call started => tracked.completed_once started, closing.unqueued⟩,
    fun call outcome completed none => explained.no_holder tracked completed none⟩

/-- A sync call waits for the only connection before an async call whose timer expires. -/
theorem handoff_exclusive_ordered_once_single : ∃ s, (system single).Reachable s ∧
    s.At (.waiter 1) 0 ∧ s.free = [] ∧ .completed 2 .timedOut ∈ s.history ∧
    (∀ late, .obtained late 2 0 ∉ s.history) := by
  refine (system single).exists_reachable ⟨[], 3, rfl, rfl⟩
    (turns 0 (.acquire .tryAcquire) 4 ++ turns 1 (.acquire .acquire) 2 ++
      turns 2 (.acquire (.async true)) 2 ++ turns 2 (.timer 2) 2 ++ turns 0 (.reset 0 true) 1)
    ⟨_, rfl, fun reached => ?_⟩
  have handoff := handoff_exclusive_ordered_once reached
  exact ⟨⟨rfl, rfl⟩, rfl, by decide, (handoff.2.2.2 2 .timedOut (by decide) rfl 0).1⟩

/-- A queued call is there once and neither claimed nor completed; exactly one thread is inside the
wait of a sync one, whose `Waiter` is on its stack, and none is about to complete an async one; and
an armed or running timer is that of an async call that is claimed or queued. -/
theorem queued_waiters_alive {config : PoolConfig} {s : State}
    (reached : (system config).Reachable s) :
    s.waiters.Nodup ∧
    (∀ call ∈ s.waiters, (s.calls call).claimed = false ∧ call ∉ s.completions ∧
      if (s.calls call).mode.isAsync then ∀ thread, call ∉ (s.threads thread).calls
      else (s.calls call).ready = false ∧ ∃! thread, s.threads thread = .waiting call) ∧
    ∀ call, (s.calls call).timerArmed = true ∨ (∃ thread, s.threads thread = .timeout call) →
      (s.calls call).mode.isAsync = true ∧ ((s.calls call).claimed = true ∨ call ∈ s.waiters) := by
  have tracked := reachable_tracked (reachable_within reached)
  have apart := tracked.owned.unshared
  refine ⟨(tracked.order.once.sublist tracked.order.ordered).of_append_right, ?_, tracked.timed⟩
  intro call queued
  refine ⟨tracked.unclaimed call queued, ?_⟩
  split_ifs with async
  · have only : ∀ owner, s.owns owner call → owner = .queue := fun owner held =>
      apart call owner .queue held ⟨queued, async⟩
    constructor
    · intro done
      cases only .done done
    · intro thread mine
      cases only (.thread thread) mine
  · obtain ⟨unready, thread, waits⟩ := tracked.parked call queued (Bool.eq_false_iff.mpr async)
    have only : ∀ owner, s.owns owner call → owner = .thread thread := fun owner held =>
      apart call owner (.thread thread) held (by simp [State.owns, waits, Frame.calls])
    refine ⟨?_, unready, thread, waits, ?_⟩
    · intro done
      cases only .done done
    · intro other same
      exact Owner.thread.inj (only (.thread other) (by simp [State.owns, same, Frame.calls]))

/-- A sync call and an async call with a timer wait for the only connection. -/
theorem queued_waiters_alive_single : ∃ s, (system single).Reachable s ∧ s.waiters = [1, 2] ∧
    (∃! thread, s.threads thread = .waiting 1) ∧ ∀ thread, 2 ∉ (s.threads thread).calls := by
  refine (system single).exists_reachable ⟨[], 3, rfl, rfl⟩
    (turns 0 (.acquire .tryAcquire) 4 ++ turns 1 (.acquire .acquire) 2 ++
      turns 2 (.acquire (.async true)) 2) ⟨_, rfl, fun reached => ?_⟩
  have alive := (queued_waiters_alive reached).2.1
  exact ⟨rfl, (alive 1 (by decide)).2.2.2, (alive 2 (by decide)).2.2⟩

end Menagerie.Elephant.Pool
