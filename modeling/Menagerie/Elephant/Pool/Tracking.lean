import Menagerie.Elephant.Pool.Calls

/-!
# Tracking every call

One invariant follows all calls through the pool: their owners, the order of the queue, and the
marks of waiters and timers. Each field has its own step lemma.
-/

namespace Menagerie.Elephant.Pool

open Function State List

/-- Threads and waiters agree. -/
structure Tracked (s : State) : Prop where
  owned : Owned s
  once : s.completions.Nodup
  listed : ∀ thread, (s.threads thread).calls.Nodup
  order : ServiceOrder.InOrder s.arrivals s.services s.waiters
  arrived : ∀ call ∈ s.arrivals, call < s.callCount
  fresh : ∀ thread call, (s.threads thread).starting = some call → call ∉ s.arrivals
  marked : ∀ call, (s.calls call).claimed = true ∨ (s.calls call).ready = true ∨
    (s.calls call).timerArmed = true → call ∈ s.arrivals
  unclaimed : ∀ call ∈ s.waiters, (s.calls call).claimed = false
  parked : ∀ call ∈ s.waiters, (s.calls call).mode.isAsync = false →
    (s.calls call).ready = false ∧ ∃ thread, s.threads thread = .waiting call
  timed : ∀ call, (s.calls call).timerArmed = true ∨ (∃ thread, s.threads thread = .timeout call) →
    (s.calls call).mode.isAsync = true ∧ ((s.calls call).claimed = true ∨ call ∈ s.waiters)

namespace Tracked

variable {s : State} {thread : Nat} {effect : Effect} {after : Frame} {call : Nat}
  {rest : List Nat}

section

variable (tracked : Tracked s)

include tracked

theorem mem_arrivals (queued : call ∈ s.waiters) : call ∈ s.arrivals :=
  tracked.order.ordered.subset (mem_append_right s.services queued)

/-- The front of the queue is not claimed, so `return_holder` serves it. -/
theorem first_waiter (first : s.firstWaiter s.waiters = some (call, rest)) :
    s.waiters = call :: rest := by
  obtain ⟨skipped, split, claimed⟩ := firstWaiter_mem first
  cases skipped with
  | nil => exact split
  | cons head tail =>
    have queued : head ∈ s.waiters := by
      rw [split]
      exact mem_cons_self
    have marked := (claimed head mem_cons_self).2
    rw [tracked.unclaimed head queued] at marked
    cases marked

theorem no_waiter (nobody : s.firstWaiter s.waiters = none) :
    s.waiters = [] := by
  rcases queue : s.waiters with _ | ⟨head, tail⟩
  · rfl
  · have free := tracked.unclaimed head (by rw [queue]; exact mem_cons_self)
    rw [queue, firstWaiter, free, Bool.and_false, if_neg Bool.false_ne_true] at nobody
    cases nobody

theorem mem_unclaimed :
    call ∈ s.unclaimed ↔ s.owns .queue call := by
  rw [State.unclaimed, mem_filter]
  constructor
  · rintro ⟨queued, async⟩
    rw [Bool.and_eq_true] at async
    exact ⟨queued, async.1⟩
  · rintro ⟨queued, async⟩
    rw [async, tracked.unclaimed call queued]
    exact ⟨queued, rfl⟩

theorem not_queued (held : call ∈ (s.threads thread).calls) :
    ¬ s.owns .queue call :=
  fun queued => nomatch tracked.owned.unshared call (.thread thread) .queue held queued

theorem call_known (held : call ∈ (s.threads thread).calls) :
    call < s.callCount := by
  by_contra unborn
  exact nomatch tracked.owned.unshared call (.thread thread) .unborn held (Nat.le_of_not_lt unborn)

theorem waiter_known (queued : call ∈ s.waiters) : call < s.callCount :=
  tracked.arrived call (tracked.mem_arrivals queued)

theorem owns_queue (kept : call ∈ (s.apply effect).waiters → call ∈ s.waiters) :
    (s.apply effect).owns .queue call ↔
      call ∈ (s.apply effect).waiters ∧ (s.calls call).mode.isAsync = true := by
  refine and_congr_right fun queued => ?_
  rw [apply_mode (tracked.waiter_known (kept queued))]

theorem owns_queue_same (same : (s.apply effect).waiters = s.waiters) :
    (s.apply effect).owns .queue call ↔ s.owns .queue call := by
  rw [tracked.owns_queue (by rw [same]; exact id), same]
  rfl

theorem owns_queue_erase {removed : Nat}
    (erased : (s.apply effect).waiters = s.waiters.erase removed)
    (foreign : ¬ s.owns .queue removed) :
    (s.apply effect).owns .queue call ↔ s.owns .queue call := by
  rw [tracked.owns_queue (by rw [erased]; exact mem_of_mem_erase), erased,
    tracked.order.nodup.mem_erase_iff]
  constructor
  · rintro ⟨⟨-, queued⟩, async⟩
    exact ⟨queued, async⟩
  · intro owner
    exact ⟨⟨fun same => foreign (same ▸ owner), owner.1⟩, owner.2⟩

theorem owns_queue_enqueue {other : Nat} (known : call < s.callCount) :
    (s.apply (.enqueue call)).owns .queue other ↔
      other = call ∧ (s.calls call).mode.isAsync = true ∨ s.owns .queue other := by
  change other ∈ s.waiters ++ [call] ∧
      ((s.apply (.enqueue call)).calls other).mode.isAsync = true ↔ _
  rw [mem_append, mem_singleton]
  constructor
  · rintro ⟨queued | rfl, async⟩
    · rw [apply_mode (tracked.waiter_known queued)] at async
      exact .inr ⟨queued, async⟩
    · rw [apply_mode known] at async
      exact .inl ⟨rfl, async⟩
  · rintro (⟨rfl, async⟩ | ⟨queued, async⟩)
    · rw [apply_mode known]
      exact ⟨.inr rfl, async⟩
    · rw [apply_mode (tracked.waiter_known queued)]
      exact ⟨.inl queued, async⟩

end

section

variable (tracked : Tracked s) (flow : Flow s (s.threads thread) effect after)

include tracked flow

theorem owned_move :
    Owned (s.perform thread (effect, after)) := by
  have owned := tracked.owned
  have completions := s.apply_completions effect
  generalize at_ : s.threads thread = frame at flow
  have before : (s.threads thread).calls = frame.calls := congrArg Frame.calls at_
  have known : ∀ call ∈ frame.calls, call < s.callCount := by
    intro call held
    rw [← before] at held
    exact tracked.call_known held
  have completed : ∀ call, frame.calls = [call] → after.calls = [] →
      (s.apply effect).waiters = s.waiters → (s.apply effect).callCount = s.callCount →
      (s.apply effect).completions = s.completions ++ [call] →
      Owned (s.perform thread (effect, after)) := by
    intro call held later queue count done
    exact owned.complete (before.trans held) later not_mem_nil
      (fun _ => tracked.owns_queue_same queue) count done
  have uncompleted : (effect.events s).filterMap Event.completion = [] →
      (s.apply effect).completions = s.completions := by
    intro none
    rw [completions, none, append_nil]
  cases flow with
  | acquire mode =>
    exact owned.start before rfl (fun _ => tracked.owns_queue_same rfl) rfl rfl
  | refuseSync call _ entering =>
    rcases entering with rfl | rfl
    · exact completed call rfl rfl rfl rfl completions
    · exact completed call rfl rfl rfl rfl completions
  | refuseAsync call _ entering =>
    rcases entering with rfl | rfl
    · exact owned.keep before.symm (fun _ => Iff.rfl) rfl rfl
    · exact owned.keep before.symm (fun _ => Iff.rfl) rfl rfl
  | exhausted call _ joins => exact completed call joins.calls.1 rfl rfl rfl completions
  | lend call | adoptLend call | resume call | post call =>
    exact completed call rfl rfl rfl rfl completions
  | withdraw call =>
    have foreign : ¬ s.owns .queue call :=
      tracked.not_queued (by rw [before]; exact mem_singleton_self call)
    exact owned.complete before rfl not_mem_nil
      (fun _ => tracked.owns_queue_erase rfl foreign) rfl completions
  | abort call rest =>
    have listed := tracked.listed thread
    rw [before] at listed
    exact owned.complete before rfl (nodup_cons.mp listed).1
      (fun _ => tracked.owns_queue_same rfl) rfl completions
  | queueSync call _ joins sync =>
    have started := known call (by rw [joins.calls.1]; exact mem_singleton_self call)
    refine owned.keep (before.trans joins.calls.1).symm (fun other => ?_) rfl (uncompleted rfl)
    rw [tracked.owns_queue_enqueue started, sync]
    exact or_iff_right fun wrong => Bool.false_ne_true wrong.2
  | queueAsync call _ joins async =>
    have started := known call (by rw [joins.calls.1]; exact mem_singleton_self call)
    refine owned.join (before.trans joins.calls.1) rfl (fun other => ?_) rfl (uncompleted rfl)
    rw [tracked.owns_queue_enqueue started, async]
    exact or_congr_left (and_iff_left rfl)
  | park holder _ nobody =>
    exact owned.keep before.symm
      (fun _ => tracked.owns_queue_same (tracked.no_waiter nobody).symm) rfl (uncompleted rfl)
  | serveAsync holder call rest _ first async =>
    have front := tracked.first_waiter first
    have once := tracked.order.nodup
    rw [front] at once
    have kept : ∀ other ∈ rest, other ∈ s.waiters := by
      intro other later
      rw [front]
      exact mem_cons_of_mem call later
    refine owned.claim before ?_ (fun other => ?_) rfl (uncompleted rfl)
    · intro other held
      rw [mem_singleton.mp held]
      exact ⟨by rw [front]; exact mem_cons_self, async⟩
    · rw [tracked.owns_queue (kept other)]
      change other ∈ rest ∧ _ ↔ (other ∈ s.waiters ∧ _) ∧ other ∉ [call]
      rw [front, mem_cons, mem_singleton]
      constructor
      · rintro ⟨later, mode⟩
        exact ⟨⟨.inr later, mode⟩, fun same => (nodup_cons.mp once).1 (same ▸ later)⟩
      · rintro ⟨⟨same | later, mode⟩, apart⟩
        · exact absurd same apart
        · exact ⟨later, mode⟩
  | serveSync holder call rest _ first sync =>
    have front := tracked.first_waiter first
    have erased : rest = s.waiters.erase call := by rw [front, erase_cons_head]
    have foreign : ¬ s.owns .queue call := fun queued =>
      Bool.false_ne_true (sync.symm.trans queued.2)
    exact owned.keep before.symm (fun _ => tracked.owns_queue_erase erased foreign) rfl
      (uncompleted rfl)
  | expire call unclaimed =>
    obtain ⟨async, place⟩ := tracked.timed call (.inr ⟨thread, at_⟩)
    have queued : call ∈ s.waiters := by
      rcases place with claimed | queued
      · rw [unclaimed] at claimed
        cases claimed
      · exact queued
    refine owned.claim before ?_ (fun other => ?_) rfl (uncompleted rfl)
    · intro other held
      rw [mem_singleton.mp held]
      exact ⟨queued, async⟩
    · rw [tracked.owns_queue mem_of_mem_erase]
      change other ∈ s.waiters.erase call ∧ _ ↔ (other ∈ s.waiters ∧ _) ∧ other ∉ [call]
      rw [tracked.order.nodup.mem_erase_iff, mem_singleton]
      tauto
  | drain =>
    refine owned.claim before (fun other held => tracked.mem_unclaimed.mp held) (fun other => ?_)
      rfl (uncompleted rfl)
    change other ∈ [] ∧ _ ↔ s.owns .queue other ∧ other ∉ s.unclaimed
    rw [tracked.mem_unclaimed]
    simp
  | _ =>
    exact owned.keep before.symm (fun _ => tracked.owns_queue_same rfl) rfl (uncompleted rfl)

theorem once_move :
    (s.apply effect).completions.Nodup := by
  rw [s.apply_completions effect]
  rcases flow.completes with none | ⟨call, held, one⟩
  · rw [none, append_nil]
    exact tracked.once
  · rw [one]
    refine tracked.once.append (nodup_singleton call) ?_
    rw [disjoint_singleton]
    intro done
    exact nomatch tracked.owned.unshared call (.thread thread) .done held done

theorem listed_move :
    after.calls.Nodup := by
  have listed := tracked.listed thread
  generalize s.threads thread = frame at flow listed
  cases flow with
  | drain => exact tracked.order.nodup.filter _
  | abort call rest => exact (nodup_cons.mp listed).2
  | acquire | enter | refuseAsync | take | create | queueSync | make | unmade | lose | adopt
  | serveAsync | expire => exact nodup_singleton _
  | _ => exact nodup_nil

theorem order_move :
    ServiceOrder.InOrder (s.apply effect).arrivals (s.apply effect).services
      (s.apply effect).waiters := by
  have order := tracked.order
  have fresh := tracked.fresh thread
  rw [s.apply_arrivals, s.apply_services]
  generalize s.threads thread = frame at flow fresh
  have unserved : ∀ waiting, (effect.events s).filterMap Event.arrival = [] →
      (effect.events s).filterMap Event.service = [] →
      ServiceOrder.InOrder s.arrivals s.services waiting →
      ServiceOrder.InOrder (s.arrivals ++ (effect.events s).filterMap Event.arrival)
        (s.services ++ (effect.events s).filterMap Event.service) waiting := by
    intro waiting arrivals services kept
    rw [arrivals, services, append_nil, append_nil]
    exact kept
  cases flow with
  | queueSync call _ joins | queueAsync call _ joins =>
    have arrival := order.arrive (fresh call joins.calls.2)
    rw [← append_nil s.services] at arrival
    exact arrival
  | withdraw call | expire call => exact unserved _ rfl rfl (order.leave call)
  | park | drain => exact unserved _ rfl rfl order.clear
  | serveAsync holder call rest _ first | serveSync holder call rest _ first =>
    rw [tracked.first_waiter first] at order
    have service := order.serve
    rw [← append_nil s.arrivals] at service
    exact service
  | _ => exact unserved _ rfl rfl order

theorem arrived_move :
    ∀ call ∈ (s.apply effect).arrivals, call < (s.apply effect).callCount := by
  have grown : s.callCount ≤ (s.apply effect).callCount := by
    cases effect with
    | enter => exact Nat.le_succ _
    | _ => exact le_rfl
  intro call arrived
  rw [s.apply_arrivals] at arrived
  rcases flow.arrives with ⟨none, -⟩ | ⟨starter, starting, -, rfl⟩
  · rw [none, append_nil] at arrived
    exact lt_of_lt_of_le (tracked.arrived call arrived) grown
  · rcases mem_append.mp arrived with before | new
    · exact lt_of_lt_of_le (tracked.arrived call before) grown
    · rw [mem_singleton.mp new]
      exact lt_of_lt_of_le (tracked.call_known (Frame.mem_calls_of_starting starting)) grown

theorem fresh_move :
    ∀ other call, (update s.threads thread after other).starting = some call →
      call ∉ (s.apply effect).arrivals := by
  intro other call starting
  rw [s.apply_arrivals]
  rw [update_apply] at starting
  split_ifs at starting with mover
  · rcases flow.arrives with ⟨none, same | ended | new⟩ | ⟨starter, -, ended, -⟩
    · rw [none, append_nil]
      exact tracked.fresh thread call (same ▸ starting)
    · rw [ended] at starting
      cases starting
    · rw [none, append_nil]
      intro arrived
      have known := tracked.arrived call arrived
      rw [new] at starting
      have same := Option.some.inj starting
      omega
    · rw [ended] at starting
      cases starting
  · have absent := tracked.fresh other call starting
    rcases flow.arrives with ⟨none, -⟩ | ⟨starter, started, -, rfl⟩
    · rw [none, append_nil]
      exact absent
    · intro arrived
      rcases mem_append.mp arrived with before | new
      · exact absent before
      · rw [mem_singleton.mp new] at starting
        have same := tracked.owned.unshared starter (.thread other) (.thread thread)
          (Frame.mem_calls_of_starting starting) (Frame.mem_calls_of_starting started)
        exact mover (Owner.thread.inj same)

end

theorem served_front (tracked : Tracked s) {holder : Nat}
    (flow : Flow s (s.threads thread) (.serve call rest holder) after) :
    s.waiters = call :: rest := by
  generalize s.threads thread = frame at flow
  cases flow with
  | serveAsync _ _ _ _ first | serveSync _ _ _ _ first => exact tracked.first_waiter first

theorem served_gone (tracked : Tracked s) (front : s.waiters = call :: rest) : call ∉ rest := by
  have once := tracked.order.nodup
  rw [front] at once
  exact (nodup_cons.mp once).1

/-- The timer callback has the call whose waiter it claims. -/
theorem expired_at (flow : Flow s (s.threads thread) (.expire call) after) :
    s.threads thread = .timeout call := by
  generalize s.threads thread = frame at flow
  cases flow with
  | expire => rfl

theorem enqueued_at (flow : Flow s (s.threads thread) (.enqueue call) after) :
    (s.threads thread).starting = some call := by
  generalize s.threads thread = frame at flow
  cases flow with
  | queueSync _ _ joins | queueAsync _ _ joins => exact joins.calls.2

/-- Nothing has happened to the waiter of a call that joins the queue. -/
theorem enqueued_unmarked (tracked : Tracked s)
    (flow : Flow s (s.threads thread) (.enqueue call) after) :
    (s.calls call).claimed = false ∧ (s.calls call).ready = false := by
  have absent := tracked.fresh thread call (enqueued_at flow)
  constructor
  · by_contra claimed
    exact absent (tracked.marked call (.inl (Bool.not_eq_false _ ▸ claimed)))
  · by_contra ready
    exact absent (tracked.marked call (.inr (.inl (Bool.not_eq_false _ ▸ ready))))

theorem timed_arrived (tracked : Tracked s)
    (timer : (s.calls call).timerArmed = true ∨ ∃ thread, s.threads thread = .timeout call) :
    call ∈ s.arrivals := by
  rcases (tracked.timed call timer).2 with claimed | queued
  · exact tracked.marked call (.inl claimed)
  · exact tracked.mem_arrivals queued

section

variable (tracked : Tracked s) (flow : Flow s (s.threads thread) effect after)

include tracked flow

theorem marked_move :
    ∀ call, ((s.apply effect).calls call).claimed = true ∨
      ((s.apply effect).calls call).ready = true ∨
      ((s.apply effect).calls call).timerArmed = true → call ∈ (s.apply effect).arrivals := by
  intro call marks
  have kept : call ∈ s.arrivals → call ∈ (s.apply effect).arrivals := by
    intro arrived
    rw [s.apply_arrivals]
    exact mem_append_left _ arrived
  have served : ∀ rest holder, effect = .serve call rest holder → call ∈ s.arrivals := by
    rintro rest holder rfl
    have front := tracked.served_front flow
    exact tracked.mem_arrivals (by rw [front]; exact mem_cons_self)
  rcases marks with claimed | ready | armed
  · rcases apply_claimed claimed with before | ⟨rest, holder, serve⟩ | rfl | ⟨-, member⟩
    · exact kept (tracked.marked call (.inl before))
    · exact kept (served rest holder serve)
    · exact kept (tracked.timed_arrived (.inr ⟨thread, expired_at flow⟩))
    · exact kept (tracked.mem_arrivals (tracked.mem_unclaimed.mp member).1)
  · rcases apply_ready ready with before | ⟨rest, holder, serve⟩
    · exact kept (tracked.marked call (.inr (.inl before)))
    · exact kept (served rest holder serve)
  · rcases apply_timerArmed armed with before | ⟨rfl, -⟩
    · exact kept (tracked.marked call (.inr (.inr before)))
    · rw [s.apply_arrivals]
      exact mem_append_right _ (mem_singleton_self call)

theorem unclaimed_move :
    ∀ call ∈ (s.apply effect).waiters, ((s.apply effect).calls call).claimed = false := by
  intro call queued
  by_contra claimed
  rcases apply_claimed (Bool.not_eq_false _ ▸ claimed) with
    before | ⟨rest, holder, rfl⟩ | rfl | ⟨rfl, -⟩
  · rcases flow.mem_waiters queued with waiting | rfl
    · rw [tracked.unclaimed call waiting] at before
      cases before
    · rw [(tracked.enqueued_unmarked flow).1] at before
      cases before
  · exact tracked.served_gone (tracked.served_front flow) queued
  · exact (tracked.order.nodup.mem_erase_iff.mp queued).1 rfl
  · cases queued

theorem parked_move :
    ∀ call ∈ (s.apply effect).waiters, ((s.apply effect).calls call).mode.isAsync = false →
      ((s.apply effect).calls call).ready = false ∧
        ∃ other, update s.threads thread after other = .waiting call := by
  intro call queued sync
  rcases flow.mem_waiters queued with waiting | rfl
  · rw [apply_mode (tracked.waiter_known waiting)] at sync
    obtain ⟨unready, other, at_⟩ := tracked.parked call waiting sync
    constructor
    · by_contra ready
      rcases apply_ready (Bool.not_eq_false _ ▸ ready) with before | ⟨rest, holder, rfl⟩
      · rw [unready] at before
        cases before
      · exact tracked.served_gone (tracked.served_front flow) queued
    · by_cases mover : other = thread
      · -- The waiting thread itself moves only when it is ready or leaves the queue.
        subst mover
        rw [at_] at flow
        cases flow with
        | resume _ _ ready =>
          rw [unready] at ready
          cases ready
        | withdraw => exact absurd rfl (tracked.order.nodup.mem_erase_iff.mp queued).1
        | refuseSync _ _ entering | refuseAsync _ _ entering =>
          rcases entering with h | h <;> cases h
        | exhausted _ _ joins | queueSync _ _ joins | queueAsync _ _ joins =>
          rcases joins with ⟨h, -⟩ | ⟨h, -⟩ <;> cases h
      · exact ⟨other, by rw [update_of_ne mover]; exact at_⟩
  · have known := tracked.call_known (Frame.mem_calls_of_starting (enqueued_at flow))
    rw [apply_mode known] at sync
    constructor
    · by_contra ready
      rcases apply_ready (Bool.not_eq_false _ ▸ ready) with before | ⟨rest, holder, wrong⟩
      · rw [(tracked.enqueued_unmarked flow).2] at before
        cases before
      · cases wrong
    · refine ⟨thread, ?_⟩
      rw [update_self]
      generalize s.threads thread = frame at flow
      cases flow with
      | queueSync => rfl
      | queueAsync _ _ _ async =>
        rw [sync] at async
        cases async

theorem queued_move (queued : s.owns .queue call) :
    ((s.apply effect).calls call).claimed = true ∨ call ∈ (s.apply effect).waiters := by
  obtain ⟨waiting, async⟩ := queued
  have held : ∀ other ∈ (s.threads thread).calls, call ≠ other := by
    rintro other held rfl
    exact tracked.not_queued held ⟨waiting, async⟩
  generalize s.threads thread = frame at flow held
  cases flow with
  | queueSync | queueAsync => exact .inr (mem_append_left _ waiting)
  | withdraw target =>
    have apart := held target (mem_singleton_self target)
    exact .inr (tracked.order.nodup.mem_erase_iff.mpr ⟨apart, waiting⟩)
  | park _ _ nobody =>
    rw [tracked.no_waiter nobody] at waiting
    cases waiting
  | serveAsync holder target rest _ first mode =>
    by_cases same : call = target
    · subst same
      exact .inl (by simp [apply, setCall, log, mode])
    · rw [tracked.first_waiter first] at waiting
      exact .inr ((mem_cons.mp waiting).resolve_left same)
  | serveSync holder target rest _ first sync =>
    rw [tracked.first_waiter first] at waiting
    refine .inr ((mem_cons.mp waiting).resolve_left ?_)
    rintro rfl
    rw [sync] at async
    cases async
  | expire target =>
    by_cases same : call = target
    · subst same
      exact .inl (by simp [apply, setCall])
    · exact .inr (tracked.order.nodup.mem_erase_iff.mpr ⟨same, waiting⟩)
  | drain =>
    have member := tracked.mem_unclaimed.mpr ⟨waiting, async⟩
    exact .inl (by simp [apply, member])
  | _ => exact .inr waiting

theorem timed_move :
    ∀ call, ((s.apply effect).calls call).timerArmed = true ∨
        (∃ other, update s.threads thread after other = .timeout call) →
      ((s.apply effect).calls call).mode.isAsync = true ∧
        (((s.apply effect).calls call).claimed = true ∨ call ∈ (s.apply effect).waiters) := by
  intro call timer
  have kept : ((s.calls call).timerArmed = true ∨ ∃ other, s.threads other = .timeout call) →
      ((s.apply effect).calls call).mode.isAsync = true ∧
        (((s.apply effect).calls call).claimed = true ∨ call ∈ (s.apply effect).waiters) := by
    intro before
    have known := tracked.arrived call (tracked.timed_arrived before)
    obtain ⟨async, place⟩ := tracked.timed call before
    refine ⟨by rw [apply_mode known]; exact async, ?_⟩
    rcases place with claimed | queued
    · exact .inl (claimed_apply known claimed)
    · exact tracked.queued_move flow ⟨queued, async⟩
  rcases timer with armed | ⟨other, at_⟩
  · rcases apply_timerArmed armed with before | ⟨rfl, async⟩
    · exact kept (.inl before)
    · have known := tracked.call_known (Frame.mem_calls_of_starting (enqueued_at flow))
      refine ⟨by rw [apply_mode known]; exact async, .inr ?_⟩
      exact mem_append_right _ (mem_singleton_self call)
  · rcases update_apply_eq.mp at_ with ⟨rfl, rfl⟩ | ⟨-, at_⟩
    · generalize s.threads other = frame at flow
      cases flow with
      | timer _ armed => exact kept (.inl armed)
    · exact kept (.inr ⟨other, at_⟩)

theorem move :
    Tracked (s.perform thread (effect, after)) where
  owned := tracked.owned_move flow
  once := tracked.once_move flow
  listed other := by
    change (update s.threads thread after other).calls.Nodup
    rw [update_apply]
    split_ifs
    · exact tracked.listed_move flow
    · exact tracked.listed other
  order := tracked.order_move flow
  arrived := tracked.arrived_move flow
  fresh := tracked.fresh_move flow
  marked := tracked.marked_move flow
  unclaimed := tracked.unclaimed_move flow
  parked := tracked.parked_move flow
  timed := tracked.timed_move flow

end

end Tracked

theorem reachable_tracked {config : PoolConfig}
    {condition : State → Frame → Effect → Frame → Prop} {s : State}
    (reached : (system config).ReachableBy (within condition) s) : Tracked s := by
  refine invariant_of_moves Tracked reached ?_ (fun _ _ _ _ _ tracked _ flow _ =>
    tracked.move flow)
  intro created threadCount _
  have unborn : ∀ owner call, (stocked config created threadCount).owns owner call →
      owner = .unborn := by
    intro owner call held
    cases owner with
    | unborn => rfl
    | queue => cases held.1
    | _ => cases held
  refine ⟨⟨fun _ _ _ => trivial, fun call _ => ⟨.unborn, Nat.zero_le call⟩, ?_⟩, nodup_nil,
    fun _ => nodup_nil, ServiceOrder.InOrder.empty, nofun, nofun, ?_, nofun, nofun, ?_⟩
  · intro call left right first second
    rw [unborn left call first, unborn right call second]
  · rintro call (h | h | h) <;> cases h
  · rintro call (h | ⟨thread, h⟩) <;> cases h

end Menagerie.Elephant.Pool
