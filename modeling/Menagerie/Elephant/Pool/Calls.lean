import Menagerie.Library.Placement
import Menagerie.Library.ServiceOrder
import Menagerie.Elephant.Pool.Program

/-!
# Who completes a call

Until it is completed an acquire call belongs to one thread, or, once queued by an async caller, to
the queue. The releaser, the timer callback and `shutdown` take it from the queue in the region in
which they claim it, so that one of them completes it.
-/

namespace Menagerie.Elephant.Pool

open State List Function

/-- The calls that a thread has to complete. -/
def Frame.calls : Frame → List Nat
  | .enter call | .locked call | .create call | .relock call _ | .waiting call | .post call _ =>
    [call]
  | .abort calls => calls
  | .ready | .returnHolder _ | .dropDead _ | .timeout _ | .shutdown | .drain => []

/-- The call of a thread that may still join the queue. -/
def Frame.starting : Frame → Option Nat
  | .enter call | .locked call | .create call | .relock call _ => some call
  | .ready | .waiting _ | .post _ _ | .returnHolder _ | .dropDead _ | .timeout _ | .shutdown
  | .drain | .abort _ => none

/-- The call that an event appends to the queue. -/
def Event.arrival : Event → Option Nat
  | .enqueued call => some call
  | .served _ _ | .obtained _ _ _ | .completed _ _ => none

def Event.service : Event → Option Nat
  | .served call _ => some call
  | .enqueued _ | .obtained _ _ _ | .completed _ _ => none

def Event.completion : Event → Option Nat
  | .completed call _ => some call
  | .enqueued _ | .served _ _ | .obtained _ _ _ => none

namespace State

/-- The calls that joined the queue, oldest first. -/
def arrivals (s : State) : List Nat := s.history.filterMap Event.arrival

/-- The calls that `return_holder` served, oldest first. -/
def services (s : State) : List Nat := s.history.filterMap Event.service

/-- The completed calls, oldest first. -/
def completions (s : State) : List Nat := s.history.filterMap Event.completion

end State

/-- What an effect adds to the history. -/
def Effect.events (s : State) : Effect → List Event
  | .answer call | .withdraw call => [.completed call .empty]
  | .lend call holder | .adoptLend call holder =>
    [.obtained s.drained call holder, .completed call (.holder holder)]
  | .take call holder | .adopt call holder => [.obtained s.drained call holder]
  | .enqueue call => [.enqueued call]
  | .resume call holder => [.completed call (.holder holder)]
  | .post call outcome => [.completed call outcome]
  | .serve call _ holder => [.served call holder, .obtained s.drained call holder]
  | .skip | .enter _ | .make | .park _ | .drop _ | .expire _ | .close | .drain | .disarm _
  | .deliver _ | .reclaim _ => []

section Apply

variable (s : State) (effect : Effect)

theorem State.apply_history : (s.apply effect).history = s.history ++ effect.events s := by
  cases effect with
  | lend | adoptLend =>
    simp only [apply, lendTo, log, Effect.events, append_assoc]
    rfl
  | skip | enter | make | park | drop | expire | close | drain | disarm | deliver | reclaim =>
    exact (append_nil _).symm
  | _ => rfl

theorem State.apply_arrivals :
    (s.apply effect).arrivals = s.arrivals ++ (effect.events s).filterMap Event.arrival := by
  rw [arrivals, apply_history, filterMap_append]
  rfl

theorem State.apply_services :
    (s.apply effect).services = s.services ++ (effect.events s).filterMap Event.service := by
  rw [services, apply_history, filterMap_append]
  rfl

theorem State.apply_completions :
    (s.apply effect).completions =
      s.completions ++ (effect.events s).filterMap Event.completion := by
  rw [completions, apply_history, filterMap_append]
  rfl

end Apply

/-- Where a call is. -/
inductive Owner
  | unborn
  | thread (thread : Nat)
  | queue
  | done
  deriving DecidableEq, Repr

/-- The call is there. -/
def State.owns (s : State) : Owner → Nat → Prop
  | .unborn, call => s.callCount ≤ call
  | .thread thread, call => call ∈ (s.threads thread).calls
  | .queue, call => call ∈ s.waiters ∧ (s.calls call).mode.isAsync = true
  | .done, call => call ∈ s.completions

/-- Every call has exactly one owner. -/
def Owned (s : State) : Prop := Placement.Allotted (fun _ => True) s.owns

section Owned

variable {s : State} {thread : Nat} {effect : Effect} {after : Frame} {call : Nat}
  {rest : List Nat}

theorem State.perform_owns_self :
    (s.perform thread (effect, after)).owns (.thread thread) call ↔ call ∈ after.calls := by
  change call ∈ (update s.threads thread after thread).calls ↔ _
  rw [update_self]

theorem State.perform_owns_other {owner : Owner} (apart : owner ≠ .thread thread)
    (count : (s.apply effect).callCount = s.callCount ∨ owner ≠ .unborn)
    (queue : (∀ call, (s.apply effect).owns .queue call ↔ s.owns .queue call) ∨ owner ≠ .queue)
    (done : (s.apply effect).completions = s.completions ∨ owner ≠ .done) :
    (s.perform thread (effect, after)).owns owner call ↔ s.owns owner call := by
  cases owner with
  | unborn =>
    change (s.apply effect).callCount ≤ call ↔ s.callCount ≤ call
    rw [count.resolve_right (not_not.mpr rfl)]
  | thread other =>
    change call ∈ (update s.threads thread after other).calls ↔ _
    rw [update_of_ne (mt (congrArg Owner.thread) apart)]
    rfl
  | queue => exact queue.resolve_right (not_not.mpr rfl) call
  | done =>
    change call ∈ (s.apply effect).completions ↔ call ∈ s.completions
    rw [done.resolve_right (not_not.mpr rfl)]

section

variable (owned : Owned s)

include owned

theorem Owned.keep (same : after.calls = (s.threads thread).calls)
    (queue : ∀ call, (s.apply effect).owns .queue call ↔ s.owns .queue call)
    (count : (s.apply effect).callCount = s.callCount)
    (done : (s.apply effect).completions = s.completions) :
    Owned (s.perform thread (effect, after)) := by
  refine Placement.Allotted.congr owned ?_
  intro owner call
  by_cases mover : owner = .thread thread
  · rw [mover, perform_owns_self, same]
    rfl
  · exact perform_owns_other mover (.inl count) (.inl queue) (.inl done)

theorem Owned.complete (before : (s.threads thread).calls = call :: rest)
    (later : after.calls = rest) (once : call ∉ rest)
    (queue : ∀ call, (s.apply effect).owns .queue call ↔ s.owns .queue call)
    (count : (s.apply effect).callCount = s.callCount)
    (done : (s.apply effect).completions = s.completions ++ [call]) :
    Owned (s.perform thread (effect, after)) := by
  have transfer : Placement.Transfer s.owns (s.perform thread (effect, after)).owns
      (.thread thread) .done (· ∈ ({call} : Finset Nat)) := by
    refine Placement.Transfer.one nofun ?_ ?_ ?_ ?_
    · change call ∈ (s.threads thread).calls
      rw [before]
      exact mem_cons_self
    · intro other
      rw [perform_owns_self, later]
      change other ∈ rest ↔ other ∈ (s.threads thread).calls ∧ other ≠ call
      rw [before, mem_cons]
      constructor
      · intro member
        exact ⟨.inr member, fun same => once (same ▸ member)⟩
      · rintro ⟨same | member, apart⟩
        · exact absurd same apart
        · exact member
    · intro other
      change other ∈ (s.apply effect).completions ↔ other = call ∨ other ∈ s.completions
      rw [done, mem_append, mem_singleton, or_comm]
    · intro owner source target other
      exact perform_owns_other source (.inl count) (.inl queue) (.inr target)
  exact transfer.allotted owned

theorem Owned.claim (before : (s.threads thread).calls = [])
    (present : ∀ call ∈ after.calls, s.owns .queue call)
    (queue : ∀ call, (s.apply effect).owns .queue call ↔ s.owns .queue call ∧ call ∉ after.calls)
    (count : (s.apply effect).callCount = s.callCount)
    (done : (s.apply effect).completions = s.completions) :
    Owned (s.perform thread (effect, after)) := by
  have transfer : Placement.Transfer s.owns (s.perform thread (effect, after)).owns
      .queue (.thread thread) (· ∈ after.calls) := by
    refine ⟨nofun, present, queue, ?_, ?_⟩
    · intro other
      rw [perform_owns_self]
      change _ ↔ other ∈ after.calls ∨ other ∈ (s.threads thread).calls
      rw [before]
      exact (or_iff_left (not_mem_nil)).symm
    · intro owner source target other
      exact perform_owns_other target (.inl count) (.inr source) (.inl done)
  exact transfer.allotted owned

theorem Owned.join (before : (s.threads thread).calls = [call]) (later : after.calls = [])
    (queue : ∀ other, (s.apply effect).owns .queue other ↔ other = call ∨ s.owns .queue other)
    (count : (s.apply effect).callCount = s.callCount)
    (done : (s.apply effect).completions = s.completions) :
    Owned (s.perform thread (effect, after)) := by
  have transfer : Placement.Transfer s.owns (s.perform thread (effect, after)).owns
      (.thread thread) .queue (· ∈ ({call} : Finset Nat)) := by
    refine Placement.Transfer.one nofun ?_ ?_ queue ?_
    · change call ∈ (s.threads thread).calls
      rw [before]
      exact mem_cons_self
    · intro other
      rw [perform_owns_self, later]
      change other ∈ [] ↔ other ∈ (s.threads thread).calls ∧ other ≠ call
      rw [before, mem_singleton]
      simp
    · intro owner source target other
      exact perform_owns_other source (.inl count) (.inr target) (.inl done)
  exact transfer.allotted owned

theorem Owned.start (before : (s.threads thread).calls = []) (later : after.calls = [s.callCount])
    (queue : ∀ call, (s.apply effect).owns .queue call ↔ s.owns .queue call)
    (count : (s.apply effect).callCount = s.callCount + 1)
    (done : (s.apply effect).completions = s.completions) :
    Owned (s.perform thread (effect, after)) := by
  have transfer : Placement.Transfer s.owns (s.perform thread (effect, after)).owns
      .unborn (.thread thread) (· ∈ ({s.callCount} : Finset Nat)) := by
    refine Placement.Transfer.one nofun ?_ ?_ ?_ ?_
    · exact le_refl s.callCount
    · intro other
      change (s.apply effect).callCount ≤ other ↔ s.callCount ≤ other ∧ other ≠ s.callCount
      rw [count]
      omega
    · intro other
      rw [perform_owns_self, later, mem_singleton]
      change _ ↔ other = s.callCount ∨ other ∈ (s.threads thread).calls
      rw [before]
      simp
    · intro owner source target other
      exact perform_owns_other target (.inr source) (.inl queue) (.inl done)
  exact transfer.allotted owned

end

end Owned

theorem Frame.mem_calls_of_starting {frame : Frame} {call : Nat}
    (starting : frame.starting = some call) : call ∈ frame.calls := by
  cases frame with
  | enter | locked | create | relock =>
    rw [← Option.some.inj starting]
    exact mem_singleton_self _
  | _ => cases starting

/-- A call that may join is at the lock or failed to create a connection. -/
theorem Joins.calls {s : State} {call : Nat} {frame : Frame} (joins : Joins s call frame) :
    frame.calls = [call] ∧ frame.starting = some call := by
  rcases joins with ⟨rfl, -⟩ | ⟨rfl, -⟩
  · exact ⟨rfl, rfl⟩
  · exact ⟨rfl, rfl⟩

section Effects

variable {s : State} {frame after : Frame} {effect : Effect} {call : Nat}

theorem State.apply_mode (known : call < s.callCount) :
    ((s.apply effect).calls call).mode = (s.calls call).mode := by
  have marked := s.apply_marked effect call
  generalize (s.apply effect).calls call = waiter at marked
  cases marked with
  | enter mode new => omega
  | _ => rfl

theorem State.apply_claimed (claimed : ((s.apply effect).calls call).claimed = true) :
    (s.calls call).claimed = true ∨ (∃ rest holder, effect = .serve call rest holder) ∨
      effect = .expire call ∨ effect = .drain ∧ call ∈ s.unclaimed := by
  have marked := s.apply_marked effect call
  generalize (s.apply effect).calls call = waiter at marked claimed
  cases marked with
  | enter => cases claimed
  | claim rest holder => exact .inr (.inl ⟨rest, holder, rfl⟩)
  | expire => exact .inr (.inr (.inl rfl))
  | drain member => exact .inr (.inr (.inr ⟨rfl, member⟩))
  | _ => exact .inl claimed

theorem State.apply_ready (ready : ((s.apply effect).calls call).ready = true) :
    (s.calls call).ready = true ∨ ∃ rest holder, effect = .serve call rest holder := by
  have marked := s.apply_marked effect call
  generalize (s.apply effect).calls call = waiter at marked ready
  cases marked with
  | enter | resume => cases ready
  | assign rest holder => exact .inr ⟨rest, holder, rfl⟩
  | _ => exact .inl ready

theorem State.apply_timerArmed (armed : ((s.apply effect).calls call).timerArmed = true) :
    (s.calls call).timerArmed = true ∨
      effect = .enqueue call ∧ (s.calls call).mode.isAsync = true := by
  have marked := s.apply_marked effect call
  generalize (s.apply effect).calls call = waiter at marked armed
  cases marked with
  | enter | disarm => cases armed
  | enqueue => exact .inr ⟨rfl, by rw [beq_iff_eq.mp armed]; rfl⟩
  | _ => exact .inl armed

theorem State.claimed_apply (known : call < s.callCount) (claimed : (s.calls call).claimed = true) :
    ((s.apply effect).calls call).claimed = true := by
  have marked := s.apply_marked effect call
  generalize (s.apply effect).calls call = waiter at marked
  cases marked with
  | enter mode new => omega
  | claim | expire | drain => rfl
  | _ => exact claimed

section

variable (flow : Flow s frame effect after)

include flow

theorem Flow.mem_waiters (queued : call ∈ (s.apply effect).waiters) :
    call ∈ s.waiters ∨ effect = .enqueue call := by
  cases flow with
  | queueSync target | queueAsync target =>
    rcases mem_append.mp queued with before | new
    · exact .inl before
    · rw [mem_singleton.mp new]
      exact .inr rfl
  | withdraw | expire => exact .inl (mem_of_mem_erase queued)
  | park | drain => cases queued
  | serveAsync holder target rest _ first | serveSync holder target rest _ first =>
    obtain ⟨skipped, split, -⟩ := firstWaiter_mem first
    rw [split]
    exact .inl (mem_append_right _ (mem_cons_of_mem _ queued))
  | _ => exact .inl queued

/-- A step completes at most one call, which belongs to the thread. -/
theorem Flow.completes :
    (effect.events s).filterMap Event.completion = [] ∨
      ∃ call ∈ frame.calls, (effect.events s).filterMap Event.completion = [call] := by
  cases flow with
  | refuseSync call _ entering =>
    rcases entering with rfl | rfl
    · exact .inr ⟨call, mem_singleton_self call, rfl⟩
    · exact .inr ⟨call, mem_singleton_self call, rfl⟩
  | exhausted call _ joins =>
    exact .inr ⟨call, by rw [joins.calls.1]; exact mem_singleton_self call, rfl⟩
  | lend call | adoptLend call | resume call | withdraw call | post call =>
    exact .inr ⟨call, mem_singleton_self call, rfl⟩
  | abort call rest => exact .inr ⟨call, mem_cons_self, rfl⟩
  | _ => exact .inl rfl

/-- A step queues at most one call, which the thread has started. -/
theorem Flow.arrives :
    (effect.events s).filterMap Event.arrival = [] ∧ (after.starting = frame.starting ∨
        after.starting = none ∨ after.starting = some s.callCount) ∨
      ∃ call, frame.starting = some call ∧ after.starting = none ∧ effect = .enqueue call := by
  cases flow with
  | acquire => exact .inl ⟨rfl, .inr (.inr rfl)⟩
  | refuseSync | refuseAsync | exhausted => exact .inl ⟨rfl, .inr (.inl rfl)⟩
  | queueSync call _ joins | queueAsync call _ joins =>
    exact .inr ⟨call, joins.calls.2, rfl, rfl⟩
  | enter | create | make | unmade => exact .inl ⟨rfl, .inl rfl⟩
  | _ => exact .inl ⟨rfl, .inr (.inl rfl)⟩

end

end Effects

end Menagerie.Elephant.Pool
