import Menagerie.Library.Census
import Menagerie.Elephant.Pool.Program

/-!
# Capacity and waiting

`created_` is checked before a connection is created without the lock and is increased after the
lock has been taken again, so calls that create at the same time can exceed the capacity. The
results here say which steps have to be avoided for `created_` to stay within the capacity and for
waiters to wait only while every connection is in use.
-/

namespace Menagerie.Elephant.Pool

open State

/-- Between the check of `created_` and the region for the new connection. -/
def Frame.creating : Frame → Bool
  | .create _ | .relock _ _ => true
  | _ => false

/-- The number of calls that are creating a connection. -/
def State.creations (s : State) : Nat := Census.census Frame.creating s.threads s.threadCount

/-- The effects that add a connection to the pool. -/
def Effect.adopts : Effect → Bool
  | .adopt _ _ | .adoptLend _ _ => true
  | _ => false

/-- A call creates a connection only while those that exist or are being created leave room. -/
def Roomy (s : State) (frame : Frame) (_ : Effect) (after : Frame) : Prop :=
  frame.creating = false → after.creating = true → s.created + s.creations < s.capacity

instance (s : State) (frame : Frame) (effect : Effect) (after : Frame) :
    Decidable (Roomy s frame effect after) := by
  unfold Roomy
  infer_instance

/-- A connection is added where its creation ends. -/
theorem Flow.adopts {s : State} {frame after : Frame} {effect : Effect}
    (flow : Flow s frame effect after) (adopts : effect.adopts = true) :
    frame.creating = true ∧ after.creating = false := by
  cases flow with
  | adopt | adoptLend => exact ⟨rfl, rfl⟩
  | _ => cases adopts

section Counts

variable (s : State) (thread : Nat) (effect : Effect) (after : Frame)

@[simp] theorem State.apply_capacity : (s.apply effect).capacity = s.capacity := by
  cases effect <;> rfl

@[simp] theorem State.apply_threadCount : (s.apply effect).threadCount = s.threadCount := by
  cases effect <;> rfl

theorem State.apply_created_le : (s.apply effect).created ≤ s.created + effect.adopts.toNat := by
  cases effect with
  | drop holder => exact Nat.sub_le _ _
  | _ => exact le_rfl

theorem State.perform_creations (known : thread < s.threadCount) :
    (s.perform thread (effect, after)).creations + (s.threads thread).creating.toNat =
      s.creations + after.creating.toNat := by
  have updated := Census.census_update Frame.creating s.threads known after
  rw [creations, creations]
  change Census.census Frame.creating (Function.update s.threads thread after)
    (s.apply effect).threadCount + _ = _
  rw [apply_threadCount]
  exact updated

end Counts

/-- The connections and those being created fit the capacity. -/
def Fits (s : State) : Prop := s.created + s.creations ≤ s.capacity

theorem Fits.move {s : State} {thread : Nat} {effect : Effect} {after : Frame} (fits : Fits s)
    (known : thread < s.threadCount) (flow : Flow s (s.threads thread) effect after)
    (roomy : Roomy s (s.threads thread) effect after) :
    Fits (s.perform thread (effect, after)) := by
  have counted := s.perform_creations thread effect after known
  have created : (s.perform thread (effect, after)).created ≤ s.created + effect.adopts.toNat :=
    s.apply_created_le effect
  have capacity : (s.perform thread (effect, after)).capacity = s.capacity :=
    s.apply_capacity effect
  rw [Fits, capacity]
  rw [Fits] at fits
  cases adopts : effect.adopts with
  | true =>
    obtain ⟨before, later⟩ := flow.adopts adopts
    rw [adopts, Bool.toNat_true] at created
    rw [before, later, Bool.toNat_true, Bool.toNat_false] at counted
    omega
  | false =>
    rw [adopts, Bool.toNat_false] at created
    cases before : (s.threads thread).creating with
    | true =>
      have most := Bool.toNat_le after.creating
      rw [before, Bool.toNat_true] at counted
      omega
    | false =>
      rw [before, Bool.toNat_false] at counted
      cases later : after.creating with
      | true =>
        have room := roomy before later
        rw [later, Bool.toNat_true] at counted
        omega
      | false =>
        rw [later, Bool.toNat_false] at counted
        omega

section

variable {config : PoolConfig} {condition : State → Frame → Effect → Frame → Prop} {s : State}

theorem reachable_capacity (reached : (system config).ReachableBy (within condition) s) :
    s.capacity = config.capacity := by
  refine invariant_of_moves (fun s => s.capacity = config.capacity) reached
    (fun _ _ _ => rfl) ?_
  intro s thread effect after _ same _ _ _
  exact (s.apply_capacity effect).trans same

/-- With room for every creation the pool fits its capacity. -/
theorem reachable_fits
    (roomy : ∀ s frame effect after, condition s frame effect after → Roomy s frame effect after)
    (reached : (system config).ReachableBy (within condition) s) : Fits s := by
  refine invariant_of_moves Fits reached ?_ ?_
  · intro created threadCount few
    have bounded := config.bounded
    have idle : (stocked config created threadCount).creations = 0 := by
      rw [creations, Census.census, List.countP_eq_zero]
      intro thread _
      exact Bool.false_ne_true
    rw [Fits, idle]
    change created + 0 ≤ config.capacity
    omega
  · intro s thread effect after _ fits known flow met
    exact fits.move known flow (roomy s _ effect after met)

end

/-- In every run in which a call creates a connection only while those that exist or are being
created leave room, `created_` stays within the capacity. -/
theorem created_le_capacity {config : PoolConfig} {s : State}
    (reached : (system config).ReachableBy (within Roomy) s) : s.created ≤ config.capacity := by
  have fits := reachable_fits (fun _ _ _ _ roomy => roomy) reached
  have capacity := reachable_capacity reached
  rw [Fits, capacity] at fits
  omega

/-- A pool of one connection that is created on demand. -/
def single : PoolConfig := ⟨1, 0, by decide, by decide⟩

/-- One call creates the connection, the next one waits for it. -/
theorem created_le_capacity_single : ∃ s, (system single).ReachableBy (within Roomy) s ∧
    s.created = 1 ∧ s.waiters = [1] ∧ s.created ≤ single.capacity := by
  refine (system single).exists_reachableBy (within Roomy) ⟨[], 2, rfl, rfl⟩
    (turns 0 (.acquire .tryAcquire) 4 ++ turns 1 (.acquire .acquire) 2) ⟨_, rfl, fun reached => ?_⟩
  exact ⟨rfl, rfl, created_le_capacity reached⟩

/-- Two calls that check `created_` before either has increased it create two connections in a pool
of one. -/
theorem created_exceeds_capacity : ∃ s, (system single).Reachable s ∧
    s.shutdown = false ∧ s.created = 2 ∧ single.capacity = 1 := by
  exact (system single).exists_reachable ⟨[], 2, rfl, rfl⟩
    (turns 0 (.acquire .tryAcquire) 2 ++ turns 1 (.acquire .tryAcquire) 2 ++
      [.step 0 {}, .step 0 {}, .step 1 {}, .step 1 {}]) ⟨_, rfl, fun _ => ⟨rfl, rfl, rfl⟩⟩

/-- The effects that join the queue. -/
def Effect.enqueues : Effect → Bool
  | .enqueue _ => true
  | _ => false

def Effect.drops : Effect → Bool
  | .drop _ => true
  | _ => false

/-- Connections are created with room, a dead one is dropped only while nobody waits, and a call
that failed to create one joins the queue only while all exist and are in use. -/
def Steady (s : State) (frame : Frame) (effect : Effect) (after : Frame) : Prop :=
  Roomy s frame effect after ∧ (effect.drops = true → s.waiters = []) ∧
    (frame.creating = true → effect.enqueues = true → s.free = [] ∧ s.created = s.capacity)

instance (s : State) (frame : Frame) (effect : Effect) (after : Frame) :
    Decidable (Steady s frame effect after) := by
  unfold Steady
  infer_instance

/-- Whoever waits finds all connections created and none free. -/
def Waited (s : State) : Prop :=
  s.shutdown = false → s.waiters ≠ [] → s.free = [] ∧ s.created = s.capacity

theorem Waited.move {s : State} {thread : Nat} {effect : Effect} {after : Frame}
    (waited : Waited s) (fits : Fits s) (known : thread < s.threadCount)
    (flow : Flow s (s.threads thread) effect after)
    (steady : Steady s (s.threads thread) effect after) :
    Waited (s.perform thread (effect, after)) := by
  obtain ⟨-, undropped, unqueued⟩ := steady
  rw [Fits] at fits
  -- A call in the middle of a creation leaves room, so nobody waits.
  have alone : (s.threads thread).creating = true → s.shutdown = false → s.waiters = [] := by
    intro creating running
    by_contra waiting
    have full := (waited running waiting).2
    have busy : 0 < s.creations := Census.census_pos known creating
    omega
  have erased : ∀ call, s.waiters.erase call ≠ [] → s.waiters ≠ [] := by
    intro call left none
    rw [none] at left
    exact left rfl
  have joins : ∀ call, Joins s call (s.threads thread) → effect.enqueues = true →
      s.free = [] ∧ s.created = s.capacity := by
    rintro call (⟨-, -, free, full⟩ | ⟨relock, -⟩) enqueues
    · exact ⟨free, by omega⟩
    · exact unqueued (by rw [relock]; rfl) enqueues
  intro running waiting
  generalize at_ : s.threads thread = frame at flow alone joins
  cases flow with
  | take call holder rest _ free | lend call holder rest _ free =>
    have none := (waited running waiting).1
    rw [free] at none
    cases none
  | adopt | adoptLend => exact absurd (alone rfl running) waiting
  | queueSync call _ entering | queueAsync call _ entering => exact joins call entering rfl
  | withdraw call | expire call => exact waited running (erased call waiting)
  | park | drain => exact absurd rfl waiting
  | serveAsync holder call rest _ first | serveSync holder call rest _ first =>
    obtain ⟨skipped, split, -⟩ := firstWaiter_mem first
    exact waited running (by rw [split]; simp)
  | drop => exact absurd (undropped rfl) waiting
  | close => cases running
  | _ => exact waited running waiting

/-- In every steady run a non-empty queue of a running pool means that nothing is free and all
connections have been created. -/
theorem waiters_wait_for_used_connections {config : PoolConfig} {s : State}
    (reached : (system config).ReachableBy (within Steady) s) (running : s.shutdown = false)
    (waiting : s.waiters ≠ []) : s.free = [] ∧ s.created = config.capacity := by
  have waited : Waited s := by
    refine invariant_of_moves Waited reached (fun _ _ _ _ none => absurd rfl none) ?_
    intro s thread effect after before waited known flow steady
    have fits := reachable_fits (fun _ _ _ _ steady => steady.1) before
    exact waited.move fits known flow steady
  rw [← reachable_capacity reached]
  exact waited running waiting

/-- A second call waits for the only connection. -/
theorem waiters_wait_for_used_connection_single : ∃ s,
    (system single).ReachableBy (within Steady) s ∧ s.shutdown = false ∧ s.waiters = [1] ∧
    s.free = [] ∧ s.created = single.capacity := by
  refine (system single).exists_reachableBy (within Steady) ⟨[], 2, rfl, rfl⟩
    (turns 0 (.acquire .tryAcquire) 4 ++ turns 1 (.acquire .acquire) 2) ⟨_, rfl, fun reached => ?_⟩
  exact ⟨rfl, rfl, waiters_wait_for_used_connections reached rfl (List.cons_ne_nil 1 [])⟩

/-- The only connection is dropped while a call waits: no thread is inside the pool, nothing is
free, no connection exists, and the queue is not empty. -/
theorem waiter_stranded : ∃ s, (system single).Reachable s ∧ s.shutdown = false ∧
    (∀ thread, s.threads thread = .ready ∨ ∃ call, s.threads thread = .waiting call) ∧
    s.waiters = [1] ∧ s.created = 0 ∧ single.capacity = 1 := by
  refine (system single).exists_reachable ⟨[], 2, rfl, rfl⟩
    (turns 0 (.acquire .tryAcquire) 4 ++ turns 1 (.acquire .acquire) 2 ++
      turns 0 (.reset 0 false) 1) ⟨_, rfl, fun _ => ?_⟩
  refine ⟨rfl, ?_, rfl, rfl, rfl⟩
  rintro (_ | _ | thread)
  · exact .inl rfl
  · exact .inr ⟨1, rfl⟩
  · exact .inl rfl

end Menagerie.Elephant.Pool
