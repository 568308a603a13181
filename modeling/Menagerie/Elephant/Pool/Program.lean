import Menagerie.Elephant.Pool.Basic

/-!
# Steps of the connection pool

One step is one region under `mtx_`, one atomic operation outside it, one attempt to create a
connection or one post of a completion. `Effect` lists what a step does to the pool and `next`
which step a program point leads to.
-/

namespace Menagerie.Elephant.Pool

open Function State List Option

/-- What one step does to the pool. -/
inductive Effect
  | skip
  | enter (mode : Mode)
  | answer (call : Nat)
  | lend (call holder : Nat)
  | take (call holder : Nat)
  | make
  | adopt (call holder : Nat)
  | adoptLend (call holder : Nat)
  | enqueue (call : Nat)
  | resume (call holder : Nat)
  | withdraw (call : Nat)
  | post (call : Nat) (outcome : Outcome)
  | park (holder : Nat)
  | serve (call : Nat) (rest : List Nat) (holder : Nat)
  | drop (holder : Nat)
  | expire (call : Nat)
  | close
  | drain
  | disarm (call : Nat)
  | deliver (call : Nat)
  | reclaim (call : Nat)
  deriving DecidableEq, Repr

/-- The effect that begins an acquire call. -/
def Effect.isEnter : Effect → Bool
  | .enter _ => true
  | _ => false

namespace State

/-- Append to the history. -/
def log (s : State) (events : List Event) : State := { s with history := s.history ++ events }

def setCall (s : State) (call : Nat) (change : Call → Call) : State :=
  { s with calls := Function.update s.calls call (change (s.calls call)) }

def lendTo (s : State) (call holder : Nat) : State :=
  { s with borrows := Function.update s.borrows call (some holder) }.log
    [.completed call (.holder holder)]

/-- The waiters that the region of `shutdown` claims. -/
def unclaimed (s : State) : List Nat :=
  s.waiters.filter (fun call => (s.calls call).mode.isAsync && !(s.calls call).claimed)

/-- Execute one effect. -/
def apply (s : State) : Effect → State
  | .skip => s
  | .enter mode =>
    { s with
      calls := Function.update s.calls s.callCount { mode }
      callCount := s.callCount + 1 }
  | .answer call => s.log [.completed call .empty]
  | .lend call holder =>
    ({ s with free := s.free.tail }.log [.obtained s.drained call holder]).lendTo call holder
  | .take call holder => { s with free := s.free.tail }.log [.obtained s.drained call holder]
  | .make => { s with holderCount := s.holderCount + 1 }
  | .adopt call holder =>
    { s with created := s.created + 1, holders := s.holders ++ [holder] }.log
      [.obtained s.drained call holder]
  | .adoptLend call holder =>
    ({ s with created := s.created + 1, holders := s.holders ++ [holder] }.log
      [.obtained s.drained call holder]).lendTo call holder
  | .enqueue call =>
    ({ s with waiters := s.waiters ++ [call] }.setCall call (fun waiter =>
      { waiter with timerArmed := waiter.mode == Mode.async true })).log [.enqueued call]
  | .resume call holder =>
    (s.setCall call (fun waiter => { waiter with assigned := none, ready := false })).lendTo call
      holder
  | .withdraw call =>
    { s with waiters := s.waiters.erase call }.log [.completed call .empty]
  | .post call outcome =>
    { s with executor := Function.update s.executor call (some outcome) }.log
      [.completed call outcome]
  | .park holder => { s with waiters := [], free := s.free ++ [holder] }
  | .serve call rest holder =>
    ({ s with waiters := rest }.setCall call (fun waiter =>
      if waiter.mode.isAsync then { waiter with claimed := true }
      else { waiter with assigned := some holder, ready := true })).log
        [.served call holder, .obtained s.drained call holder]
  | .drop holder => { s with holders := s.holders.erase holder, created := s.created - 1 }
  | .expire call =>
    { s with waiters := s.waiters.erase call }.setCall call (fun waiter =>
      { waiter with claimed := true })
  | .close => { s with shutdown := true }
  | .drain =>
    { s with
      calls := fun call =>
        if call ∈ s.unclaimed then { s.calls call with claimed := true } else s.calls call
      waiters := []
      free := []
      holders := []
      drained := true }
  | .disarm call => s.setCall call (fun waiter => { waiter with timerArmed := false })
  | .deliver call =>
    { s with
      executor := Function.update s.executor call none
      borrows := match s.executor call with
        | some (.holder holder) => Function.update s.borrows call (some holder)
        | _ => s.borrows }
  | .reclaim call => { s with borrows := Function.update s.borrows call none }

/-- The loop of `return_holder`, which skips claimed waiters. -/
def firstWaiter (s : State) : List Nat → Option (Nat × List Nat)
  | [] => none
  | call :: rest =>
    if (s.calls call).mode.isAsync && (s.calls call).claimed then s.firstWaiter rest
    else some (call, rest)

end State

/-- `return_holder` serves the first waiter that no timer has claimed. -/
theorem State.firstWaiter_mem {s : State} {waiters rest : List Nat} {call : Nat}
    (first : s.firstWaiter waiters = some (call, rest)) :
    ∃ skipped, waiters = skipped ++ call :: rest ∧
      ∀ other ∈ skipped, (s.calls other).mode.isAsync = true ∧ (s.calls other).claimed = true := by
  induction waiters with
  | nil => cases first
  | cons head tail ih =>
    rw [firstWaiter] at first
    split_ifs at first with claimed
    · obtain ⟨skipped, split, all⟩ := ih first
      rw [Bool.and_eq_true] at claimed
      refine ⟨head :: skipped, by rw [split, cons_append], ?_⟩
      intro other member
      rcases mem_cons.mp member with rfl | later
      · exact claimed
      · exact all other later
    · cases first
      exact ⟨[], rfl, nofun⟩

/-- How an effect changes a call. -/
inductive Marked (s : State) (call : Nat) : Effect → Call → Prop
  | same (effect : Effect) (old : effect.isEnter = false ∨ call ≠ s.callCount) :
      Marked s call effect (s.calls call)
  | enter (mode : Mode) (new : call = s.callCount) : Marked s call (.enter mode) { mode }
  | enqueue : Marked s call (.enqueue call)
      { s.calls call with timerArmed := (s.calls call).mode == Mode.async true }
  | resume (holder : Nat) :
      Marked s call (.resume call holder) { s.calls call with assigned := none, ready := false }
  | claim (rest : List Nat) (holder : Nat) (async : (s.calls call).mode.isAsync = true) :
      Marked s call (.serve call rest holder) { s.calls call with claimed := true }
  | assign (rest : List Nat) (holder : Nat) (sync : (s.calls call).mode.isAsync = false) :
      Marked s call (.serve call rest holder)
        { s.calls call with assigned := some holder, ready := true }
  | expire : Marked s call (.expire call) { s.calls call with claimed := true }
  | drain (member : call ∈ s.unclaimed) : Marked s call .drain { s.calls call with claimed := true }
  | disarm : Marked s call (.disarm call) { s.calls call with timerArmed := false }

theorem State.apply_marked (s : State) (effect : Effect) (call : Nat) :
    Marked s call effect ((s.apply effect).calls call) := by
  -- An effect on one call leaves the others.
  have one : ∀ changed waiter, Marked s changed effect waiter → effect.isEnter = false →
      Marked s call effect (update s.calls changed waiter call) := by
    intro changed waiter marked other
    by_cases same : call = changed
    · subst same
      rw [update_self]
      exact marked
    · rw [update_of_ne same]
      exact .same effect (.inl other)
  cases effect with
  | enter mode =>
    by_cases new : call = s.callCount
    · simp only [apply, new, update_self]
      exact .enter mode rfl
    · simp only [apply, update_of_ne new]
      exact .same _ (.inr new)
  | enqueue changed => exact one changed _ .enqueue rfl
  | resume changed holder => exact one changed _ (.resume holder) rfl
  | serve changed rest holder =>
    refine one changed (if (s.calls changed).mode.isAsync then _ else _) ?_ rfl
    split_ifs with mode
    · exact .claim rest holder mode
    · exact .assign rest holder (Bool.eq_false_iff.mpr mode)
  | expire changed => exact one changed _ .expire rfl
  | drain =>
    simp only [apply]
    split_ifs with member
    · exact .drain member
    · exact .same _ (.inl rfl)
  | disarm changed => exact one changed _ .disarm rfl
  | _ => exact .same _ (.inl rfl)

/-- What the environment decides for one step. -/
structure Choice where
  succeeds : Bool := true
  expires : Bool := false
  deriving DecidableEq, Repr

/-- A sync call returns `{}`, an async one posts the error. -/
def refuse (s : State) (call : Nat) (error : Outcome) : Effect × Frame :=
  if (s.calls call).mode.isAsync then (.skip, .post call error) else (.answer call, .ready)

/-- The slow path of an acquire call: it queues, except for `try_acquire`. -/
def queue (s : State) (call : Nat) : Effect × Frame :=
  match (s.calls call).mode with
  | .tryAcquire => (.answer call, .ready)
  | .acquireFor | .acquire => (.enqueue call, .waiting call)
  | .async _ => (.enqueue call, .ready)

/-- The effect of a thread's next region, and the program point after it. -/
def next (s : State) (choice : Choice) : Frame → Option (Effect × Frame)
  | .ready => none
  | .enter call =>
    if s.shutdown then some (refuse s call .aborted) else some (.skip, .locked call)
  | .locked call =>
    if s.shutdown then some (refuse s call .aborted)
    else match s.free with
      | holder :: _ =>
        if (s.calls call).mode.isAsync then some (.take call holder, .post call (.holder holder))
        else some (.lend call holder, .ready)
      | [] =>
        if s.created < s.capacity then some (.skip, .create call) else some (queue s call)
  | .create call =>
    if choice.succeeds then some (.make, .relock call (some s.holderCount))
    else some (.skip, .relock call none)
  | .relock call holder =>
    -- Only the async variant looks at `shutdown_` again.
    if (s.calls call).mode.isAsync && s.shutdown then some (.skip, .post call .aborted)
    else match holder with
      | some holder =>
        if (s.calls call).mode.isAsync then some (.adopt call holder, .post call (.holder holder))
        else some (.adoptLend call holder, .ready)
      | none => some (queue s call)
  | .waiting call =>
    match (s.calls call).ready, (s.calls call).assigned with
    | true, some holder => some (.resume call holder, .ready)
    | true, none => none
    | false, _ =>
      if s.shutdown || choice.expires && (s.calls call).mode = .acquireFor then
        some (.withdraw call, .ready)
      else none
  | .post call outcome => some (.post call outcome, .ready)
  | .returnHolder holder =>
    if s.shutdown then some (.skip, .ready)
    else match s.firstWaiter s.waiters with
      | none => some (.park holder, .ready)
      | some (call, rest) =>
        if (s.calls call).mode.isAsync then
          some (.serve call rest holder, .post call (.holder holder))
        else some (.serve call rest holder, .ready)
  | .dropDead holder =>
    if s.shutdown then some (.skip, .ready)
    else if holder ∈ s.holders then some (.drop holder, .ready) else some (.skip, .ready)
  | .timeout call =>
    if (s.calls call).claimed then some (.skip, .ready)
    else some (.expire call, .post call .timedOut)
  | .shutdown => if s.shutdown then some (.skip, .ready) else some (.close, .drain)
  | .drain => some (.drain, .abort s.unclaimed)
  | .abort [] => some (.skip, .ready)
  | .abort (call :: rest) => some (.post call .aborted, .abort rest)

/-- What a thread outside the pool can start. -/
inductive Operation
  | acquire (mode : Mode)
  /-- `QueuedHolder::reset()` by a borrower; `clean` if the cleanup succeeded. -/
  | reset (call : Nat) (clean : Bool)
  | timer (call : Nat)
  | deliver (call : Nat)
  | shutdown
  deriving DecidableEq, Repr

def start (s : State) : Operation → Option (Effect × Frame)
  | .acquire mode => some (.enter mode, .enter s.callCount)
  | .reset call clean =>
    match s.borrows call with
    | some holder =>
      if clean then some (.reclaim call, .returnHolder holder)
      else some (.reclaim call, .dropDead holder)
    | none => none
  | .timer call =>
    if (s.calls call).timerArmed then some (.disarm call, .timeout call) else none
  | .deliver call => if (s.executor call).isSome then some (.deliver call, .ready) else none
  | .shutdown => some (.skip, .shutdown)

/-- All connections are in use, or the attempt to create one failed. -/
def Joins (s : State) (call : Nat) (frame : Frame) : Prop :=
  frame = .locked call ∧ s.shutdown = false ∧ s.free = [] ∧ s.capacity ≤ s.created ∨
    frame = .relock call none ∧ ((s.calls call).mode.isAsync = true → s.shutdown = false)

/-- A thread moves from one program point to another. -/
inductive Flow (s : State) : Frame → Effect → Frame → Prop
  | acquire (mode : Mode) : Flow s .ready (.enter mode) (.enter s.callCount)
  | returned (call holder : Nat) (lent : s.borrows call = some holder) :
      Flow s .ready (.reclaim call) (.returnHolder holder)
  | dropped (call holder : Nat) (lent : s.borrows call = some holder) :
      Flow s .ready (.reclaim call) (.dropDead holder)
  | timer (call : Nat) (armed : (s.calls call).timerArmed = true) :
      Flow s .ready (.disarm call) (.timeout call)
  | deliver (call : Nat) (outcome : Outcome) (posted : s.executor call = some outcome) :
      Flow s .ready (.deliver call) .ready
  | shutdown : Flow s .ready .skip .shutdown
  | enter (call : Nat) (running : s.shutdown = false) : Flow s (.enter call) .skip (.locked call)
  | refuseSync (call : Nat) (frame : Frame) (entering : frame = .enter call ∨ frame = .locked call)
      (closed : s.shutdown = true) (sync : (s.calls call).mode.isAsync = false) :
      Flow s frame (.answer call) .ready
  | refuseAsync (call : Nat) (frame : Frame)
      (entering : frame = .enter call ∨ frame = .locked call) (closed : s.shutdown = true)
      (async : (s.calls call).mode.isAsync = true) : Flow s frame .skip (.post call .aborted)
  | take (call holder : Nat) (rest : List Nat) (running : s.shutdown = false)
      (free : s.free = holder :: rest) (async : (s.calls call).mode.isAsync = true) :
      Flow s (.locked call) (.take call holder) (.post call (.holder holder))
  | lend (call holder : Nat) (rest : List Nat) (running : s.shutdown = false)
      (free : s.free = holder :: rest) (sync : (s.calls call).mode.isAsync = false) :
      Flow s (.locked call) (.lend call holder) .ready
  | create (call : Nat) (running : s.shutdown = false) (none : s.free = [])
      (room : s.created < s.capacity) : Flow s (.locked call) .skip (.create call)
  | exhausted (call : Nat) (frame : Frame) (joins : Joins s call frame)
      (mode : (s.calls call).mode = .tryAcquire) : Flow s frame (.answer call) .ready
  | queueSync (call : Nat) (frame : Frame) (joins : Joins s call frame)
      (sync : (s.calls call).mode.isAsync = false) :
      Flow s frame (.enqueue call) (.waiting call)
  | queueAsync (call : Nat) (frame : Frame) (joins : Joins s call frame)
      (async : (s.calls call).mode.isAsync = true) : Flow s frame (.enqueue call) .ready
  | make (call : Nat) : Flow s (.create call) .make (.relock call (some s.holderCount))
  | unmade (call : Nat) : Flow s (.create call) .skip (.relock call none)
  | lose (call : Nat) (holder : Option Nat) (async : (s.calls call).mode.isAsync = true)
      (closed : s.shutdown = true) : Flow s (.relock call holder) .skip (.post call .aborted)
  | adopt (call holder : Nat) (async : (s.calls call).mode.isAsync = true)
      (running : s.shutdown = false) :
      Flow s (.relock call (some holder)) (.adopt call holder) (.post call (.holder holder))
  | adoptLend (call holder : Nat) (sync : (s.calls call).mode.isAsync = false) :
      Flow s (.relock call (some holder)) (.adoptLend call holder) .ready
  | resume (call holder : Nat) (ready : (s.calls call).ready = true)
      (assigned : (s.calls call).assigned = some holder) :
      Flow s (.waiting call) (.resume call holder) .ready
  | withdraw (call : Nat) (unready : (s.calls call).ready = false) :
      Flow s (.waiting call) (.withdraw call) .ready
  | post (call : Nat) (outcome : Outcome) :
      Flow s (.post call outcome) (.post call outcome) .ready
  | ignoreReturn (holder : Nat) (closed : s.shutdown = true) :
      Flow s (.returnHolder holder) .skip .ready
  | park (holder : Nat) (running : s.shutdown = false)
      (nobody : s.firstWaiter s.waiters = none) :
      Flow s (.returnHolder holder) (.park holder) .ready
  | serveAsync (holder call : Nat) (rest : List Nat) (running : s.shutdown = false)
      (first : s.firstWaiter s.waiters = some (call, rest))
      (async : (s.calls call).mode.isAsync = true) :
      Flow s (.returnHolder holder) (.serve call rest holder) (.post call (.holder holder))
  | serveSync (holder call : Nat) (rest : List Nat) (running : s.shutdown = false)
      (first : s.firstWaiter s.waiters = some (call, rest))
      (sync : (s.calls call).mode.isAsync = false) :
      Flow s (.returnHolder holder) (.serve call rest holder) .ready
  | ignoreDrop (holder : Nat) (reason : s.shutdown = true ∨ holder ∉ s.holders) :
      Flow s (.dropDead holder) .skip .ready
  | drop (holder : Nat) (running : s.shutdown = false) (known : holder ∈ s.holders) :
      Flow s (.dropDead holder) (.drop holder) .ready
  | late (call : Nat) (claimed : (s.calls call).claimed = true) :
      Flow s (.timeout call) .skip .ready
  | expire (call : Nat) (unclaimed : (s.calls call).claimed = false) :
      Flow s (.timeout call) (.expire call) (.post call .timedOut)
  | closeAgain : Flow s .shutdown .skip .ready
  | close : Flow s .shutdown .close .drain
  | drain : Flow s .drain .drain (.abort s.unclaimed)
  | abortDone : Flow s (.abort []) .skip .ready
  | abort (call : Nat) (rest : List Nat) :
      Flow s (.abort (call :: rest)) (.post call .aborted) (.abort rest)

section Flow

variable {s : State} {frame after : Frame} {effect : Effect}

theorem refuse_flow {call : Nat} (entering : frame = .enter call ∨ frame = .locked call)
    (closed : s.shutdown = true) (refused : refuse s call .aborted = (effect, after)) :
    Flow s frame effect after := by
  revert refused
  fun_cases refuse s call .aborted
  · rintro ⟨⟩
    exact .refuseAsync call frame entering closed ‹_›
  · rintro ⟨⟩
    exact .refuseSync call frame entering closed (Bool.eq_false_iff.mpr ‹_›)

theorem queue_flow {call : Nat} (joins : Joins s call frame)
    (queued : queue s call = (effect, after)) : Flow s frame effect after := by
  revert queued
  fun_cases queue s call
  · rintro ⟨⟩
    exact .exhausted call frame joins ‹_›
  · rintro ⟨⟩
    exact .queueSync call frame joins (by simp [*, Mode.isAsync])
  · rintro ⟨⟩
    exact .queueSync call frame joins (by simp [*, Mode.isAsync])
  · rintro ⟨⟩
    exact .queueAsync call frame joins (by simp [*, Mode.isAsync])

theorem start_flow {operation : Operation} (moved : start s operation = some (effect, after)) :
    Flow s .ready effect after := by
  revert moved
  fun_cases start s operation
  all_goals rintro ⟨⟩
  · exact .acquire _
  · exact .returned _ _ ‹_›
  · exact .dropped _ _ ‹_›
  · exact .timer _ ‹_›
  · obtain ⟨outcome, posted⟩ := isSome_iff_exists.mp ‹_›
    exact .deliver _ outcome posted
  · exact .shutdown

theorem next_flow {choice : Choice} (moved : next s choice frame = some (effect, after)) :
    Flow s frame effect after := by
  revert moved
  fun_cases next s choice frame
  · exact nofun
  · intro moved
    exact refuse_flow (.inl rfl) ‹_› (some.inj moved)
  · rintro ⟨⟩
    exact .enter _ (Bool.eq_false_iff.mpr ‹_›)
  · intro moved
    exact refuse_flow (.inr rfl) ‹_› (some.inj moved)
  · rintro ⟨⟩
    exact .take _ _ _ (Bool.eq_false_iff.mpr ‹_›) ‹_› ‹_›
  · rintro ⟨⟩
    exact .lend _ _ _ (Bool.eq_false_iff.mpr ‹_›) ‹_› (Bool.eq_false_iff.mpr ‹_›)
  · rintro ⟨⟩
    exact .create _ (Bool.eq_false_iff.mpr ‹_›) ‹_› ‹_›
  · rename_i running free full
    intro moved
    exact queue_flow (.inl ⟨rfl, Bool.eq_false_iff.mpr running, free, by omega⟩)
      (some.inj moved)
  · rintro ⟨⟩
    exact .make _
  · rintro ⟨⟩
    exact .unmade _
  · rename_i lost
    rintro ⟨⟩
    rw [Bool.and_eq_true] at lost
    exact .lose _ _ lost.1 lost.2
  · rename_i kept async
    rintro ⟨⟩
    exact .adopt _ _ async (by simp_all)
  · rintro ⟨⟩
    exact .adoptLend _ _ (Bool.eq_false_iff.mpr ‹_›)
  · intro moved
    exact queue_flow (.inr ⟨rfl, fun async => by simp_all⟩) (some.inj moved)
  · rintro ⟨⟩
    exact .resume _ _ ‹_› ‹_›
  · exact nofun
  · rintro ⟨⟩
    exact .withdraw _ ‹_›
  · exact nofun
  · rintro ⟨⟩
    exact .post _ _
  · rintro ⟨⟩
    exact .ignoreReturn _ ‹_›
  · rintro ⟨⟩
    exact .park _ (Bool.eq_false_iff.mpr ‹_›) ‹_›
  · rintro ⟨⟩
    exact .serveAsync _ _ _ (Bool.eq_false_iff.mpr ‹_›) ‹_› ‹_›
  · rintro ⟨⟩
    exact .serveSync _ _ _ (Bool.eq_false_iff.mpr ‹_›) ‹_› (Bool.eq_false_iff.mpr ‹_›)
  · rintro ⟨⟩
    exact .ignoreDrop _ (.inl ‹_›)
  · rintro ⟨⟩
    exact .drop _ (Bool.eq_false_iff.mpr ‹_›) ‹_›
  · rintro ⟨⟩
    exact .ignoreDrop _ (.inr ‹_›)
  · rintro ⟨⟩
    exact .late _ ‹_›
  · rintro ⟨⟩
    exact .expire _ (Bool.eq_false_iff.mpr ‹_›)
  · rintro ⟨⟩
    exact .closeAgain
  · rintro ⟨⟩
    exact .close
  · rintro ⟨⟩
    exact .drain
  · rintro ⟨⟩
    exact .abortDone
  · rintro ⟨⟩
    exact .abort _ _

end Flow

/-- One label of the interleaving. -/
inductive Action
  | begin (thread : Nat) (operation : Operation)
  | step (thread : Nat) (choice : Choice)
  deriving DecidableEq, Repr

/-- A thread begins an operation and takes steps. -/
def turns (thread : Nat) (operation : Operation) (steps : Nat) : List Action :=
  .begin thread operation :: .replicate steps (.step thread {})

/-- A thread moves. -/
def State.perform (s : State) (thread : Nat) (move : Effect × Frame) : State :=
  { s.apply move.1 with threads := Function.update s.threads thread move.2 }

/-- One step of the interleaving. -/
def step (s : State) : Action → Option State
  | .begin thread operation =>
    if thread < s.threadCount ∧ s.threads thread = .ready then
      (start s operation).map (s.perform thread)
    else none
  | .step thread choice =>
    if thread < s.threadCount then (next s choice (s.threads thread)).map (s.perform thread)
    else none

/-- A pool shared by any number of threads. -/
def system (config : PoolConfig) : Transition.System State Action where
  initial s := ∃ attempts threadCount, attempts.length = config.minConnections ∧
    s = State.initial config attempts threadCount
  step := step

def Action.thread : Action → Nat
  | .begin thread _ | .step thread _ => thread

def Action.move (s : State) : Action → Option (Effect × Frame)
  | .begin _ operation => start s operation
  | .step thread choice => next s choice (s.threads thread)

/-- A condition on every move of a run. -/
def within (condition : State → Frame → Effect → Frame → Prop) (s : State) (action : Action) :
    Prop :=
  ∀ move ∈ action.move s, condition s (s.threads action.thread) move.1 move.2

instance (condition : State → Frame → Effect → Frame → Prop)
    [∀ s frame effect after, Decidable (condition s frame effect after)] (s : State)
    (action : Action) : Decidable (within condition s action) :=
  inferInstanceAs (Decidable (∀ move ∈ action.move s, _))

theorem step_cases {condition : State → Frame → Effect → Frame → Prop} {s s' : State}
    {action : Action} (stepped : step s action = some s') (allowed : within condition s action) :
    ∃ thread effect after, thread < s.threadCount ∧ Flow s (s.threads thread) effect after ∧
      condition s (s.threads thread) effect after ∧ s' = s.perform thread (effect, after) := by
  cases action with
  | begin thread operation =>
    simp only [step, ite_none_right_eq_some, map_eq_some_iff] at stepped
    obtain ⟨⟨known, outside⟩, ⟨effect, after⟩, moved, rfl⟩ := stepped
    exact ⟨thread, effect, after, known, outside ▸ start_flow moved,
      allowed (effect, after) moved, rfl⟩
  | step thread choice =>
    simp only [step, ite_none_right_eq_some, map_eq_some_iff] at stepped
    obtain ⟨known, ⟨effect, after⟩, moved, rfl⟩ := stepped
    exact ⟨thread, effect, after, known, next_flow moved, allowed (effect, after) moved, rfl⟩

/-- A new pool with a number of connections. -/
def State.stocked (config : PoolConfig) (created threadCount : Nat) : State where
  capacity := config.capacity
  holders := range created
  free := range created
  created
  holderCount := created
  threadCount

theorem State.stocked_grow (config : PoolConfig) (created threadCount : Nat) :
    (stocked config created threadCount).grow =
      stocked config (created + 1) threadCount := by
  simp [grow, stocked, range_succ]

/-- The constructor stocks the pool with what could be created. -/
theorem State.initial_eq (config : PoolConfig) (attempts : List Bool) (threadCount : Nat) :
    initial config attempts threadCount =
      stocked config (attempts.count true) threadCount := by
  have folded : ∀ created,
      attempts.foldl (fun s succeeds => if succeeds then s.grow else s)
        (stocked config created threadCount) =
        stocked config (created + attempts.count true) threadCount := by
    induction attempts with
    | nil => exact fun _ => rfl
    | cons succeeds rest ih =>
      intro created
      rw [foldl_cons]
      cases succeeds with
      | false =>
        rw [if_neg (by decide), ih, count_cons_of_ne (by decide)]
      | true =>
        rw [if_pos rfl, stocked_grow, ih, count_cons_self]
        congr 1
        omega
  have start := folded 0
  rw [Nat.zero_add] at start
  exact start

theorem invariant_of_moves {config : PoolConfig}
    {condition : State → Frame → Effect → Frame → Prop} (holds : State → Prop) {s : State}
    (reached : (system config).ReachableBy (within condition) s)
    (start : ∀ created threadCount, created ≤ config.minConnections →
      holds (stocked config created threadCount))
    (move : ∀ s thread effect after, (system config).ReachableBy (within condition) s → holds s →
      thread < s.threadCount → Flow s (s.threads thread) effect after →
      condition s (s.threads thread) effect after → holds (s.perform thread (effect, after))) :
    holds s := by
  refine reached.invariant ?_ ?_
  · rintro _ ⟨attempts, threadCount, attempted, rfl⟩
    rw [initial_eq]
    exact start _ _ (attempted ▸ count_le_length)
  · intro s action s' before held allowed stepped
    obtain ⟨thread, effect, after, known, flow, met, rfl⟩ := step_cases stepped allowed
    exact move s thread effect after before held known flow met

theorem reachable_within {config : PoolConfig} {s : State} (reached : (system config).Reachable s) :
    (system config).ReachableBy (within (fun _ _ _ _ => True)) s := by
  obtain ⟨first, initial, run⟩ := reached
  exact ⟨first, initial, run.mono (fun _ _ _ _ _ => trivial)⟩

end Menagerie.Elephant.Pool
