import Menagerie.Starling.Pool.Effect

/-!
# Control flow of the pool

`next` gives, for the program point of a thread, the effect of its next atomic operation or
critical section and the program point after it. Loads and compare-exchanges of the bitmap,
of `waiter_gate_` and of `closed_` outside the mutex are steps of their own, and so is every
atomic operation on the bitmap and the gate inside it; the rest of a critical section, which
no other thread can observe, is part of the step that opens or closes it. `none` means that
the thread cannot move: it waits for a mutex, for a notification or for the clock.
-/

namespace Menagerie.Starling.Pool

/-- What the environment decides for one step. -/
structure Choice where
  /-- `compare_exchange_weak` fails for no reason. -/
  spurious : Bool := false
  /-- An allocation, timer or scheduling call throws. -/
  fails : Bool := false
  connected : Bool := true
  deriving DecidableEq, Repr

/-- A call that a thread outside the pool can start. -/
inductive Operation
  | tryAcquire
  | acquire
  | acquireFor (timeout : Int)
  /-- The initiation of `async_acquire(_for)`, with its deadline. -/
  | asyncAcquire (context : Nat) (deadline : Int) (cancelled : Bool)
  | tryReserve
  | tryTakeQuarantined
  | tryTakeIdle
  | release (token : Nat)
  | quarantine (token : Nat)
  | moveBorrowed (source : Nat)
  | assignBorrowed (token source : Nat)
  | construct (token : Nat)
  | destroy (token : Nat)
  | publish (token : Nat)
  | rollback (token : Nat)
  | moveReserved (source : Nat)
  | assignReserved (token source : Nat)
  | shutdown
  | timer (waiter : Nat)
  | cancel (waiter : Nat)
  | deliver (waiter : Nat)
  | stopContext (context : Nat)
  deriving DecidableEq, Repr

/-- `pool_deadline_after` on 64-bit tick counts. -/
def poolDeadlineAfter (now timeout : Int) : Int :=
  if 0 < timeout ∧ (2 ^ 63 - 1) - timeout < now then timePointMax
  else if timeout < 0 ∧ now < -2 ^ 63 - timeout then -2 ^ 63
  else now + timeout

/-- The scans inside a critical section of the pool mutex. -/
def Scan.held : Scan → Bool
  | .register _ _ | .serve _ => true
  | _ => false

/-- The point is inside a critical section of the pool mutex. -/
def Frame.held : Frame → Bool
  | .claimLoad scan _ | .claimSwap scan _ _ => scan.held
  | .raiseGate _ _ | .lowerGate _ _ _ | .registerClaimed _ _ _ | .park _ _ => true
  | .serve held _ | .handoff held _ _ _ | .drain held => held
  | .sweep _ => true
  | _ => false

/-- How far the owner of a waiter node has come. -/
inductive Stage
  | allocated (kind : WaiterKind)
  | fresh (kind : WaiterKind)
  | entering (kind : WaiterKind)
  | parked
  | resumed
  | failed
  | settled
  deriving DecidableEq, Repr

/-- The node of an initiation that first disposes of a slot. -/
def Return.stake : Return → Option (Nat × Stage)
  | .post waiter => some (waiter, .settled)
  | _ => none

/-- Where a scan returns to. -/
def Scan.continuation : Scan → Option Return
  | .serve after => some after
  | _ => none

/-- Where a selector returns to. -/
def Selected.continuation : Selected → Option Return
  | .retry _ _ after | .served _ after => some after
  | _ => none

/-- Where the routine of a thread returns to. -/
def Frame.continuation : Frame → Option Return
  | .quarantine _ after | .giveBack _ after | .giveBackGate _ after | .publishIdle _ after
  | .recheckClosed _ after | .reclaimLoad _ after | .reclaimSwap _ _ after | .recheckGate after
  | .serve _ after | .handoff _ _ _ after
  | .leave after => some after
  | .claimLoad scan _ | .claimSwap scan _ _ => scan.continuation
  | .notify _ selected => selected.continuation
  | _ => none

/-- The waiter node whose `acquire` or initiation the thread executes. -/
def Frame.stake : Frame → Option (Nat × Stage)
  | .enroll request waiter => some (waiter, .allocated request.kind)
  | .register request waiter => some (waiter, .fresh request.kind)
  | .claimLoad (.register request waiter) _ | .claimSwap (.register request waiter) _ _
  | .raiseGate request waiter | .lowerGate request waiter _ | .registerClaimed request waiter _
  | .park request waiter => some (waiter, .entering request.kind)
  | .parked waiter => some (waiter, .parked)
  | .notified waiter => some (waiter, .resumed)
  | .initiationFailed waiter => some (waiter, .failed)
  | .postInitiation waiter | .initiationCaught waiter => some (waiter, .settled)
  | frame => frame.continuation.bind Return.stake

/-- The context of an initiation that has no node yet. -/
def Frame.initiating : Frame → Option Nat
  | .acquire request | .acquireExpired request | .claimLoad (.acquire request) _
  | .claimSwap (.acquire request) _ _ | .acquireClaimed request _
  | .acquireClaimedExpired request _ | .allocate request =>
    if request.kind = .async then some request.context else none
  | _ => none

namespace State

/-- The thread runs on an I/O thread of the context. -/
def runsOn (s : State) (context thread : Nat) : Bool :=
  (s.threads thread).initiating = some context ||
    match (s.threads thread).stake with
    | some (waiter, _) => (s.nodes waiter).kind = .async ∧ (s.nodes waiter).context = context
    | none => false

/-- Move a thread; the mutex is owned exactly inside critical sections. -/
def goto (s : State) (thread : Nat) (frame : Frame) : State :=
  { s with
    threads := Function.update s.threads thread frame
    mutex := if frame.held then some thread
      else if (s.threads thread).held then none else s.mutex }

end State

/-- `claim_idle` found no bit. -/
def Scan.empty : Scan → Frame
  | .tryAcquire => .tryAcquireEmpty
  | .acquire request => .allocate request
  | .takeIdle => .leave (.toCaller .nothing)
  | .register request waiter => .park request waiter
  | .serve after => .leave after

/-- `claim_idle` returned a slot. -/
def Scan.found (index : Nat) : Scan → Frame
  | .tryAcquire => .tryAcquireClaimed index
  | .acquire request => .acquireClaimed request index
  | .takeIdle => .takeIdleClaimed index
  | .register request waiter => .lowerGate request waiter index
  | .serve after => .handoff true index true after

/-- The selector goes on after the notification. -/
def Selected.resume : Selected → Frame
  | .retry index serving after => .handoff false index serving after
  | .served true after => .serve false after
  | .served false after => .leave after
  | .drain => .drain false
  | .done => .ready

/-- The effect of a thread's next operation, and the point after it. -/
def next (s : State) (choice : Choice) : Frame → Option (Effect × Frame)
  | .ready => none
  | .tryAcquire =>
    if s.closed then some (.give (.error .shutdown), .ready)
    else some (.skip, .claimLoad .tryAcquire 0)
  | .tryAcquireEmpty =>
    some (.give (.error (if s.closed then .shutdown else .exhausted)), .ready)
  | .tryAcquireClaimed index =>
    if s.closed then some (.skip, .quarantine index (.toCaller (.error .shutdown)))
    else some (.skip, .yield index)
  | .claimLoad scan word =>
    if word < s.wordCount then
      if nonzero : s.words word ≠ 0 then
        some (.skip, .claimSwap scan word ⟨s.words word, nonzero⟩)
      else some (.skip, .claimLoad scan (word + 1))
    else some (.skip, scan.empty)
  | .claimSwap scan word bits =>
    if choice.spurious = false ∧ s.words word = bits then
      some (.claim word, scan.found (s.lowest word))
    else if nonzero : s.words word ≠ 0 then
      some (.skip, .claimSwap scan word ⟨s.words word, nonzero⟩)
    else some (.skip, .claimLoad scan (word + 1))
  | .quarantine index after =>
    if s.mutex = none then some (.quarantine index, .leave after) else none
  | .yield index => some (.newBorrowed index, .ready)
  | .acquire request =>
    if s.closed then some (.give (.error .shutdown), .ready)
    else some (.skip, .acquireExpired request)
  | .acquireExpired request =>
    if s.expired request.deadline then some (.give (.error .timeout), .ready)
    else some (.skip, .claimLoad (.acquire request) 0)
  | .acquireClaimed request index =>
    if s.closed then some (.skip, .quarantine index (.toCaller (.error .shutdown)))
    else some (.skip, .acquireClaimedExpired request index)
  | .acquireClaimedExpired request index =>
    if s.expired request.deadline then
      some (.skip, .giveBack index (.toCaller (.error .timeout)))
    else some (.skip, .yield index)
  | .allocate request =>
    match request.kind with
    | .sync => some (.allocate request choice.connected, .register request s.nodeCount)
    | .async =>
      if choice.fails then some (.give .thrown, .ready)
      else some (.allocate request choice.connected, .enroll request s.nodeCount)
  | .enroll request waiter =>
    if (s.contexts (s.nodes waiter).context).mutex = none then
      some (.enroll waiter, .register request waiter)
    else none
  | .register request waiter =>
    if s.mutex = none then
      match request.kind with
      | .sync =>
        if s.closed then some (.retire waiter, .leave (.toCaller (.error .shutdown)))
        else if s.expired request.deadline then
          some (.retire waiter, .leave (.toCaller (.error .timeout)))
        else some (.skip, .raiseGate request waiter)
      | .async =>
        -- A cancellation between the slot registration and this lock has already decided.
        if (s.nodes waiter).state = .cancelled then some (.skip, .postInitiation waiter)
        else if s.closed then some (.settle waiter .shutdown, .postInitiation waiter)
        else if s.expired request.deadline then
          some (.settle waiter .timeout, .postInitiation waiter)
        else some (.skip, .raiseGate request waiter)
    else none
  | .raiseGate request waiter => some (.raiseGate, .claimLoad (.register request waiter) 0)
  | .lowerGate request waiter index =>
    some (.lowerGate, .registerClaimed request waiter index)
  | .registerClaimed request waiter index =>
    match request.kind with
    | .sync =>
      if s.expired request.deadline then
        some (.retire waiter, .handoff true index false (.toCaller (.error .timeout)))
      else some (.retire waiter, .yield index)
    | .async =>
      if s.expired request.deadline then
        some (.settle waiter .timeout, .handoff true index false (.post waiter))
      else some (.selfAssign waiter index, .postInitiation waiter)
  | .park request waiter =>
    match request.kind with
    | .sync => some (.link waiter false, .parked waiter)
    | .async =>
      if choice.fails ∧ (s.nodes waiter).bounded then
        some (.linkFailed waiter, .initiationFailed waiter)
      else some (.link waiter (s.nodes waiter).bounded, .ready)
  | .parked waiter =>
    if s.mutex = none then
      if (s.nodes waiter).state ≠ .queued then some (.skip, .notified waiter)
      else if s.expired (s.nodes waiter).deadline then
        some (.unlink waiter .timeout, .notified waiter)
      else none
    else none
  | .notified waiter =>
    if (s.nodes waiter).notifier = none then
      match (s.nodes waiter).result with
      | some (.ok _) => some (.hand waiter, .ready)
      | some (.error error) => some (.retire waiter, .leave (.toCaller (.error error)))
      | none => none
    else none
  | .initiationFailed waiter =>
    if (s.contexts (s.nodes waiter).context).mutex = none then
      some (.discard waiter, .leave (.toCaller .thrown))
    else none
  | .postInitiation waiter =>
    if (s.contexts (s.nodes waiter).context).mutex = none then
      if (s.contexts (s.nodes waiter).context).stopping then some (.skip, .ready)
      else if choice.fails then some (.skip, .initiationCaught waiter)
      else some (.post waiter, .ready)
    else none
  | .initiationCaught waiter =>
    if (s.contexts (s.nodes waiter).context).mutex = none then
      match (s.nodes waiter).result with
      | some (.ok index) => some (.takeBack waiter, .giveBack index (.toCaller .thrown))
      | some (.error _) => some (.discard waiter, .leave (.toCaller .thrown))
      | none => none
    else none
  | .takeIdle =>
    if s.closed then some (.give .nothing, .ready) else some (.skip, .takeIdleGate)
  | .takeIdleGate =>
    if s.waiterGate ≠ 0 then some (.give .nothing, .ready)
    else some (.skip, .claimLoad .takeIdle 0)
  | .takeIdleClaimed index =>
    if s.mutex = none then
      if s.closed then some (.quarantine index, .leave (.toCaller .nothing))
      else if s.waiterGate ≠ 0 then some (.publish index, .serve true (.toCaller .nothing))
      else some (.reserveIdle index, .ready)
    else none
  | .tryReserve =>
    if s.mutex = none then
      if s.closed ∨ s.vacant = [] then some (.give .nothing, .ready)
      else some (.reserveVacant, .ready)
    else none
  | .tryTakeQuarantined =>
    if s.mutex = none then
      if s.closed ∨ s.quarantined = [] then some (.give .nothing, .ready)
      else some (.reserveQuarantined, .ready)
    else none
  | .giveBack index after =>
    if s.closed then some (.skip, .handoff false index false after)
    else some (.skip, .giveBackGate index after)
  | .giveBackGate index after =>
    if s.waiterGate ≠ 0 then some (.skip, .handoff false index false after)
    else some (.skip, .publishIdle index after)
  | .publishIdle index after => some (.publish index, .recheckClosed index after)
  | .recheckClosed index after =>
    if s.closed then some (.skip, .reclaimLoad index after)
    else some (.skip, .recheckGate after)
  | .reclaimLoad index after =>
    if present : s.idle index then
      some (.skip, .reclaimSwap index ⟨s.words (index / bitsPerWord), present⟩ after)
    else some (.skip, .leave after)
  | .reclaimSwap index bits after =>
    if choice.spurious = false ∧ s.words (index / bitsPerWord) = bits then
      some (.reclaim index, .quarantine index after)
    else if present : s.idle index then
      some (.skip, .reclaimSwap index ⟨s.words (index / bitsPerWord), present⟩ after)
    else some (.skip, .leave after)
  | .recheckGate after =>
    if s.waiterGate ≠ 0 then some (.skip, .serve false after) else some (.skip, .leave after)
  | .serve held after =>
    if held ∨ s.mutex = none then
      if s.closed ∨ s.waiters = [] then some (.skip, .leave after)
      else some (.skip, .claimLoad (.serve after) 0)
    else none
  | .handoff held index serving after =>
    if held ∨ s.mutex = none then
      if s.closed then some (.quarantine index, .leave after)
      else match s.waiters with
        | [] => some (.publish index, .leave after)
        | waiter :: _ =>
          if s.expired (s.nodes waiter).deadline then
            some (.complete waiter .timeout, .notify waiter (.retry index serving after))
          else some (.assign waiter index, .notify waiter (.served serving after))
    else none
  | .notify waiter selected =>
    match (s.nodes waiter).kind with
    | .sync => some (.unpin waiter, selected.resume)
    | .async =>
      if (s.contexts (s.nodes waiter).context).mutex = none then
        if (s.contexts (s.nodes waiter).context).stopping then some (.skip, selected.resume)
        else some (.post waiter, selected.resume)
      else none
  | .leave (.toCaller outcome) => some (.give outcome, .ready)
  | .leave (.released token) => some (.clearToken token, .ready)
  | .leave (.moveAssigned token source) =>
    if (s.borrowed source).settled then some (.assignToken token source, .ready) else none
  | .leave (.published token) => some (.endPublish token, .ready)
  | .leave (.post waiter) => some (.skip, .postInitiation waiter)
  | .leave (.abandon context rest) => some (.skip, .abandonAll context rest)
  | .publish token =>
    if s.mutex = none then
      match s.reserved token with
      | .live slot =>
        if s.closed then some (.give (.published false), .ready)
        else if slot.constructed then
          some (.startPublish token, .handoff true slot.index false (.published token))
        else none
      | _ => none
    else none
  | .rollback token source =>
    match s.reserved token, source with
    | .absent, _ | .busy, _ => none
    | .empty, none => some (.skip, .ready)
    | .empty, some other => some (.skip, .assignReserved token other)
    | .live _, none => if s.mutex = none then some (.rollback token, .ready) else none
    | .live _, some other =>
      if s.mutex = none then some (.rollback token, .assignReserved token other) else none
  | .assignReserved token source =>
    if s.reserved token = .empty ∧ (s.reserved source).settled then
      some (.assignReserved token source, .ready)
    else none
  | .shutdown =>
    if s.mutex = none then
      if s.closed then some (.closeDone, .ready) else some (.close, .sweep 0)
    else none
  | .sweep word =>
    if word < s.wordCount then some (.sweep word, .sweep (word + 1)) else some (.skip, .drain true)
  | .drain held =>
    if held ∨ s.mutex = none then
      match s.waiters with
      | [] => some (.closeDone, .ready)
      | waiter :: _ =>
        if s.expired (s.nodes waiter).deadline then
          some (.complete waiter .timeout, .notify waiter .drain)
        else some (.complete waiter .shutdown, .notify waiter .drain)
    else none
  | .select waiter terminal =>
    if s.mutex = none then
      if (s.nodes waiter).state ≠ .queued then some (.skip, .ready)
      else if waiter ∈ s.waiters then
        some (.complete waiter terminal, .notify waiter .done)
      else some (.settle waiter terminal, .ready)
    else none
  | .stopContext context =>
    if (s.contexts context).mutex = none ∧
        ∀ thread, thread < s.threadCount → s.runsOn context thread = false then
      some (.stopContext context, .unlinkAbandoned context [] (s.contexts context).waiters)
    else none
  | .unlinkAbandoned context prepared [] =>
    some (.unlockContext context, .abandonAll context prepared)
  | .unlinkAbandoned context prepared (waiter :: todo) =>
    if s.mutex = none then
      if waiter ∈ s.waiters then
        some (.unlink waiter .cancelled, .unlinkAbandoned context (prepared ++ [waiter]) todo)
      else some (.skip, .unlinkAbandoned context (prepared ++ [waiter]) todo)
    else none
  | .abandonAll _ [] => some (.skip, .ready)
  | .abandonAll context (waiter :: rest) =>
    match (s.nodes waiter).result with
    | some (.ok index) => some (.abandonSlot waiter, .giveBack index (.abandon context rest))
    | some (.error _) => some (.abandon waiter, .abandonAll context rest)
    | none => none

/-- The start of a call by a thread outside the pool. -/
def start (s : State) : Operation → Option (Effect × Frame)
  | .tryAcquire => some (.enter, .tryAcquire)
  | .acquire => some (.enter, .acquire ⟨.sync, 0, timePointMax⟩)
  | .acquireFor timeout =>
    some (.enter, .acquire ⟨.sync, 0, poolDeadlineAfter s.clock timeout⟩)
  | .asyncAcquire context deadline cancelled =>
    if (s.contexts context).stopping then none
    else if cancelled then some (.enter, .leave (.toCaller (.error .cancelled)))
    else some (.enter, .acquire ⟨.async, context, deadline⟩)
  | .tryReserve => some (.enter, .tryReserve)
  | .tryTakeQuarantined => some (.enter, .tryTakeQuarantined)
  | .tryTakeIdle => some (.enter, .takeIdle)
  | .release token =>
    match s.borrowed token with
    | .live index => some (.takeToken token, .giveBack index (.released token))
    | .empty => some (.skip, .ready)
    | _ => none
  | .quarantine token =>
    match s.borrowed token with
    | .live index => some (.takeToken token, .quarantine index (.released token))
    | .empty => some (.skip, .ready)
    | _ => none
  | .moveBorrowed source =>
    if (s.borrowed source).settled then some (.moveToken source, .ready) else none
  | .assignBorrowed token source =>
    if token = source then some (.skip, .ready)
    else match s.borrowed token with
      | .live index => some (.takeToken token, .giveBack index (.moveAssigned token source))
      | .empty =>
        if (s.borrowed source).settled then some (.assignToken token source, .ready) else none
      | _ => none
  | .construct token =>
    match s.reserved token with
    | .live ⟨_, false⟩ => some (.construct token, .ready)
    | _ => none
  | .destroy token =>
    match s.reserved token with
    | .live _ => some (.destroy token, .ready)
    | _ => none
  | .publish token =>
    match s.reserved token with
    | .live _ => some (.enter, .publish token)
    | _ => none
  | .rollback token => some (.skip, .rollback token none)
  | .moveReserved source =>
    if (s.reserved source).settled then some (.moveReserved source, .ready) else none
  | .assignReserved token source =>
    if token = source then some (.skip, .ready)
    else some (.skip, .rollback token (some source))
  | .shutdown => some (.skip, .shutdown)
  | .timer waiter =>
    if (s.nodes waiter).timerArmed ∧ s.expired (s.nodes waiter).deadline then
      some (.disarm waiter, .select waiter .timeout)
    else none
  | .cancel waiter =>
    if (s.nodes waiter).cancellable then some (.skip, .select waiter .cancelled) else none
  | .deliver waiter =>
    if 0 < (s.nodes waiter).posted ∧
        (s.contexts (s.nodes waiter).context).stopping = false ∧
        (s.contexts (s.nodes waiter).context).mutex = none then
      some (.deliver waiter, .ready)
    else none
  | .stopContext context => some (.skip, .stopContext context)

/-- One label of the interleaving. -/
inductive Action
  | tick (now : Int)
  | begin (thread : Nat) (operation : Operation)
  | step (thread : Nat) (choice : Choice)
  deriving DecidableEq, Repr

/-- A thread begins an operation and takes steps. -/
def turns (thread : Nat) (operation : Operation) (steps : Nat) : List Action :=
  .begin thread operation :: .replicate steps (.step thread {})

/-- A slot is filled and published. -/
def publishing : List Action := turns 0 .tryReserve 1 ++ turns 0 (.construct 0) 0 ++
  turns 0 (.publish 0) 3

namespace State

/-- A thread moves. -/
def perform (s : State) (thread : Nat) (move : Effect × Frame) : State :=
  (s.apply thread move.1).goto thread move.2

end State

/-- One step of the interleaving. -/
def step (s : State) : Action → Option State
  | .tick now => if s.clock ≤ now then some { s with clock := now } else none
  | .begin thread operation =>
    if thread < s.threadCount ∧ s.threads thread = .ready then
      (start s operation).map (s.perform thread)
    else none
  | .step thread choice =>
    if thread < s.threadCount then
      (next s choice (s.threads thread)).map (s.perform thread)
    else none

/-- A pool shared by any number of threads. -/
def system (capacity : Nat) : Transition.System State Action where
  initial s := ∃ threadCount, s = State.initial capacity threadCount
  step := step

/-- A thread at `frame` executes `effect` and is then at `after`. -/
inductive Moves (s : State) (frame : Frame) (effect : Effect) (after : Frame) : Prop
  | began (operation : Operation) (outside : frame = .ready)
      (moved : start s operation = some (effect, after))
  | continued (choice : Choice) (moved : next s choice frame = some (effect, after))

theorem step_cases {s s' : State} {action : Action} (stepped : step s action = some s') :
    (∃ now, s.clock ≤ now ∧ s' = { s with clock := now }) ∨
    ∃ thread effect after, thread < s.threadCount ∧
      Moves s (s.threads thread) effect after ∧ s' = s.perform thread (effect, after) := by
  cases action with
  | tick now =>
    simp only [step, Option.ite_none_right_eq_some, Option.some.injEq] at stepped
    exact .inl ⟨now, stepped.1, stepped.2.symm⟩
  | begin thread operation =>
    simp only [step, Option.ite_none_right_eq_some, Option.map_eq_some_iff] at stepped
    obtain ⟨⟨known, outside⟩, ⟨effect, after⟩, moved, rfl⟩ := stepped
    exact .inr ⟨thread, effect, after, known, .began operation outside moved, rfl⟩
  | step thread choice =>
    simp only [step, Option.ite_none_right_eq_some, Option.map_eq_some_iff] at stepped
    obtain ⟨known, ⟨effect, after⟩, moved, rfl⟩ := stepped
    exact .inr ⟨thread, effect, after, known, .continued choice moved, rfl⟩

theorem invariant_of_moves {capacity : Nat} (holds : State → Prop) {s : State}
    (reached : (system capacity).Reachable s)
    (start : ∀ threadCount, holds (State.initial capacity threadCount))
    (tick : ∀ s now, holds s → holds { s with clock := now })
    (move : ∀ s thread effect after, (system capacity).Reachable s → holds s →
      thread < s.threadCount → Moves s (s.threads thread) effect after →
      holds (s.perform thread (effect, after))) : holds s := by
  refine reached.invariant ?_ ?_
  · rintro _ ⟨threadCount, rfl⟩
    exact start threadCount
  · intro s action s' before held _ stepped
    obtain ⟨now, -, rfl⟩ | ⟨thread, effect, after, known, moved, rfl⟩ := step_cases stepped
    · exact tick s now held
    · exact move s thread effect after before held known moved

end Menagerie.Starling.Pool
