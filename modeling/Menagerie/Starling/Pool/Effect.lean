import Menagerie.Starling.Pool.Basic

/-!
# Atomic effects on the pool

One step of a thread is one atomic operation or one critical section. `Effect` lists what a
step can do to shared data and `State.apply` executes it; the control flow that decides which
effect comes next is in `Program`. The mutex is not part of an effect: entering and leaving
critical sections follows from the program points (`Frame.held`).
-/

namespace Menagerie.Starling.Pool

open Function

/-- What one step does to shared data. -/
inductive Effect
  | skip
  | enter
  | give (outcome : Outcome)
  | claim (word : Nat)
  | reclaim (index : Nat)
  | publish (index : Nat)
  | quarantine (index : Nat)
  | reserveVacant
  | reserveQuarantined
  | reserveIdle (index : Nat)
  | raiseGate
  | lowerGate
  | link (waiter : Nat) (armed : Bool)
  | linkFailed (waiter : Nat)
  | unlink (waiter : Nat) (rejection : Rejection)
  | complete (waiter : Nat) (rejection : Rejection)
  | assign (waiter : Nat) (index : Nat)
  | selfAssign (waiter : Nat) (index : Nat)
  | settle (waiter : Nat) (rejection : Rejection)
  | allocate (request : Request) (connected : Bool)
  | enroll (waiter : Nat)
  | retire (waiter : Nat)
  | discard (waiter : Nat)
  | takeBack (waiter : Nat)
  | abandon (waiter : Nat)
  | abandonSlot (waiter : Nat)
  | hand (waiter : Nat)
  | deliver (waiter : Nat)
  | unpin (waiter : Nat)
  | post (waiter : Nat)
  | disarm (waiter : Nat)
  | close
  | sweep (word : Nat)
  | closeDone
  | stopContext (context : Nat)
  | unlockContext (context : Nat)
  | newBorrowed (index : Nat)
  | takeToken (token : Nat)
  | clearToken (token : Nat)
  | assignToken (token source : Nat)
  | moveToken (source : Nat)
  | startPublish (token : Nat)
  | endPublish (token : Nat)
  | rollback (token : Nat)
  | assignReserved (token source : Nat)
  | moveReserved (source : Nat)
  | construct (token : Nat)
  | destroy (token : Nat)
  deriving DecidableEq, Repr

namespace State

/-- The lowest set bit of a nonzero word, which a claim takes. -/
def lowest (s : State) (word : Nat) : Nat :=
  word * bitsPerWord + (s.words word).ctz.toNat

/-- The slots of a word as `shutdown` visits them, the lowest bit first. -/
def sweptSlots (s : State) (word : Nat) : List Nat :=
  ((List.range bitsPerWord).filter (fun bit => (s.words word).getLsbD bit)).map
    (fun bit => word * bitsPerWord + bit)

/-- Store one word. -/
def setWord (s : State) (word : Nat) (bits : BitVec 64) : State :=
  { s with words := update s.words word bits }

/-- Store one entry of `states_`. -/
def setSlot (s : State) (index : Nat) (state : SlotState) : State :=
  { s with states := update s.states index state }

def setNode (s : State) (waiter : Nat) (change : WaiterNode → WaiterNode) : State :=
  { s with nodes := update s.nodes waiter (change (s.nodes waiter)) }

def setContext (s : State) (context : Nat) (change : Context → Context) : State :=
  { s with contexts := update s.contexts context (change (s.contexts context)) }

/-- Store one `Borrowed`. -/
def setBorrowed (s : State) (token : Nat) (handle : Handle Nat) : State :=
  { s with borrowed := update s.borrowed token handle }

def setReserved (s : State) (token : Nat) (handle : Handle ReservedSlot) : State :=
  { s with reserved := update s.reserved token handle }

/-- Append to the history. -/
def log (s : State) (events : List Event) : State :=
  { s with history := s.history ++ events }

/-- `Borrowed{this, index}` as a new object. -/
def addBorrowed (s : State) (index : Nat) : State :=
  { s.setBorrowed s.borrowedCount (.live index) with borrowedCount := s.borrowedCount + 1 }

/-- `ReservedSlot{this, index, constructed}` as a new object. -/
def addReserved (s : State) (slot : ReservedSlot) : State :=
  { s.setReserved s.reservedTokens (.live slot) with reservedTokens := s.reservedTokens + 1 }

/-- `unlink_waiter`: exact removal, gate, state. -/
def unlinkWaiter (s : State) (waiter : Nat) (state : WaiterState) : State :=
  ({ s with
      waiters := s.waiters.erase waiter
      waiterGate := s.waiterGate - 1 }.setNode waiter
    (fun node => { node with state })).log [.selected waiter state]

/-- `complete_waiter_locked` up to the unlock; takes the notification mutex of a sync waiter. -/
def completeWaiter (s : State) (thread waiter : Nat) (state : WaiterState) : State :=
  (s.unlinkWaiter waiter state).setNode waiter (fun node =>
    { node with notifier := if node.kind = .sync then some thread else node.notifier })

/-- `AsyncWaiter::cleanup` and the end of the handler. -/
def finishNode (s : State) (waiter : Nat) : State :=
  s.setNode waiter (fun node =>
    { node with pending := false, cancellable := false, timerArmed := false })

/-- `AsyncWaiterContext::remove`. -/
def removeNode (s : State) (waiter : Nat) : State :=
  s.setContext (s.nodes waiter).context (fun context =>
    { context with waiters := context.waiters.erase waiter })

/-- What a completion passes to the caller. -/
def completionEvents (s : State) (waiter : Nat) : List Event :=
  match (s.nodes waiter).result with
  | some (.ok _) => [.handed waiter s.borrowedCount,
      .returned (s.nodes waiter).late (.borrowed s.borrowedCount)]
  | some (.error error) => [.returned (s.nodes waiter).late (.error error)]
  | none => []

/-- The `Borrowed` that a completion creates, if any. -/
def addResult (s : State) (waiter : Nat) : State :=
  match (s.nodes waiter).result with
  | some (.ok index) => s.addBorrowed index
  | _ => s

/-- Execute one effect on behalf of a thread. -/
def apply (s : State) (thread : Nat) : Effect → State
  | .skip => s
  | .enter => { s with late := update s.late thread s.shutdownReturned }
  | .give outcome => s.log [.returned (s.late thread) outcome]
  | .claim word =>
    (s.setSlot (s.lowest word) .borrowed).setWord word (s.words word &&& (s.words word - 1))
  | .reclaim index =>
    (s.setSlot index .borrowed).setWord (index / bitsPerWord)
      (s.words (index / bitsPerWord) &&& ~~~ BitVec.twoPow 64 (index % bitsPerWord))
  | .publish index =>
    (s.setSlot index .idle).setWord (index / bitsPerWord)
      (s.words (index / bitsPerWord) ||| BitVec.twoPow 64 (index % bitsPerWord))
  | .quarantine index =>
    { s.setSlot index .quarantined with
      usableSize := s.usableSize - 1
      quarantined := s.quarantined ++ [index] }
  | .reserveVacant =>
    match s.vacant.getLast? with
    | none => s
    | some index =>
      ({ s.setSlot index .reserved with
          vacant := s.vacant.dropLast
          reservedCount := s.reservedCount + 1 }.addReserved ⟨index, false⟩).log
        [.returned (s.late thread) (.reserved s.reservedTokens)]
  | .reserveQuarantined =>
    match s.quarantined.getLast? with
    | none => s
    | some index =>
      ({ s.setSlot index .reserved with
          quarantined := s.quarantined.dropLast
          reservedCount := s.reservedCount + 1 }.addReserved ⟨index, true⟩).log
        [.returned (s.late thread) (.reserved s.reservedTokens)]
  | .reserveIdle index =>
    ({ s.setSlot index .reserved with
        usableSize := s.usableSize - 1
        reservedCount := s.reservedCount + 1 }.addReserved ⟨index, true⟩).log
      [.returned (s.late thread) (.reserved s.reservedTokens)]
  | .raiseGate => { s with waiterGate := s.waiterGate + 1 }
  | .lowerGate => { s with waiterGate := s.waiterGate - 1 }
  | .link waiter armed =>
    ({ s with waiters := s.waiters ++ [waiter] }.setNode waiter
      (fun node => { node with timerArmed := armed })).log [.registered waiter]
  | .linkFailed waiter =>
    ({ s with waiters := s.waiters ++ [waiter] }.log [.registered waiter]).unlinkWaiter waiter
      .cancelled
  | .unlink waiter rejection => s.unlinkWaiter waiter rejection.state
  | .complete waiter rejection => s.completeWaiter thread waiter rejection.state
  | .assign waiter index =>
    (s.setNode waiter (fun node => { node with assignedSlot := index })).completeWaiter thread
      waiter .assigned
  | .selfAssign waiter index =>
    (s.setNode waiter (fun node =>
      { node with assignedSlot := index, state := .assigned })).log [.selected waiter .assigned]
  | .settle waiter rejection =>
    (s.setNode waiter (fun node => { node with state := rejection.state })).log
      [.selected waiter rejection.state]
  | .allocate request connected =>
    { s.setNode s.nodeCount (fun _ =>
        { kind := request.kind
          deadline := request.deadline
          context := request.context
          pending := true
          cancellable := request.kind = .async ∧ connected
          late := s.late thread }) with nodeCount := s.nodeCount + 1 }
  | .enroll waiter =>
    s.setContext (s.nodes waiter).context (fun context =>
      { context with waiters := context.waiters ++ [waiter] })
  | .retire waiter => s.finishNode waiter
  | .discard waiter => (s.removeNode waiter).finishNode waiter
  | .takeBack waiter =>
    ((s.removeNode waiter).finishNode waiter).log
      [.givenBack waiter (s.nodes waiter).assignedSlot]
  | .abandon waiter => s.finishNode waiter
  | .abandonSlot waiter =>
    (s.finishNode waiter).log [.givenBack waiter (s.nodes waiter).assignedSlot]
  | .hand waiter => ((s.addResult waiter).finishNode waiter).log (s.completionEvents waiter)
  | .deliver waiter =>
    ((((s.addResult waiter).removeNode waiter).finishNode waiter).setNode waiter
      (fun node => { node with posted := node.posted - 1 })).log (s.completionEvents waiter)
  | .unpin waiter => s.setNode waiter (fun node => { node with notifier := none })
  | .post waiter => s.setNode waiter (fun node => { node with posted := node.posted + 1 })
  | .disarm waiter => s.setNode waiter (fun node => { node with timerArmed := false })
  | .close => { s with closed := true }
  | .sweep word =>
    { s.setWord word 0 with
      states := fun index => if index ∈ s.sweptSlots word then .quarantined else s.states index
      usableSize := s.usableSize - (s.sweptSlots word).length
      quarantined := s.quarantined ++ s.sweptSlots word }
  | .closeDone => { s with shutdownReturned := true }
  | .stopContext context =>
    s.setContext context (fun _ => { mutex := some thread, waiters := [], stopping := true })
  | .unlockContext context =>
    s.setContext context (fun registry => { registry with mutex := none })
  | .newBorrowed index =>
    (s.addBorrowed index).log [.returned (s.late thread) (.borrowed s.borrowedCount)]
  | .takeToken token => s.setBorrowed token .busy
  | .clearToken token => s.setBorrowed token .empty
  | .assignToken token source =>
    (s.setBorrowed token (s.borrowed source)).setBorrowed source .empty
  | .moveToken source =>
    { (s.setBorrowed s.borrowedCount (s.borrowed source)).setBorrowed source .empty with
      borrowedCount := s.borrowedCount + 1 }
  | .startPublish token =>
    match s.reserved token with
    | .live slot =>
      { (s.setSlot slot.index .borrowed).setReserved token .busy with
        reservedCount := s.reservedCount - 1
        usableSize := s.usableSize + 1 }
    | _ => s
  | .endPublish token =>
    (s.setReserved token .empty).log [.returned (s.late thread) (.published true)]
  | .rollback token =>
    match s.reserved token with
    | .live slot =>
      { (s.setSlot slot.index .vacant).setReserved token .empty with
        vacant := s.vacant ++ [slot.index]
        reservedCount := s.reservedCount - 1 }
    | _ => s
  | .assignReserved token source =>
    (s.setReserved token (s.reserved source)).setReserved source .empty
  | .moveReserved source =>
    { (s.setReserved s.reservedTokens (s.reserved source)).setReserved source .empty with
      reservedTokens := s.reservedTokens + 1 }
  | .construct token =>
    match s.reserved token with
    | .live slot => s.setReserved token (.live { slot with constructed := true })
    | _ => s
  | .destroy token =>
    match s.reserved token with
    | .live slot => s.setReserved token (.live { slot with constructed := false })
    | _ => s

/-- A completion touches the `Borrowed` objects only. -/
theorem addResult_eq (s : State) (waiter : Nat) : s.addResult waiter =
    { s with
      borrowed := (s.addResult waiter).borrowed
      borrowedCount := (s.addResult waiter).borrowedCount } := by
  unfold addResult
  split <;> rfl

end State

def Effect.onBorrowed : Effect → Bool
  | .newBorrowed _ | .hand _ | .deliver _ | .takeToken _ | .clearToken _ | .assignToken _ _
  | .moveToken _ => true
  | _ => false

/-- The effects on `ReservedSlot` objects. -/
def Effect.onReserved : Effect → Bool
  | .reserveVacant | .reserveQuarantined | .reserveIdle _ | .startPublish _ | .endPublish _
  | .rollback _ | .assignReserved _ _ | .moveReserved _ | .construct _ | .destroy _ => true
  | _ => false

namespace State

section Untouched

variable (s : State) (thread : Nat) (effect : Effect)

theorem apply_fixed : (s.apply thread effect).threads = s.threads ∧
    (s.apply thread effect).mutex = s.mutex ∧ (s.apply thread effect).capacity = s.capacity ∧
    (s.apply thread effect).threadCount = s.threadCount := by
  fun_cases apply s thread effect
  all_goals first
    | (rw [addResult_eq]; simp only [log, finishNode, removeNode, setNode, setContext, and_self])
    | (simp only [log, unlinkWaiter, completeWaiter, setNode, and_self]; done)
    | exact ⟨rfl, rfl, rfl, rfl⟩

@[simp] theorem apply_threads : (s.apply thread effect).threads = s.threads :=
  (s.apply_fixed thread effect).1

@[simp] theorem apply_mutex : (s.apply thread effect).mutex = s.mutex :=
  (s.apply_fixed thread effect).2.1

@[simp] theorem apply_capacity : (s.apply thread effect).capacity = s.capacity :=
  (s.apply_fixed thread effect).2.2.1

@[simp] theorem apply_threadCount : (s.apply thread effect).threadCount = s.threadCount :=
  (s.apply_fixed thread effect).2.2.2

theorem apply_borrowed (other : effect.onBorrowed = false) :
    (s.apply thread effect).borrowed = s.borrowed ∧
      (s.apply thread effect).borrowedCount = s.borrowedCount := by
  revert other
  fun_cases apply s thread effect
  all_goals intro other
  all_goals first
    | (simp only [log, unlinkWaiter, completeWaiter, setNode, and_self]; done)
    | cases other; done
    | exact ⟨rfl, rfl⟩

theorem apply_reserved (other : effect.onReserved = false) :
    (s.apply thread effect).reserved = s.reserved ∧
      (s.apply thread effect).reservedTokens = s.reservedTokens := by
  revert other
  fun_cases apply s thread effect
  all_goals intro other
  all_goals first
    | (rw [addResult_eq]; simp only [log, finishNode, removeNode, setNode, setContext, and_self])
    | (simp only [log, unlinkWaiter, completeWaiter, setNode, and_self]; done)
    | cases other; done
    | exact ⟨rfl, rfl⟩

theorem hand_borrowed (waiter : Nat) :
    (s.apply thread (.hand waiter)).borrowed = (s.addResult waiter).borrowed ∧
      (s.apply thread (.hand waiter)).borrowedCount = (s.addResult waiter).borrowedCount := by
  simp [apply, log, finishNode, setNode]

theorem deliver_borrowed (waiter : Nat) :
    (s.apply thread (.deliver waiter)).borrowed = (s.addResult waiter).borrowed ∧
      (s.apply thread (.deliver waiter)).borrowedCount = (s.addResult waiter).borrowedCount := by
  simp [apply, log, finishNode, removeNode, setNode, setContext]

end Untouched

end State

end Menagerie.Starling.Pool
