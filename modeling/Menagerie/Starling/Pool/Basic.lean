import Menagerie.Library.Transition
import Mathlib.Algebra.Ring.Int.Defs
import Mathlib.Algebra.Ring.Nat

/-!
# Data model of the starling pool

`Pool<T>` keeps its inventory in two lists under a mutex (`vacant_`, `quarantined_`), in a
bitmap of idle slots that is read and written without it (`words_`), in the tokens of its
callers and in the waiters it has assigned a slot to. This module holds the data of the pool
and of its surroundings: the waiter nodes, the token objects, the execution contexts of the
coroutines, the clock, and the program point of every thread.

Slot indices, threads, waiter nodes, token objects and contexts are numbers. A node or token
number is never reused; the C++ objects it stands for live at distinct addresses while anyone
can still name them.
-/

namespace Menagerie.Starling.Pool

/-- `bits_per_word`. -/
def bitsPerWord : Nat := 64

/-- `std::chrono::steady_clock::time_point::max()`. -/
def timePointMax : Int := 2 ^ 63 - 1

/-- `Pool<T>::SlotState`. -/
inductive SlotState
  | vacant
  | reserved
  | idle
  | borrowed
  | quarantined
  deriving DecidableEq, Repr

/-- `starling::AcquireError`. -/
inductive AcquireError
  | exhausted
  | timeout
  | cancelled
  | shutdown
  deriving DecidableEq, Repr

/-- `pool_waiters::WaiterKind`. -/
inductive WaiterKind
  | sync
  | async
  deriving DecidableEq, Repr

/-- `pool_waiters::WaiterState`. -/
inductive WaiterState
  | queued
  | assigned
  | timeout
  | cancelled
  | shutdown
  deriving DecidableEq, Repr

/-- How a waiter ends without a slot. -/
inductive Rejection
  | timeout
  | cancelled
  | shutdown
  deriving DecidableEq, Repr

/-- The state of a rejected waiter. -/
def Rejection.state : Rejection → WaiterState
  | .timeout => .timeout
  | .cancelled => .cancelled
  | .shutdown => .shutdown

@[simp] theorem Rejection.state_ne_queued (rejection : Rejection) :
    rejection.state ≠ .queued := by
  cases rejection <;> decide

@[simp] theorem Rejection.state_ne_assigned (rejection : Rejection) :
    rejection.state ≠ .assigned := by
  cases rejection <;> decide

/-- A `SyncWaiter` on a stack or an `AsyncWaiter` on the heap. -/
structure WaiterNode where
  kind : WaiterKind := .sync
  state : WaiterState := .queued
  deadline : Int := timePointMax
  /-- `assigned_slot`, once `state` is `assigned`. -/
  assignedSlot : Nat := 2 ^ 64 - 1
  context : Nat := 0
  /-- `handler.has_value()`, or the frame of a sync waiter. -/
  pending : Bool := false
  cancellable : Bool := false
  timerArmed : Bool := false
  posted : Nat := 0
  notifier : Option Nat := none
  /-- History: the call began after `shutdown()` had returned. -/
  late : Bool := false

/-- The waiter has a deadline. -/
def WaiterNode.bounded (node : WaiterNode) : Bool := node.deadline ≠ timePointMax

/-- `AsyncWaiter::result`, as in the sync `acquire`; `none` is `std::unreachable`. -/
def WaiterNode.result (node : WaiterNode) : Option (Except AcquireError Nat) :=
  match node.state with
  | .assigned => some (.ok node.assignedSlot)
  | .timeout => some (.error .timeout)
  | .cancelled => some (.error .cancelled)
  | .shutdown => some (.error .shutdown)
  | .queued => none

/-- The slot that an assigned waiter holds for its caller. -/
def WaiterNode.slot (node : WaiterNode) : Option Nat :=
  if node.pending ∧ node.state = .assigned then some node.assignedSlot else none

/-- A token object: not constructed, moved from, inside a member function, or owning. -/
inductive Handle (α : Type)
  | absent
  | empty
  | busy
  | live (value : α)
  deriving DecidableEq, Repr

/-- No member function runs on the object. -/
def Handle.settled {α : Type} : Handle α → Bool
  | .empty | .live _ => true
  | .absent | .busy => false

/-- `PoolReservedSlot`: its slot, and whether the object is constructed. -/
structure ReservedSlot where
  index : Nat
  constructed : Bool
  deriving DecidableEq, Repr

/-- `AsyncWaiterContext`, the registry of one execution context. -/
structure Context where
  mutex : Option Nat := none
  waiters : List Nat := []
  stopping : Bool := false

/-- What is asked for. -/
structure Request where
  kind : WaiterKind
  context : Nat
  deadline : Int
  deriving DecidableEq, Repr

/-- What a call returns. -/
inductive Outcome
  | borrowed (token : Nat)
  | reserved (token : Nat)
  | error (error : AcquireError)
  | nothing
  | published (accepted : Bool)
  | thrown
  deriving DecidableEq, Repr

/-- Where a routine that disposes of a slot returns to. -/
inductive Return
  | toCaller (outcome : Outcome)
  | released (token : Nat)
  | moveAssigned (token source : Nat)
  | published (token : Nat)
  /-- The initiation of an async acquire goes on to post its completion. -/
  | post (waiter : Nat)
  /-- `AsyncWaiterContext::shutdown` goes on with the remaining waiters. -/
  | abandon (context : Nat) (rest : List Nat)
  deriving DecidableEq, Repr

/-- The caller of `claim_idle`; the last two hold the pool mutex. -/
inductive Scan
  | tryAcquire
  | acquire (request : Request)
  | takeIdle
  | register (request : Request) (waiter : Nat)
  | serve (after : Return)
  deriving DecidableEq, Repr

/-- How the selector of a waiter goes on after the notification. -/
inductive Selected
  /-- `handoff_or_publish_locked` timed the waiter out and keeps its slot. -/
  | retry (index : Nat) (serving : Bool) (after : Return)
  | served (serving : Bool) (after : Return)
  | drain
  | done
  deriving DecidableEq, Repr

/-- The next atomic operation or critical section of a thread. -/
inductive Frame
  | ready
  /-- `try_acquire`: first load of `closed_`. -/
  | tryAcquire
  /-- `try_acquire`: nothing idle, `closed_` decides the error. -/
  | tryAcquireEmpty
  /-- `try_acquire`: slot claimed, second load of `closed_`. -/
  | tryAcquireClaimed (index : Nat)
  /-- `claim_idle`: load of word `word`. -/
  | claimLoad (scan : Scan) (word : Nat)
  /-- `claim_idle`: compare-exchange of word `word` expecting `bits`. -/
  | claimSwap (scan : Scan) (word : Nat) (bits : { bits : BitVec 64 // bits ≠ 0 })
  /-- Critical section that quarantines an owned slot. -/
  | quarantine (index : Nat) (after : Return)
  /-- The caller is about to receive a `Borrowed`. -/
  | yield (index : Nat)
  /-- `acquire`: first load of `closed_`. -/
  | acquire (request : Request)
  /-- `acquire`: first clock reading. -/
  | acquireExpired (request : Request)
  /-- `acquire`: slot claimed without the mutex, load of `closed_`. -/
  | acquireClaimed (request : Request) (index : Nat)
  /-- `acquire`: slot claimed without the mutex, clock reading. -/
  | acquireClaimedExpired (request : Request) (index : Nat)
  /-- `acquire`: construction of the waiter. -/
  | allocate (request : Request)
  /-- `AsyncWaiterContext::add`. -/
  | enroll (request : Request) (waiter : Nat)
  /-- `acquire`: lock, then the checks before parking. -/
  | register (request : Request) (waiter : Nat)
  /-- `acquire`, mutex held: `waiter_gate_.fetch_add`. -/
  | raiseGate (request : Request) (waiter : Nat)
  /-- `acquire`, mutex held: slot found by the strong scan, `waiter_gate_.fetch_sub`. -/
  | lowerGate (request : Request) (waiter : Nat) (index : Nat)
  /-- `acquire`, mutex held: clock reading after the strong scan. -/
  | registerClaimed (request : Request) (waiter : Nat) (index : Nat)
  /-- `acquire`, mutex held: link the waiter and release the mutex. -/
  | park (request : Request) (waiter : Nat)
  /-- Sync `acquire`: inside `cv.wait` or `cv.wait_until`. -/
  | parked (waiter : Nat)
  /-- Sync `acquire`: past the wait, at the notification mutex. -/
  | notified (waiter : Nat)
  /-- Async initiation: arming the timer threw, cleanup. -/
  | initiationFailed (waiter : Nat)
  /-- Async initiation: `post_completion_impl<true>`. -/
  | postInitiation (waiter : Nat)
  /-- Async initiation: scheduling threw, cleanup and rollback. -/
  | initiationCaught (waiter : Nat)
  /-- `try_take_idle`: load of `closed_`. -/
  | takeIdle
  /-- `try_take_idle`: load of `waiter_gate_`. -/
  | takeIdleGate
  /-- `try_take_idle`: critical section after the claim. -/
  | takeIdleClaimed (index : Nat)
  /-- `try_reserve`: critical section. -/
  | tryReserve
  /-- `try_take_quarantined`: critical section. -/
  | tryTakeQuarantined
  /-- `handoff_or_publish`: first load of `closed_`. -/
  | giveBack (index : Nat) (after : Return)
  /-- `handoff_or_publish`: first load of `waiter_gate_`. -/
  | giveBackGate (index : Nat) (after : Return)
  /-- `handoff_or_publish`: lock-free `publish_bit`. -/
  | publishIdle (index : Nat) (after : Return)
  /-- `handoff_or_publish`: load of `closed_` after the publication. -/
  | recheckClosed (index : Nat) (after : Return)
  /-- `reclaim_idle`: load of the word. -/
  | reclaimLoad (index : Nat) (after : Return)
  /-- `reclaim_idle`: compare-exchange expecting `bits`. -/
  | reclaimSwap (index : Nat)
      (bits : { bits : BitVec 64 // bits.getLsbD (index % bitsPerWord) = true }) (after : Return)
  /-- `handoff_or_publish`: load of `waiter_gate_` after the publication. -/
  | recheckGate (after : Return)
  /-- `serve_waiters_locked`: (re)lock unless held, then the loop condition. -/
  | serve (held : Bool) (after : Return)
  /-- `handoff_or_publish_locked`: (re)lock unless held, then one iteration. -/
  | handoff (held : Bool) (index : Nat) (serving : Bool) (after : Return)
  /-- `complete_waiter_locked` after the unlock: notify, or submit the completion. -/
  | notify (waiter : Nat) (next : Selected)
  /-- A routine has finished and returns into its caller. -/
  | leave (after : Return)
  /-- `PoolReservedSlot::publish`: lock and the check of `closed_`. -/
  | publish (token : Nat)
  /-- `PoolReservedSlot::rollback`, then for a move-assignment the take-over. -/
  | rollback (token : Nat) (source : Option Nat)
  /-- `PoolReservedSlot::operator=`: take over the source object. -/
  | assignReserved (token source : Nat)
  /-- `shutdown`: lock and `closed_.exchange`. -/
  | shutdown
  /-- `shutdown`, mutex held: exchange of word `word`. -/
  | sweep (word : Nat)
  /-- `shutdown`: relock unless held, then the waiter loop. -/
  | drain (held : Bool)
  /-- `AsyncWaiter::select`. -/
  | select (waiter : Nat) (terminal : Rejection)
  /-- `AsyncWaiterContext::shutdown`: lock, set `stopping_`, take the list. -/
  | stopContext (context : Nat)
  /-- `AsyncWaiterContext::shutdown`, registry mutex held: `prepare_abandon` of each waiter. -/
  | unlinkAbandoned (context : Nat) (prepared todo : List Nat)
  /-- `AsyncWaiterContext::shutdown`: `abandon` of each waiter. -/
  | abandonAll (context : Nat) (rest : List Nat)
  deriving DecidableEq, Repr

/-- History of what callers and waiters observe. -/
inductive Event
  | registered (waiter : Nat)
  | selected (waiter : Nat) (state : WaiterState)
  | handed (waiter token : Nat)
  /-- The slot of an assigned waiter became a `Borrowed` that is destroyed at once. -/
  | givenBack (waiter index : Nat)
  /-- A call returned; `late` when it began after `shutdown()` had returned. -/
  | returned (late : Bool) (outcome : Outcome)
  deriving DecidableEq, Repr

/-- The pool, its callers and their surroundings. -/
structure State where
  capacity : Nat
  states : Nat → SlotState := fun _ => .vacant
  vacant : List Nat
  quarantined : List Nat := []
  words : Nat → BitVec 64 := fun _ => 0
  mutex : Option Nat := none
  waiters : List Nat := []
  waiterGate : Nat := 0
  usableSize : Nat := 0
  reservedCount : Nat := 0
  closed : Bool := false
  nodes : Nat → WaiterNode := fun _ => {}
  nodeCount : Nat := 0
  borrowed : Nat → Handle Nat := fun _ => .absent
  borrowedCount : Nat := 0
  reserved : Nat → Handle ReservedSlot := fun _ => .absent
  reservedTokens : Nat := 0
  contexts : Nat → Context := fun _ => {}
  clock : Int := 0
  threads : Nat → Frame := fun _ => .ready
  threadCount : Nat
  /-- History: the call began after `shutdown()` had returned. -/
  late : Nat → Bool := fun _ => false
  /-- History: some `shutdown()` call has returned. -/
  shutdownReturned : Bool := false
  history : List Event := []

namespace State

/-- `words_.size()`. -/
def wordCount (s : State) : Nat :=
  s.capacity / bitsPerWord + (if s.capacity % bitsPerWord = 0 then 0 else 1)

/-- The idle bit of a slot. -/
def idle (s : State) (index : Nat) : Bool :=
  (s.words (index / bitsPerWord)).getLsbD (index % bitsPerWord)

/-- How many bits are set. -/
def idleCount (s : State) : Nat :=
  ((List.range s.wordCount).map (fun word => (s.words word).cpopNatRec 64 0)).sum

/-- `expired()` for an absolute deadline. -/
def expired (s : State) (deadline : Int) : Bool :=
  deadline ≠ timePointMax ∧ deadline ≤ s.clock

end State

/-- `Pool(capacity)`, which fills `vacant_` with slot 0 at the back. -/
def State.initial (capacity threadCount : Nat) : State where
  capacity
  vacant := (List.range capacity).reverse
  threadCount

end Menagerie.Starling.Pool
