import Menagerie.Library.Transition
import Mathlib.Data.List.Nodup

/-!
# Data of the PostgreSQL connection pool

`ConnectionPool` keeps its connection holders, the deque of free ones, one queue of sync and async
waiters and the number of connections created. Every region executed under `mtx_` is one step, so
the mutex itself does not appear. Holders and acquire calls are numbered in the order of their
creation.
-/

namespace Menagerie.Elephant.Pool

/-- `PoolConfig` as `validate` accepts it. -/
structure PoolConfig where
  capacity : Nat
  minConnections : Nat
  /-- "Pool capacity must be greater than 0". -/
  positive : 0 < capacity
  /-- "min_connections cannot exceed capacity". -/
  bounded : minConnections ≤ capacity

/-- The acquire variants. -/
inductive Mode
  | tryAcquire
  | acquireFor
  | acquire
  | async (bounded : Bool)
  deriving DecidableEq, Repr

/-- The call completes through a posted handler. -/
def Mode.isAsync : Mode → Bool
  | .async _ => true
  | .tryAcquire | .acquireFor | .acquire => false

/-- An acquire call. -/
structure Call where
  mode : Mode := .tryAcquire
  assigned : Option Nat := none
  ready : Bool := false
  claimed : Bool := false
  timerArmed : Bool := false
  deriving DecidableEq, Repr

/-- What an acquire call gives its caller. -/
inductive Outcome
  | holder (holder : Nat)
  | empty
  | timedOut
  | aborted
  deriving DecidableEq, Repr

/-- The next region that a thread executes. -/
inductive Frame
  | ready
  | enter (call : Nat)
  | locked (call : Nat)
  | create (call : Nat)
  | relock (call : Nat) (holder : Option Nat)
  | waiting (call : Nat)
  | post (call : Nat) (outcome : Outcome)
  | returnHolder (holder : Nat)
  | dropDead (holder : Nat)
  | timeout (call : Nat)
  | shutdown
  | drain
  | abort (calls : List Nat)
  deriving DecidableEq, Repr

/-- History of the pool. -/
inductive Event
  | enqueued (call : Nat)
  | served (call holder : Nat)
  /-- The call obtained a holder; `late` after the region of `shutdown`. -/
  | obtained (late : Bool) (call holder : Nat)
  | completed (call : Nat) (outcome : Outcome)
  deriving DecidableEq, Repr

/-- The pool, its callers and the executors. -/
structure State where
  capacity : Nat
  holders : List Nat := []
  free : List Nat := []
  waiters : List Nat := []
  created : Nat := 0
  shutdown : Bool := false
  calls : Nat → Call := fun _ => {}
  callCount : Nat := 0
  holderCount : Nat := 0
  executor : Nat → Option Outcome := fun _ => none
  borrows : Nat → Option Nat := fun _ => none
  threads : Nat → Frame := fun _ => .ready
  threadCount : Nat
  /-- History: the region of `shutdown` has been executed. -/
  drained : Bool := false
  history : List Event := []

/-- One iteration of the constructor: `try_create_holder` succeeds. -/
def State.grow (s : State) : State :=
  { s with
    created := s.created + 1
    free := s.free ++ [s.holderCount]
    holders := s.holders ++ [s.holderCount]
    holderCount := s.holderCount + 1 }

/-- The constructor; every attempt to create a connection may fail. -/
def State.initial (config : PoolConfig) (attempts : List Bool) (threadCount : Nat) : State :=
  attempts.foldl (fun s succeeds => if succeeds then s.grow else s)
    { capacity := config.capacity, threadCount }

end Menagerie.Elephant.Pool
