import Menagerie.Elephant.Pool.Program
import Menagerie.Elephant.Session.Server

/-!
# Sessions, executors and transactions

Executors and transactions hold a `weak_ptr` to the holder that a pool call has borrowed and a copy
of its `PGconn*`. Their destructors and move assignments give the holder back with `reset()`, which
runs the cleanup SQL and then goes on in the pool. The pool is the one of `Elephant.Pool`, with all
its threads; `reset()` is started here and by nothing else. An `AutoTransaction` forwards to the
`Transaction` inside it and is the same object.
-/

namespace Menagerie.Elephant.Session

open Elephant Function

/-- `TransactionStatus`. -/
inductive TransactionStatus
  | idle
  | active
  | committed
  | rolledBack
  | failed
  deriving DecidableEq, Repr

/-- The classes whose objects refer to a connection. -/
inductive Kind
  | syncExecutor
  | asyncExecutor
  | transaction (status : TransactionStatus)
  | savepoint (name : String) (active : Bool)
  deriving DecidableEq, Repr

/-- Two objects have the same class. -/
def Kind.alike : Kind → Kind → Bool
  | .syncExecutor, .syncExecutor | .asyncExecutor, .asyncExecutor
  | .transaction _, .transaction _ | .savepoint _ _, .savepoint _ _ => true
  | _, _ => false

/-- What a move leaves behind. -/
def Kind.moved : Kind → Kind
  | .transaction _ => .transaction .failed
  | .savepoint name _ => .savepoint name false
  | .syncExecutor => .syncExecutor
  | .asyncExecutor => .asyncExecutor

/-- One executor, transaction or savepoint. -/
structure Object where
  kind : Kind
  /-- `holder_`, by its acquire call. -/
  call : Option Nat
  /-- `conn_`, by the number of its holder. -/
  conn : Option Nat
  deriving DecidableEq, Repr

/-- The SQL that `reset()` runs. -/
inductive Cleanup
  | statement
  | discardAll
  | rollback
  deriving DecidableEq, Repr

def Cleanup.command : Cleanup → Command
  | .statement => .statement
  | .discardAll => .discardAll
  | .rollback => .rollback

/-- The pool, the connections and the objects of the callers. -/
structure State where
  pool : Pool.State
  /-- `pool_config().cleanup_sql()`; `none` when it is empty. -/
  fallback : Option Cleanup
  backends : Nat → Backend := fun _ => {}
  cleanups : Nat → Option Cleanup := fun _ => none
  objects : Nat → Option Object := fun _ => none
  objectCount : Nat := 0
  /-- History: the borrow of the call has been passed to a constructor. -/
  passed : Nat → Bool := fun _ => false
  /-- History: calls of `reset()` for the borrow of the call. -/
  resets : Nat → Nat := fun _ => 0

namespace State

/-- Replace one object. -/
def setObject (s : State) (index : Nat) (object : Option Object) : State :=
  { s with objects := update s.objects index object }

/-- Construct an object. -/
def addObject (s : State) (object : Object) : State :=
  { s.setObject s.objectCount (some object) with objectCount := s.objectCount + 1 }

/-- Replace one connection. -/
def setBackend (s : State) (holder : Nat) (backend : Backend) : State :=
  { s with backends := update s.backends holder backend }

/-- `holder_.lock()`: the call and its holder, while the pool owns it. -/
def lock (s : State) (object : Object) : Option (Nat × Nat) :=
  match object.call with
  | some call =>
    match s.pool.borrows call with
    | some holder => if holder ∈ s.pool.holders then some (call, holder) else none
    | none => none
  | none => none

/-- The connection of an object, while its holder is borrowed. -/
def connection (s : State) (object : Object) : Option Nat :=
  match object.conn with
  | some holder =>
    if (List.range s.objectCount).any (fun index =>
        ((s.objects index).bind s.lock).any (fun borrow => borrow.2 = holder)) then some holder
    else none
  | none => none

/-- `run_cleanup_sql`: whether the connection may go back, and the connection. -/
def runCleanupSql (s : State) (holder : Nat) (reply : Reply) : Bool × Backend :=
  if (s.backends holder).alive then
    match (s.cleanups holder).or s.fallback with
    | none => (true, s.backends holder)
    | some sql => (s.backends holder).exec sql.command reply
  else (false, s.backends holder)

/-- `QueuedHolder::reset()`: the cleanup, then `return_holder` or `drop_dead`. -/
def reset (s : State) (thread call holder : Nat) (reply : Reply) : State :=
  { s with
    pool := s.pool.perform thread (.reclaim call,
      if (s.runCleanupSql holder reply).1 then .returnHolder holder else .dropDead holder)
    backends := update s.backends holder (s.runCleanupSql holder reply).2
    cleanups := update s.cleanups holder none
    resets := update s.resets call (s.resets call + 1) }

/-- Give back the holder of an object, if it can be locked. -/
def release (s : State) (thread : Nat) (object : Object) (reply : Reply) : Option State :=
  match s.lock object with
  | some (call, holder) =>
    if thread < s.pool.threadCount ∧ s.pool.threads thread = .ready then
      some (s.reset thread call holder reply)
    else none
  | none => some s

/-- A command on the connection of an object: its success, and the state. -/
def control (s : State) (object : Object) (command : Command) (reply : Reply) : Bool × State :=
  match s.connection object with
  | some holder =>
    (((s.backends holder).exec command reply).1,
      s.setBackend holder ((s.backends holder).exec command reply).2)
  | none => (false, s)

end State

/-- `is_valid_identifier`. -/
def isValidIdentifier (name : String) : Bool :=
  match name.toList with
  | [] => false
  | first :: rest =>
    decide (rest.length < 63) && (first.isAlpha || first = '_') &&
      (first :: rest).all (fun c => c.isAlphanum || c = '_')

/-- The acquire variants from which `Session` constructs an object. -/
def Kind.fits : Kind → Pool.Mode → Bool
  | .syncExecutor, mode | .transaction .idle, mode => !mode.isAsync
  | .asyncExecutor, .tryAcquire | .asyncExecutor, .async _ => true
  | _, _ => false

/-- One label of the interleaving. -/
inductive Action
  | pool (action : Pool.Action)
  /-- `Session` constructs an object over a borrowed holder; `setup_connection` succeeds if
  `usable`. -/
  | construct (kind : Kind) (call : Nat) (usable : Bool)
  | moveConstruct (source : Nat)
  | moveAssign (thread target source : Nat) (reply : Reply)
  | destroy (thread object : Nat) (safety reply : Reply)
  | execute (object : Nat) (copy : Option Direction) (reply : Reply)
  | begin (object : Nat) (reply : Reply)
  | commit (object : Nat) (reply : Reply)
  | rollback (object : Nat) (reply : Reply)
  | withSync (object : Nat)
  | withAsync (object : Nat) (usable : Bool)
  | savepoint (object : Nat) (name : String) (reply : Reply)
  | rollbackTo (object : Nat) (reply : Reply)
  | releaseSavepoint (object : Nat) (reply : Reply)
  | doCleanup (object : Nat) (query : Option Cleanup)
  | die (holder : Nat)
  deriving DecidableEq, Repr

/-- A call borrows the only connection. -/
def borrowing : List Action := (Pool.turns 0 (.acquire .tryAcquire) 4).map .pool

namespace State

/-- A function of `Session`, once it has a holder. -/
def construct (s : State) (kind : Kind) (call : Nat) (usable : Bool) : Option State :=
  match s.pool.borrows call with
  | some holder =>
    if kind.fits (s.pool.calls call).mode ∧ s.passed call = false then
      let passed := { s with passed := update s.passed call true }
      -- `holder.expired()`
      if holder ∉ s.pool.holders then some passed
      else if kind = .asyncExecutor ∧ ((s.backends holder).alive && usable) = false then
        -- The constructor throws and its destructor does not run; `try_with_async` is `noexcept`.
        if (s.pool.calls call).mode.isAsync then some passed else none
      else some (passed.addObject ⟨kind, some call, some holder⟩)
    else none
  | none => none

/-- A moved object and the one it leaves behind. -/
def moveConstruct (s : State) (source : Nat) : Option State :=
  (s.objects source).map fun object =>
    (s.setObject source (some ⟨object.kind.moved, none, none⟩)).addObject object

/-- `operator=`: the target gives its holder back and takes the source's. -/
def moveAssign (s : State) (thread target source : Nat) (reply : Reply) : Option State :=
  match s.objects target, s.objects source with
  | some old, some new =>
    if old.kind.alike new.kind = false then none
    else if target = source then some s
    else
      let taken (s : State) : State :=
        (s.setObject target (some new)).setObject source (some ⟨new.kind.moved, none, none⟩)
      match old.kind with
      | .savepoint name true => some (taken (s.control old (.release name) reply).2)
      | .savepoint _ false => some (taken s)
      | .syncExecutor | .asyncExecutor | .transaction _ => (s.release thread old reply).map taken
  | _, _ => none

/-- `~Transaction`: the `ROLLBACK` of an active transaction with a live holder. -/
def safetyNet (s : State) (object : Object) (status : TransactionStatus) (safety : Reply) : State :=
  match s.lock object with
  | some (_, holder) =>
    if status = .active then s.setBackend holder ((s.backends holder).exec .rollback safety).2
    else s
  | none => s

/-- The destructors. -/
def destroy (s : State) (thread index : Nat) (safety reply : Reply) : Option State :=
  (s.objects index).bind fun object =>
    match object.kind with
    | .syncExecutor | .asyncExecutor =>
      (s.release thread object reply).map fun released => released.setObject index none
    | .transaction status =>
      ((s.safetyNet object status safety).release thread object reply).map fun released =>
        released.setObject index none
    | .savepoint name active =>
      let released := if active then (s.control object (.release name) reply).2 else s
      some (released.setObject index none)

/-- `execute`. -/
def execute (s : State) (index : Nat) (copy : Option Direction) (reply : Reply) : Option State :=
  (s.objects index).bind fun object =>
    match object.kind with
    | .syncExecutor =>
      some (s.control object (copy.elim .statement .copy) reply).2
    | .asyncExecutor =>
      -- `collect_single_result` does not return from a `COPY`.
      if copy.isSome then none
      else match s.connection object with
        | some holder =>
          some (s.setBackend holder ((s.backends holder).send .statement reply).2)
        | none => some s
    | .transaction _ | .savepoint _ _ => none

/-- A control command: the status it needs, and those after success and failure. -/
def transact (s : State) (index : Nat) (needed success : TransactionStatus) (command : Command)
    (reply : Reply) : Option State :=
  (s.objects index).bind fun object =>
    match object.kind with
    | .transaction status =>
      if status = needed then
        let outcome := s.control object command reply
        some (outcome.2.setObject index
          (some { object with kind := .transaction (if outcome.1 then success else .failed) }))
      else some s
    | .syncExecutor | .asyncExecutor | .savepoint _ _ => none

/-- `Transaction::begin`. -/
def begin (s : State) (index : Nat) (reply : Reply) : Option State :=
  s.transact index .idle .active .begin reply

/-- `Transaction::commit`. -/
def commit (s : State) (index : Nat) (reply : Reply) : Option State :=
  s.transact index .active .committed .commit reply

/-- `Transaction::rollback`. -/
def rollback (s : State) (index : Nat) (reply : Reply) : Option State :=
  s.transact index .active .rolledBack .rollback reply

/-- `Transaction::with_sync` and `with_async`: an executor on the raw connection. -/
def lend (s : State) (index : Nat) (kind : Kind) : Option State :=
  (s.objects index).bind fun object =>
    match object.kind with
    | .transaction .active => some (s.addObject ⟨kind, none, object.conn⟩)
    | .transaction _ => some s
    | .syncExecutor | .asyncExecutor | .savepoint _ _ => none

/-- `Transaction::with_async`; throws when the connection cannot be set up. -/
def withAsync (s : State) (index : Nat) (usable : Bool) : Option State :=
  if usable then s.lend index .asyncExecutor else (s.objects index).map fun _ => s

/-- `savepoint`. -/
def savepoint (s : State) (index : Nat) (name : String) (reply : Reply) : Option State :=
  (s.objects index).bind fun object =>
    match object.kind with
    | .transaction .active =>
      if isValidIdentifier name then
        let outcome := s.control object (.savepoint name) reply
        some (if outcome.1 then outcome.2.addObject ⟨.savepoint name true, none, object.conn⟩
          else outcome.2)
      else some s
    | .transaction _ => some s
    | .syncExecutor | .asyncExecutor | .savepoint _ _ => none

/-- `Savepoint::rollback`. -/
def rollbackTo (s : State) (index : Nat) (reply : Reply) : Option State :=
  (s.objects index).bind fun object =>
    match object.kind with
    | .savepoint name true => some (s.control object (.rollbackTo name) reply).2
    | .savepoint _ false => some s
    | .syncExecutor | .asyncExecutor | .transaction _ => none

/-- `Savepoint::release`. -/
def releaseSavepoint (s : State) (index : Nat) (reply : Reply) : Option State :=
  (s.objects index).bind fun object =>
    match object.kind with
    | .savepoint name true =>
      let outcome := s.control object (.release name) reply
      some (if outcome.1 then
          outcome.2.setObject index (some { object with kind := .savepoint name false })
        else outcome.2)
    | .savepoint _ false => some s
    | .syncExecutor | .asyncExecutor | .transaction _ => none

/-- `do_cleanup`. -/
def doCleanup (s : State) (index : Nat) (query : Option Cleanup) : Option State :=
  (s.objects index).bind fun object =>
    match s.lock object with
    | some (_, holder) => some { s with cleanups := update s.cleanups holder query }
    | none => some s

end State

def starts : Pool.Action → Bool
  | .begin _ (.reset _ _) => true
  | _ => false

/-- One step of the interleaving. -/
def step (s : State) : Action → Option State
  | .pool action =>
    if starts action then none
    else (Pool.step s.pool action).map fun pool => { s with pool }
  | .construct kind call usable => s.construct kind call usable
  | .moveConstruct source => s.moveConstruct source
  | .moveAssign thread target source reply => s.moveAssign thread target source reply
  | .destroy thread object safety reply => s.destroy thread object safety reply
  | .execute object copy reply => s.execute object copy reply
  | .begin object reply => s.begin object reply
  | .commit object reply => s.commit object reply
  | .rollback object reply => s.rollback object reply
  | .withSync object => s.lend object .syncExecutor
  | .withAsync object usable => s.withAsync object usable
  | .savepoint object name reply => s.savepoint object name reply
  | .rollbackTo object reply => s.rollbackTo object reply
  | .releaseSavepoint object reply => s.releaseSavepoint object reply
  | .doCleanup object query => s.doCleanup object query
  | .die holder =>
    if holder < s.pool.holderCount then
      some (s.setBackend holder (s.backends holder).die)
    else none

/-- A session over a pool. -/
def system (config : Pool.PoolConfig) (fallback : Option Cleanup) :
    Transition.System State Action where
  initial s := ∃ pool, (Pool.system config).initial pool ∧ s = { pool, fallback }
  step := step

end Menagerie.Elephant.Session
