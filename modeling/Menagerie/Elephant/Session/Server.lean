import Mathlib.Logic.Basic
import Mathlib.Tactic.SplitIfs

/-!
# A PostgreSQL backend behind libpq

A backend is idle, in a transaction block or in a failed one. What the server decides about a
command, and where a call of libpq fails, is chosen by the environment. A command that has been
sent and whose result has not been collected is in progress; its effect on the block is fixed when
it is sent. Of libpq it is assumed that `PQexec` reads until the server is ready for the next
command, also where it cannot keep the result: what it loses is not in progress. `PQsendQuery`
leaves the reading to its caller.
-/

namespace Menagerie.Elephant.Session

/-- The transaction block. -/
inductive Block
  | idle
  | inTransaction
  | failedTransaction
  deriving DecidableEq, Repr

/-- How a transaction block has ended. -/
inductive Ending
  | committed
  | rolledBack
  deriving DecidableEq, Repr

/-- Who gives the data of a `COPY`. -/
inductive Direction
  | fromClient
  | toClient
  deriving DecidableEq, Repr

/-- What the client has not collected yet. -/
inductive Progress
  | none
  | command
  | copy (direction : Direction)
  deriving DecidableEq, Repr

/-- A connection to the server. -/
structure Backend where
  alive : Bool := true
  block : Block := .idle
  savepoints : List String := []
  progress : Progress := .none
  /-- How the last block has ended; `none` while a block is open. -/
  ended : Option Ending := none
  deriving DecidableEq, Repr

/-- The commands that the library and its callers send. -/
inductive Command
  | begin
  | commit
  | rollback
  | savepoint (name : String)
  | rollbackTo (name : String)
  | release (name : String)
  | statement
  | copy (direction : Direction)
  | discardAll
  deriving DecidableEq, Repr

/-- The command opens or ends a transaction block. -/
def Command.control : Command → Bool
  | .begin | .commit | .rollback => true
  | .savepoint _ | .rollbackTo _ | .release _ | .statement | .copy _ | .discardAll => false

/-- Where a call of libpq fails. -/
inductive Fault
  | none
  | unsent
  /-- After the command has been sent, with the connection still up. -/
  | lost
  | died
  deriving DecidableEq, Repr

/-- What the environment decides about one command. -/
structure Reply where
  accepted : Bool := true
  fault : Fault := .none
  deriving DecidableEq, Repr

namespace Backend

/-- An error of the server: a block fails. -/
def fail (b : Backend) : Backend :=
  match b.block with
  | .idle => b
  | .inTransaction | .failedTransaction => { b with block := .failedTransaction }

def close (b : Backend) (ending : Ending) : Backend :=
  { b with block := .idle, savepoints := [], ended := some ending }

/-- The connection is lost, and the server aborts. -/
def die (b : Backend) : Backend :=
  { b with alive := false, block := .idle, savepoints := [], progress := .none }

/-- Refused in a failed block, and possibly anywhere. -/
def ordinary (b : Backend) (accepted : Bool) (change : Backend → Backend) : Bool × Backend :=
  if b.block = .failedTransaction ∨ accepted = false then (false, b.fail) else (true, change b)

/-- The server executes a command: its success, and the backend. -/
def process (b : Backend) (accepted : Bool) : Command → Bool × Backend
  | .begin =>
    match b.block with
    | .idle =>
      if accepted then
        (true, { b with block := .inTransaction, savepoints := [], ended := none })
      else (false, b)
    | .inTransaction => (true, b)
    | .failedTransaction => (false, b)
  | .commit =>
    match b.block with
    | .idle => (true, b)
    | .inTransaction =>
      if accepted then (true, b.close .committed) else (false, b.close .rolledBack)
    -- The command tag is ROLLBACK, the status is that of a success.
    | .failedTransaction => (true, b.close .rolledBack)
  | .rollback =>
    match b.block with
    | .idle => (true, b)
    | .inTransaction | .failedTransaction => (true, b.close .rolledBack)
  | .savepoint name =>
    match b.block with
    | .idle => (false, b)
    | .inTransaction | .failedTransaction =>
      b.ordinary accepted (fun b => { b with savepoints := name :: b.savepoints })
  | .rollbackTo name =>
    match b.block with
    | .idle => (false, b)
    | .inTransaction | .failedTransaction =>
      if name ∈ b.savepoints then
        (true, { b with
          block := .inTransaction
          savepoints := b.savepoints.dropWhile (· ≠ name) })
      else (false, b.fail)
  | .release name =>
    match b.block with
    | .idle => (false, b)
    | .inTransaction | .failedTransaction =>
      if name ∈ b.savepoints then
        b.ordinary accepted
          (fun b => { b with savepoints := (b.savepoints.dropWhile (· ≠ name)).tail })
      else (false, b.fail)
  | .statement => b.ordinary accepted id
  | .copy direction => b.ordinary accepted (fun b => { b with progress := .copy direction })
  | .discardAll =>
    match b.block with
    | .idle => (accepted, b)
    | .inTransaction | .failedTransaction => (false, b.fail)

/-- `PQexec` first ends a `COPY` from the client with an error and drops the data of one to the
client. -/
def discard (b : Backend) : Backend :=
  match b.progress with
  | .none => b
  | .command | .copy .toClient => { b with progress := .none }
  | .copy .fromClient => { b with progress := .none }.fail

/-- `PQexec` and the check of its result; a lost result has been read. -/
def exec (b : Backend) (command : Command) (reply : Reply) : Bool × Backend :=
  if b.alive then
    match reply.fault with
    | .none => b.discard.process reply.accepted command
    | .unsent => (false, b)
    | .lost => (false, (b.discard.process reply.accepted command).2)
    | .died => (false, b.die)
  else (false, b)

/-- `AsyncExecutor::execute_impl`; a failure after the command was sent leaves it in progress. -/
def send (b : Backend) (command : Command) (reply : Reply) : Bool × Backend :=
  if b.alive = true ∧ b.progress = .none then
    match reply.fault with
    | .none => b.process reply.accepted command
    | .unsent => (false, b)
    | .lost => (false, { (b.process reply.accepted command).2 with progress := .command })
    | .died => (false, b.die)
  else (false, b)

/-- While the connection is up, nothing is in progress. -/
def Settled (b : Backend) : Prop := b.alive = true → b.progress = .none

/-- While up, the connection has no open transaction block and nothing in progress. -/
def Clean (b : Backend) : Prop := b.alive = true → b.block = .idle ∧ b.progress = .none

/-- While up, the connection has an open transaction block. -/
def Open (b : Backend) : Prop := b.alive = true → b.block ≠ .idle

section Lemmas

variable {b : Backend} {command : Command} {accepted : Bool} {reply : Reply}

theorem process_idle (free : command.control = false) :
    (b.process accepted command).2.block = .idle ↔ b.block = .idle := by
  cases command with
  | begin | commit | rollback => cases free
  | statement | copy direction | discardAll | savepoint name =>
    cases block : b.block <;> cases accepted <;> simp [process, ordinary, fail, block]
  | rollbackTo name | release name =>
    by_cases known : name ∈ b.savepoints <;> cases block : b.block <;> cases accepted <;>
      simp [process, ordinary, fail, block, known]

theorem process_progress (other : ∀ direction, command ≠ .copy direction) :
    (b.process accepted command).2.progress = b.progress := by
  cases command with
  | copy direction => exact absurd rfl (other direction)
  | rollbackTo name | release name =>
    by_cases known : name ∈ b.savepoints <;> cases block : b.block <;> cases accepted <;>
      simp [process, ordinary, fail, block, known]
  | _ => cases block : b.block <;> cases accepted <;> simp [process, ordinary, fail, close, block]

theorem discard_spec :
    (b.discard.block = .idle ↔ b.block = .idle) ∧ b.discard.progress = .none ∧
      b.discard.alive = b.alive := by
  unfold discard
  split
  · next settled => exact ⟨Iff.rfl, settled, rfl⟩
  · exact ⟨Iff.rfl, rfl, rfl⟩
  · exact ⟨Iff.rfl, rfl, rfl⟩
  · cases b.block <;> simp [fail]

theorem process_ends (ends : command = .commit ∨ command = .rollback) :
    (b.process accepted command).2.block = .idle := by
  rcases ends with rfl | rfl <;> cases block : b.block <;> cases accepted <;>
    simp [process, close, block]

theorem process_begin (idle : b.block = .idle)
    (refused : (b.process accepted .begin).1 = false) :
    (b.process accepted .begin).2.block = .idle := by
  cases accepted <;> simp [process, idle] at refused ⊢

theorem process_begin_open (done : (b.process accepted .begin).1 = true) :
    (b.process accepted .begin).2.block ≠ .idle := by
  cases block : b.block <;> cases accepted <;> simp [process, block] at done ⊢

theorem Clean.settled (clean : b.Clean) : b.Settled := fun alive => (clean alive).2

theorem die_clean : b.die.Clean := fun alive => (nomatch alive)

theorem die_open : b.die.Open := fun alive => (nomatch alive)

/-- What a command leaves behind, by where libpq fails. -/
theorem exec_rule {good : Backend → Prop}
    (done : b.alive = true → good (b.discard.process reply.accepted command).2)
    (same : b.alive = true → reply.fault = .unsent → good b) (down : b.alive = false → good b)
    (died : good b.die) : good (b.exec command reply).2 := by
  unfold exec
  split_ifs with up
  · cases fault : reply.fault with
    | none | lost => exact done up
    | unsent => exact same up fault
    | died => exact died
  · exact down (Bool.eq_false_iff.mpr up)

theorem exec_clean (free : command.control = false) (other : ∀ direction, command ≠ .copy direction)
    (clean : b.Clean) : (b.exec command reply).2.Clean := by
  refine exec_rule (fun up _ => ?_) (fun _ _ => clean) (fun _ => clean) die_clean
  rw [process_idle free, process_progress other, b.discard_spec.1]
  exact ⟨(clean up).1, b.discard_spec.2.1⟩

theorem exec_settled (other : ∀ direction, command ≠ .copy direction) (settled : b.Settled) :
    (b.exec command reply).2.Settled := by
  refine exec_rule (fun _ _ => ?_) (fun _ _ => settled) (fun _ => settled) die_clean.settled
  rw [process_progress other]
  exact b.discard_spec.2.1

theorem exec_open (free : command.control = false) (opened : b.Open) :
    (b.exec command reply).2.Open := by
  refine exec_rule (fun up _ => ?_) (fun _ _ => opened) (fun _ => opened) die_open
  rw [ne_eq, process_idle free, b.discard_spec.1]
  exact opened up

/-- What an async statement leaves behind, by where libpq fails. -/
theorem send_rule {good : Backend → Prop}
    (done : b.alive = true ∧ b.progress = .none → good (b.process reply.accepted .statement).2)
    (lost : b.alive = true ∧ b.progress = .none → reply.fault = .lost →
      good { (b.process reply.accepted .statement).2 with progress := .command })
    (same : good b) (died : good b.die) : good (b.send .statement reply).2 := by
  unfold send
  split_ifs with up
  · cases fault : reply.fault with
    | none => exact done up
    | lost => exact lost up fault
    | unsent => exact same
    | died => exact died
  · exact same

theorem process_statement :
    (b.process accepted .statement).2.progress = b.progress := process_progress nofun

/-- An async statement that does not fail once it was sent. -/
theorem send_clean (collected : reply.fault ≠ .lost) (clean : b.Clean) :
    (b.send .statement reply).2.Clean := by
  refine send_rule (fun up _ => ?_) (fun _ lost => absurd lost collected) clean die_clean
  rw [process_idle rfl, process_statement]
  exact clean up.1

theorem send_settled (collected : reply.fault ≠ .lost) (settled : b.Settled) :
    (b.send .statement reply).2.Settled := by
  refine send_rule (fun up _ => ?_) (fun _ lost => absurd lost collected) settled die_clean.settled
  rw [process_statement]
  exact up.2

theorem send_open (opened : b.Open) : (b.send .statement reply).2.Open := by
  have done : b.alive = true ∧ b.progress = .none →
      (b.process reply.accepted .statement).2.block ≠ .idle := by
    intro up
    rw [ne_eq, process_idle rfl]
    exact opened up.1
  exact send_rule (fun up _ => done up) (fun up _ _ => done up) opened die_open

theorem process_ends_clean (ends : command = .commit ∨ command = .rollback) :
    (b.discard.process accepted command).2.Clean := by
  have other : ∀ direction, command ≠ .copy direction := by
    rcases ends with rfl | rfl <;> exact nofun
  intro _
  rw [process_progress other]
  exact ⟨process_ends ends, b.discard_spec.2.1⟩

theorem exec_ends (ends : command = .commit ∨ command = .rollback)
    (sent : reply.fault ≠ .unsent) : (b.exec command reply).2.Clean := by
  refine exec_rule (fun _ => process_ends_clean ends) ?_ ?_ die_clean
  · exact fun _ unsent => absurd unsent sent
  · exact fun down alive => absurd alive (Bool.eq_false_iff.mp down)

/-- A `BEGIN` that fails, with its result not lost, opens no block. -/
theorem exec_begin (clean : b.Clean) (collected : reply.fault ≠ .lost)
    (refused : (b.exec .begin reply).1 = false) : (b.exec .begin reply).2.Clean := by
  unfold exec at refused ⊢
  split_ifs at refused ⊢ with up
  · cases fault : reply.fault with
    | none =>
      rw [fault] at refused
      intro alive
      have kept : (b.discard.process reply.accepted .begin).2.progress = b.discard.progress :=
        process_progress nofun
      exact ⟨process_begin (b.discard_spec.1.mpr (clean up).1) refused,
        kept.trans b.discard_spec.2.1⟩
    | lost => exact absurd fault collected
    | unsent => exact clean
    | died => exact die_clean
  · exact fun alive => absurd alive up

theorem exec_begin_open (done : (b.exec .begin reply).1 = true) : (b.exec .begin reply).2.Open := by
  unfold exec at done ⊢
  split_ifs at done ⊢ with up
  cases fault : reply.fault with
  | none =>
    rw [fault] at done
    exact fun _ => process_begin_open done
  | _ =>
    rw [fault] at done
    cases done

end Lemmas

end Backend

end Menagerie.Elephant.Session
