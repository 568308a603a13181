import Menagerie.Starling.Disruptor.Basic

/-!
# The single-producer sequencer

`SingleProducerSequencer` grants a claim when it ends at most one lap after the consumed position.
`next` and `next_batch` read that position only for claims beyond a cached limit; `try_next` reads
it always. One step is one load of the consumed position, one store of a cursor, or what the
producer does between two of them with its own data. Signed results are checked against their types.
-/

namespace Menagerie.Starling.SingleProducer

open Disruptor (Config)

/-- Signed 64-bit arithmetic; `none` is an overflow. -/
def int64 (value : Int) : Option Int :=
  if -9223372036854775808 ≤ value ∧ value ≤ int64Max then some value else none

/-- Signed 16-bit arithmetic; `none` is an overflow. -/
def int16 (value : Int) : Option Int :=
  if -32768 ≤ value ∧ value ≤ 32767 then some value else none

/-- `SPIN_BEFORE_YIELD`. -/
def spinBeforeYield : Int := 100

/-- The program point of the producer. -/
inductive Call
  | ready
  /-- `wait_for_capacity`: load of the consumed position. -/
  | waitForCapacity (previous : Int) (count : Nat) (spinCount : Int)
  | setClaimed (previous : Int) (count : Nat)
  deriving DecidableEq, Repr

/-- `SingleProducerSequencer`. -/
structure Sequencer where
  published : Int := -1
  consumed : Int := -1
  claimed : Int := -1
  cachedCapacityLimit : Int
  call : Call := .ready
  deriving DecidableEq, Repr

/-- What a step lets the caller see. -/
inductive Outcome
  | granted (first last : Int)
  | refused (last : Int)
  /-- One more round of the loop. -/
  | spun (last : Int)
  | silent
  | overflow
  deriving DecidableEq, Repr

namespace Sequencer

variable (config : Config)

/-- The constructor. -/
def new : Sequencer where
  cachedCapacityLimit := config.capacity - 1

/-- The limit of `wait_for_capacity`, unsigned and cut at `int64_t`. -/
def capacityLimit (consumed : Int) : Int :=
  let limit := BitVec.ofInt 64 consumed + BitVec.ofNat 64 config.capacity
  (min limit.toNat int64Max.toNat : Nat)

/-- `next_batch` up to the loop of `wait_for_capacity`, or its end. -/
def nextBatch (q : Sequencer) (count : Nat) : Outcome × Sequencer :=
  match int64 (q.claimed + count) with
  | none => (.overflow, q)
  | some lastClaim =>
    if lastClaim > q.cachedCapacityLimit then
      match int64 (lastClaim - config.capacity) with
      | none => (.overflow, q)
      | some _ => (.silent, { q with call := .waitForCapacity q.claimed count 0 })
    else (.silent, { q with call := .setClaimed q.claimed count })

/-- `next`. -/
def next (q : Sequencer) : Outcome × Sequencer := q.nextBatch config 1

/-- `try_next` up to the store of the claim. -/
def tryNext (q : Sequencer) : Outcome × Sequencer :=
  match int64 (q.claimed + 1) with
  | none => (.overflow, q)
  | some next =>
    match int64 (next - config.capacity) with
    | none => (.overflow, q)
    | some wrapPoint =>
      if wrapPoint > q.consumed then (.refused next, q)
      else (.silent, { q with call := .setClaimed q.claimed 1 })

/-- A round of `wait_for_capacity`, and what follows the last. -/
def waitForCapacity (q : Sequencer) (previous : Int) (count : Nat) (spinCount : Int) :
    Outcome × Sequencer :=
  let wrapPoint := previous + count - config.capacity
  if wrapPoint > q.consumed then
    match int16 (spinCount + 1) with
    | none => (.overflow, q)
    | some spinCount =>
      let spinCount := if spinCount < spinBeforeYield then spinCount else 0
      (.spun (previous + count), { q with call := .waitForCapacity previous count spinCount })
  else
    (.silent, { q with
      cachedCapacityLimit := capacityLimit config q.consumed
      call := .setClaimed previous count })

/-- The claim is stored, and its first sequence returned. -/
def setClaimed (q : Sequencer) (previous : Int) (count : Nat) : Outcome × Sequencer :=
  match int64 (previous + 1) with
  | none => (.overflow, q)
  | some first =>
    (.granted first (previous + count), { q with claimed := previous + count, call := .ready })

/-- `publish`. -/
def publish (q : Sequencer) (sequence : Int) : Sequencer := { q with published := sequence }

/-- `consume`. -/
def consume (q : Sequencer) (sequence : Int) : Sequencer := { q with consumed := sequence }

end Sequencer

/-- One label of the interleaving. -/
inductive Action
  | next
  | nextBatch (count : Nat)
  | tryNext
  | proceed
  | publish (sequence : Int)
  | publishBatch (low high : Int)
  | consume (sequence : Int)
  | consumeBatch (low high : Int)
  deriving DecidableEq, Repr

namespace Sequencer

variable (config : Config)

/-- One step of the producer or of the consumer. -/
def perform (q : Sequencer) : Action → Option (Outcome × Sequencer)
  | .next => if q.call = .ready then some (q.next config) else none
  | .nextBatch count => if q.call = .ready then some (q.nextBatch config count) else none
  | .tryNext => if q.call = .ready then some (q.tryNext config) else none
  | .proceed =>
    match q.call with
    | .ready => none
    | .waitForCapacity previous count spinCount =>
      some (q.waitForCapacity config previous count spinCount)
    | .setClaimed previous count => some (q.setClaimed previous count)
  | .publish sequence | .publishBatch _ sequence =>
    if q.call = .ready then some (.silent, q.publish sequence) else none
  | .consume sequence | .consumeBatch _ sequence => some (.silent, q.consume sequence)

/-- A sequencer with one producer and one consumer. -/
def system : Transition.System Sequencer Action where
  initial q := q = new config
  step q action := (q.perform config action).map Prod.snd

/-- Claims are at most `INT64_MAX`, the producer publishes what it has claimed in order, and the
consumer advances within what was published. -/
def Contract (q : Sequencer) : Action → Prop
  | .next | .tryNext => q.claimed + 1 ≤ int64Max
  | .nextBatch count => 0 < count ∧ q.claimed + count ≤ int64Max
  | .proceed => True
  | .publish sequence | .publishBatch _ sequence => q.published ≤ sequence ∧ sequence ≤ q.claimed
  | .consume sequence | .consumeBatch _ sequence => q.consumed ≤ sequence ∧ sequence ≤ q.published

instance (q : Sequencer) : (action : Action) → Decidable (q.Contract action)
  | .next | .tryNext => inferInstanceAs (Decidable (_ ≤ _))
  | .nextBatch _ => inferInstanceAs (Decidable (_ ∧ _))
  | .proceed => .isTrue trivial
  | .publish _ | .publishBatch _ _ => inferInstanceAs (Decidable (_ ∧ _))
  | .consume _ | .consumeBatch _ _ => inferInstanceAs (Decidable (_ ∧ _))

end Sequencer

end Menagerie.Starling.SingleProducer
