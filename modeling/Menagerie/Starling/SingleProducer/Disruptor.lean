import Menagerie.Starling.Disruptor.MultiProducer
import Menagerie.Starling.SingleProducer.Claims

/-!
# The single-producer disruptor

`Disruptor<T, SingleProducerSequencer>`: one producer claims, writes and publishes in order, one
consumer mixes `pull` with manual waits, reads and acknowledgements. One step is one atomic
operation of the source or one half of a write to a slot.
-/

namespace Menagerie.Starling.SingleProducer

open Disruptor (Config Operation Request Caller)

/-- The program point of the producer. -/
inductive Producer (α : Type)
  | ready
  | claim (value : Option α)
  | destroySlot (sequence : Int) (value : α)
  | constructSlot (sequence : Int) (value : α) (emplacing : Bool)
  | publish (sequence : Int)
  | signal
  deriving DecidableEq, Repr

/-- The program point of the consumer. -/
inductive Consumer
  | ready
  | waitFor (sequence : Int) (caller : Caller)
  | take (sequence : Int)
  | consume (sequence : Int)
  deriving DecidableEq, Repr

/-- The disruptor, its producer and its consumer. -/
structure State (α : Type) where
  sequencer : Sequencer
  /-- `buffer_`; `none` before a write, during it and after a move. -/
  buffer : Nat → Option α := fun _ => none
  cachedPublished : Int := -1
  producer : Producer α := .ready
  consumer : Consumer := .ready
  /-- The highest frontier that manual waits have returned. -/
  frontier : Int := -1
  nextRead : Int := 0
  /-- History: the value written for a sequence. -/
  written : Int → Option α := fun _ => none
  reads : List (Int × Option α) := []

namespace State

variable {α : Type} (config : Config)

/-- A new disruptor. -/
def initial (α : Type) : State α := { sequencer := .new config }

/-- A write to the slot starts or ends. -/
def store (s : State α) (sequence : Int) (content : Option α) : State α :=
  { s with
    buffer := Function.update s.buffer (config.slotIndex sequence) content
    written := Function.update s.written sequence content }

/-- The consumer reads a slot and may move the value out. -/
def read (s : State α) (sequence : Int) (moves : Bool) : State α :=
  { s with
    buffer := if moves then Function.update s.buffer (config.slotIndex sequence) none
      else s.buffer
    nextRead := sequence + 1
    reads := s.reads ++ [(sequence, s.buffer (config.slotIndex sequence))] }

/-- The producer after a step of the sequencer. -/
def returned (value : Option α) : Outcome → Producer α
  | .granted first _ => value.elim .ready (.destroySlot first)
  | .refused _ | .overflow => .ready
  | .spun _ | .silent => .claim value

/-- A step of a claim, within the contract. -/
def claims (s : State α) (action : Action) (value : Option α) : Option (State α) :=
  if s.sequencer.Contract action then
    (s.sequencer.perform config action).map fun moved =>
      { s with sequencer := moved.2, producer := returned value moved.1 }
  else none

/-- What follows the published position up to `last` was written. -/
def Filled (s : State α) (last : Int) : Prop :=
  ∀ offset < (last - s.sequencer.published).toNat,
    (s.written (s.sequencer.published + 1 + offset)).isSome = true

instance (s : State α) (last : Int) : Decidable (s.Filled last) := Nat.decidableBallLT _ _

/-- Publication of written sequences, in order. -/
def publishes (s : State α) (last : Int) : Option (State α) :=
  if s.sequencer.Contract (.publish last) ∧ s.Filled last then
    some { s with sequencer := s.sequencer.publish last, producer := .signal }
  else none

/-- A call of the producer starts; `emplace` finds earlier claims published. -/
def begin (s : State α) : Operation α → Option (State α)
  | .next => s.claims config .next none
  | .nextBatch count => s.claims config (.nextBatch count) none
  | .tryNext => s.claims config .tryNext none
  | .emplace value =>
    if s.sequencer.published = s.sequencer.claimed then s.claims config .next (some value)
    else none
  | .write sequence value =>
    if s.sequencer.published < sequence ∧ sequence ≤ s.sequencer.claimed then
      some { s.store config sequence none with producer := .constructSlot sequence value false }
    else none
  | .publish sequence | .publishBatch _ sequence => s.publishes sequence

/-- The next step of the producer inside a call. -/
def produce (s : State α) : Option (State α) :=
  match s.producer with
  | .ready => none
  | .claim value => s.claims config .proceed value
  | .destroySlot sequence value =>
    some { s.store config sequence none with producer := .constructSlot sequence value true }
  | .constructSlot sequence value emplacing =>
    some { s.store config sequence (some value) with
      producer := if emplacing then .publish sequence else .ready }
  | .publish sequence =>
    some { s with sequencer := s.sequencer.publish sequence, producer := .signal }
  | .signal => some { s with producer := .ready }

/-- A call of the consumer starts: it reads what a wait has shown and consumes what it has read. -/
def request (s : State α) : Request → Option (State α)
  | .waitFor sequence => some { s with consumer := .waitFor sequence .manual }
  | .getPublishedSequence _ => some { s with frontier := max s.frontier s.sequencer.published }
  | .pull =>
    if s.nextRead = s.sequencer.consumed + 1 then
      if s.sequencer.consumed + 1 > s.cachedPublished then
        some { s with
          consumer := .waitFor (s.sequencer.consumed + 1) (.pull (s.sequencer.consumed + 1)) }
      else some { s with consumer := .take (s.sequencer.consumed + 1) }
    else none
  | .read moves => if s.nextRead ≤ s.frontier then some (s.read config s.nextRead moves) else none
  | .consume sequence | .consumeBatch _ sequence =>
    if s.sequencer.consumed ≤ sequence ∧ sequence < s.nextRead then
      some { s with sequencer := s.sequencer.consume sequence }
    else none

def resume (s : State α) (published : Int) : Caller → State α
  | .manual => { s with frontier := max s.frontier published, consumer := .ready }
  | .pull sequence =>
    if published < sequence then { s with consumer := .waitFor sequence (.pull sequence) }
    else { s with cachedPublished := published, consumer := .take sequence }

/-- The next step of the consumer; a wait may give up when the published position has not reached
the sequence. -/
def receive (s : State α) (givesUp : Bool) : Option (State α) :=
  match s.consumer with
  | .ready => none
  | .waitFor sequence caller =>
    if s.sequencer.published < sequence ∧ givesUp = false then some s
    else some (s.resume s.sequencer.published caller)
  | .take sequence => some { s.read config sequence true with consumer := .consume sequence }
  | .consume sequence =>
    some { s with sequencer := s.sequencer.consume sequence, consumer := .ready }

end State

/-- One label of the interleaving. -/
inductive Step (α : Type)
  | begin (operation : Operation α)
  | produce
  | request (request : Request)
  | receive (givesUp : Bool)
  deriving DecidableEq, Repr

section Program

variable {α : Type} (config : Config)

/-- One step of the interleaving. -/
def step (s : State α) : Step α → Option (State α)
  | .begin operation =>
    match s.producer with
    | .ready => s.begin config operation
    | _ => none
  | .produce => s.produce config
  | .request wanted =>
    match s.consumer with
    | .ready => s.request config wanted
    | _ => none
  | .receive givesUp => s.receive config givesUp

/-- A disruptor with one producer and one consumer. -/
def system (α : Type) : Transition.System (State α) (Step α) where
  initial s := s = State.initial config α
  step := step config

end Program

end Menagerie.Starling.SingleProducer
