import Menagerie.Starling.Disruptor.Basic

/-!
# Steps of producers and consumer

One step is one atomic operation of the source: a load, store or read-modify-write of a cursor or
of a slot generation, or one half of a write to a slot. `Effect` lists what a step does to shared
data; `produce` and `receive` give the effect of the next step of a producer and of the consumer.
-/

namespace Menagerie.Starling.Disruptor

open Function

/-- What one step does to shared data. -/
inductive Effect (α : Type)
  | skip
  /-- The claimed position advances; `granted` if capacity was checked before. -/
  | claim (thread count : Nat) (granted : Bool)
  | grant (thread : Nat) (first : Int) (count : Nat)
  | blank (thread : Nat) (sequence : Int)
  | write (thread : Nat) (sequence : Int) (value : α)
  | publish (thread : Nat) (sequence : Int)
  | learn (frontier : Int)
  | cache (frontier : Int)
  | read (moves : Bool)
  | consume (sequence : Int)
  deriving DecidableEq, Repr

section Apply

variable {α : Type} (config : Config)

/-- Change the stages of a block of sequences. -/
def State.setStages (s : State α) (first : Int) (count : Nat) (stage : Stage) : State α :=
  { s with
    stage := fun sequence =>
      if first ≤ sequence ∧ sequence < first + count then stage else s.stage sequence }

/-- Execute one effect. -/
def State.apply (s : State α) : Effect α → State α
  | .skip => s
  | .claim thread count granted =>
    { s.setStages (s.claimed + 1) count (if granted then .granted thread else .waiting thread) with
      claimed := s.claimed + count
      claims := s.claims ++ [⟨thread, s.claimed + 1, count⟩] }
  | .grant thread first count => s.setStages first count (.granted thread)
  | .blank thread sequence =>
    { s.setStages sequence 1 (.blank thread) with
      buffer := update s.buffer (config.slotIndex sequence) none }
  | .write thread sequence value =>
    { s.setStages sequence 1 (.written thread) with
      buffer := update s.buffer (config.slotIndex sequence) (some value)
      written := update s.written sequence (some (thread, value)) }
  | .publish thread sequence =>
    { s.setStages sequence 1 (.published thread) with
      generations := update s.generations (config.slotIndex sequence)
        (config.generationOf sequence) }
  | .learn frontier => { s with frontier := max s.frontier frontier }
  | .cache frontier => { s with cachedPublished := frontier }
  | .read moves =>
    { s with
      buffer := if moves then update s.buffer (config.slotIndex s.nextRead) none
        else s.buffer
      nextRead := s.nextRead + 1
      reads := s.reads ++ [(s.nextRead, s.buffer (config.slotIndex s.nextRead))] }
  | .consume sequence => { s with consumed := sequence }

end Apply

/-- A call of a producer; the guards of `begin` say which it may make. -/
inductive Operation (α : Type)
  | next
  | nextBatch (count : Nat)
  | tryNext
  | emplace (value : α)
  | write (sequence : Int) (value : α)
  | publish (sequence : Int)
  | publishBatch (low high : Int)
  deriving DecidableEq, Repr

/-- A call of the consumer. -/
inductive Request
  | waitFor (sequence : Int)
  | getPublishedSequence (lowerBound : Int)
  | pull
  | read (moves : Bool)
  | consume (sequence : Int)
  | consumeBatch (low high : Int)
  deriving DecidableEq, Repr

section Program

variable {α : Type} (config : Config)

/-- A call of a producer starts: claims are at most `INT64_MAX`, and it writes what it has claimed
and publishes what it has written. -/
def begin (s : State α) (thread : Nat) : Operation α → Option (Effect α × Producer α)
  | .next =>
    if s.claimed + 1 ≤ int64Max then
      some (.claim thread 1 false, .waitForCapacity (s.claimed + 1) 1 none)
    else none
  | .nextBatch count =>
    if 0 < count ∧ s.claimed + count ≤ int64Max then
      some (.claim thread count false, .waitForCapacity (s.claimed + 1) count none)
    else none
  | .tryNext =>
    if s.claimed + 1 ≤ int64Max then some (.skip, .tryNextCapacity s.claimed) else none
  | .emplace value =>
    if s.claimed + 1 ≤ int64Max then
      some (.claim thread 1 false, .waitForCapacity (s.claimed + 1) 1 (some value))
    else none
  | .write sequence value =>
    if s.stage sequence = .granted thread ∨ s.stage sequence = .written thread then
      some (.blank thread sequence, .constructSlot sequence value false)
    else none
  | .publish sequence =>
    if s.stage sequence = .written thread then some (.skip, .publishSlot sequence sequence)
    else none
  | .publishBatch low high =>
    if ∀ offset < (high - low + 1).toNat, s.stage (low + offset) = .written thread then
      some (.skip, .publishSlot low high)
    else none

/-- The next step of a producer inside a call. -/
def produce (s : State α) (thread : Nat) (spurious : Bool) :
    Producer α → Option (Effect α × Producer α)
  | .ready => none
  | .waitForCapacity first count value =>
    if first + count - 1 - config.capacity > s.consumed then
      some (.skip, .waitForCapacity first count value)
    else match value with
      | none => some (.grant thread first count, .ready)
      | some value => some (.grant thread first count, .destroySlot first value)
  | .tryNextCapacity current =>
    if current + 1 - config.capacity > s.consumed then some (.skip, .ready)
    else some (.skip, .tryNextSwap current)
  | .tryNextSwap current =>
    if spurious = false ∧ s.claimed = current then some (.claim thread 1 true, .ready)
    else some (.skip, .ready)
  | .destroySlot sequence value =>
    some (.blank thread sequence, .constructSlot sequence value true)
  | .constructSlot sequence value emplacing =>
    if emplacing then some (.write thread sequence value, .publishSlot sequence sequence)
    else some (.write thread sequence value, .ready)
  | .publishSlot sequence last =>
    if sequence ≤ last then some (.publish thread sequence, .publishSlot (sequence + 1) last)
    else some (.skip, .signal)
  | .signal => some (.skip, .ready)

/-- A call of the consumer starts: it waits for at most the next sequence that it reads, reads what
a wait has shown and consumes what it has read. -/
def request (s : State α) : Request → Option (Effect α × Consumer)
  | .waitFor sequence =>
    if sequence ≤ s.nextRead then some (.skip, .waitFor sequence .manual) else none
  | .getPublishedSequence lowerBound =>
    if lowerBound ≤ s.nextRead then some (.skip, .getPublishedSequence lowerBound) else none
  | .pull =>
    if s.nextRead = s.consumed + 1 then
      if s.consumed + 1 > s.cachedPublished then
        some (.skip, .waitFor (s.consumed + 1) (.pull (s.consumed + 1)))
      else some (.skip, .take (s.consumed + 1))
    else none
  | .read moves => if s.nextRead ≤ s.frontier then some (.read moves, .ready) else none
  | .consume sequence | .consumeBatch _ sequence =>
    if s.consumed ≤ sequence ∧ sequence < s.nextRead then some (.consume sequence, .ready)
    else none

def Caller.resume (published : Int) : Caller → Effect α × Consumer
  | .manual => (.learn published, .ready)
  | .pull sequence =>
    if published < sequence then (.skip, .waitFor sequence (.pull sequence))
    else (.cache published, .take sequence)

/-- The next step of the consumer; a wait may give up when the claimed position has not reached the
sequence. -/
def receive (s : State α) (givesUp : Bool) : Consumer → Option (Effect α × Consumer)
  | .ready => none
  | .waitFor sequence caller =>
    if s.claimed < sequence then
      if givesUp then some (caller.resume s.claimed)
      else some (.skip, .waitFor sequence caller)
    else some (.skip, .scanPublished sequence s.claimed caller)
  | .getPublishedSequence lowerBound =>
    some (.skip, .scanPublished lowerBound s.claimed .manual)
  | .scanPublished sequence claimed caller =>
    if sequence ≤ claimed then
      if s.generations (config.slotIndex sequence) ≠ config.generationOf sequence then
        some (caller.resume (sequence - 1))
      else some (.skip, .scanPublished (sequence + 1) claimed caller)
    else some (caller.resume claimed)
  | .take sequence => some (.read true, .consume sequence)
  | .consume sequence => some (.consume sequence, .ready)

/-- One label of the interleaving. -/
inductive Action (α : Type)
  | begin (thread : Nat) (operation : Operation α)
  | produce (thread : Nat) (spurious : Bool)
  | request (request : Request)
  | receive (givesUp : Bool)
  deriving DecidableEq, Repr

def State.produces (s : State α) (thread : Nat) (move : Effect α × Producer α) : State α :=
  { s.apply config move.1 with producers := update s.producers thread move.2 }

def State.consumes (s : State α) (move : Effect α × Consumer) : State α :=
  { s.apply config move.1 with consumer := move.2 }

/-- One step of the interleaving. -/
def step (s : State α) : Action α → Option (State α)
  | .begin thread operation =>
    match s.producers thread with
    | .ready =>
      if thread < s.producerCount then
        (begin s thread operation).map (s.produces config thread)
      else none
    | _ => none
  | .produce thread spurious =>
    if thread < s.producerCount then
      (produce config s thread spurious (s.producers thread)).map (s.produces config thread)
    else none
  | .request wanted =>
    match s.consumer with
    | .ready => (request s wanted).map (s.consumes config)
    | _ => none
  | .receive givesUp => (receive config s givesUp s.consumer).map (s.consumes config)

/-- A disruptor, any number of producers and one consumer. -/
def system (α : Type) : Transition.System (State α) (Action α) where
  initial s := ∃ producerCount, s = State.initial α producerCount
  step := step config

end Program

end Menagerie.Starling.Disruptor
