import Menagerie.Starling.Disruptor.Delivery
import Menagerie.Starling.SingleProducer.Delivery

/-!
# `emplace` and `pull` for both sequencers

A disruptor as its users see it: producers may throw while they construct a value for `emplace`, and
the consumer mixes `pull` with manual reads. A construction that may throw happens before the claim,
so that the disruptor does not move while it runs. With either sequencer the consumer reads every
sequence once, in order, and `pull` takes the slot of a published sequence that is next to consume.
-/

namespace Menagerie.Starling.Pull

open Disruptor (Config twoSlots)

/-- A disruptor with one of the sequencers. -/
structure Queue (α : Type) where
  State : Type
  Label : Type
  system : Transition.System State Label
  emplace : Nat → α → Label
  Published : State → Int → Prop
  consumed : State → Int
  taking : State → Option Int
  reads : State → List (Int × Option α)
  written : State → Int → Option α

/-- What the consumer sees. -/
structure Queue.Fifo {α : Type} (queue : Queue α) (state : queue.State) : Prop where
  pulled : ∀ sequence, queue.taking state = some sequence →
    queue.Published state sequence ∧ sequence = queue.consumed state + 1
  order : (queue.reads state).map Prod.fst =
    (List.range (queue.reads state).length).map (fun (sequence : Nat) => (sequence : Int))
  values : ∀ sequence content, (sequence, content) ∈ queue.reads state →
    queue.Published state sequence ∧
      ∃ value, content = some value ∧ queue.written state sequence = some value
  consumed : queue.consumed state < (queue.reads state).length

section Constructing

variable {α ε : Type}

/-- A disruptor whose producers construct values. -/
structure Constructing (queue : Queue α) where
  state : queue.State
  constructing : Nat → Bool := fun _ => false

/-- A step of the disruptor, or the start or end of a construction for `emplace`, which may throw.
-/
inductive Call (queue : Queue α) (ε : Type)
  | act (label : queue.Label)
  | construct (thread : Nat)
  | constructed (thread : Nat) (result : Except ε α)

/-- The construction comes before `next`; its exception leaves `emplace`. -/
def step {queue : Queue α} (s : Constructing queue) : Call queue ε → Option (Constructing queue)
  | .act label => (queue.system.step s.state label).map fun state => { s with state }
  | .construct thread =>
    if s.constructing thread then none
    else some { s with constructing := Function.update s.constructing thread true }
  | .constructed thread result =>
    if s.constructing thread then
      match result with
      | .error _ => some { s with constructing := Function.update s.constructing thread false }
      | .ok value => (queue.system.step s.state (queue.emplace thread value)).map fun state =>
        { state, constructing := Function.update s.constructing thread false }
    else none

/-- A disruptor and the constructions of its producers. -/
def system (queue : Queue α) (ε : Type) :
    Transition.System (Constructing queue) (Call queue ε) where
  initial s := queue.system.initial s.state ∧ s.constructing = fun _ => false
  step := step

/-- Constructions add no state of the disruptor. -/
theorem reachable_state {queue : Queue α} {s : Constructing queue}
    (reached : (system queue ε).Reachable s) : queue.system.Reachable s.state := by
  have extend : ∀ {state state' : queue.State} {label : queue.Label},
      queue.system.Reachable state → queue.system.step state label = some state' →
      queue.system.Reachable state' :=
    fun before moved => before.leads (.tail .refl trivial moved)
  refine @Transition.System.ReachableBy.invariant _ _ (system queue ε) _
    (fun s => queue.system.Reachable s.state) s reached ?_ ?_
  · rintro s ⟨initial, -⟩
    exact ⟨s.state, initial, .refl⟩
  · intro s call s' _ before _ moved
    cases call with
    | act label =>
      obtain ⟨state, stepped, rfl⟩ := Option.map_eq_some_iff.mp moved
      exact extend before stepped
    | construct thread =>
      obtain ⟨-, same⟩ := Option.ite_none_left_eq_some.mp moved
      cases same
      exact before
    | constructed thread result =>
      obtain ⟨-, ended⟩ := Option.ite_none_right_eq_some.mp moved
      cases result with
      | error thrown =>
        cases ended
        exact before
      | ok value =>
        obtain ⟨state, stepped, rfl⟩ := Option.map_eq_some_iff.mp ended
        exact extend before stepped

end Constructing

section Queues

variable (config : Config) (α : Type)

/-- `Disruptor<T, MultiProducerSequencer>`. -/
def multiProducer : Queue α where
  State := Disruptor.State α
  Label := Disruptor.Action α
  system := Disruptor.system config α
  emplace thread value := .begin thread (.emplace value)
  Published s := s.Published
  consumed s := s.consumed
  taking s :=
    match s.consumer with
    | .take sequence => some sequence
    | _ => none
  reads s := s.reads
  written s sequence := (s.written sequence).map Prod.snd

/-- `Disruptor<T, SingleProducerSequencer>`. -/
def singleProducer : Queue α where
  State := SingleProducer.State α
  Label := SingleProducer.Step α
  system := SingleProducer.system config α
  emplace _ value := .begin (.emplace value)
  Published s sequence := sequence ≤ s.sequencer.published
  consumed s := s.sequencer.consumed
  taking s :=
    match s.consumer with
    | .take sequence => some sequence
    | _ => none
  reads s := s.reads
  written s := s.written

/-- The sequencers. -/
inductive Kind
  | singleProducer
  | multiProducer
  deriving DecidableEq, Repr

/-- The disruptor with a sequencer. -/
def queue : Kind → Queue α
  | .singleProducer => singleProducer config α
  | .multiProducer => multiProducer config α

end Queues

section Fifo

variable {config : Config} {α : Type}

theorem multiProducer_fifo {s : Disruptor.State α}
    (reached : (Disruptor.system config α).Reachable s) : (multiProducer config α).Fifo s := by
  have invariant := Disruptor.reachable_invariant reached
  have consumed := invariant.sound.consumed
  have length := consumed.order.length
  have behind := consumed.behind
  refine ⟨?_, ?_, ?_, ?_⟩
  · intro sequence taking
    have holds := invariant.consumer
    simp only [multiProducer] at taking
    split at taking
    · rename_i frame
      cases taking
      rw [frame] at holds
      exact ⟨holds.2.2, holds.2.1⟩
    · cases taking
  · change s.reads.map Prod.fst = (List.range s.reads.length).map _
    rw [length]
    exact consumed.order
  · intro sequence content read
    obtain ⟨thread, value, same, written⟩ := consumed.values sequence content read
    refine ⟨consumed.read sequence (consumed.order.range read).2, value, same, ?_⟩
    change (s.written sequence).map Prod.snd = some value
    rw [written]
    rfl
  · change s.consumed < s.reads.length
    have start : -1 ≤ s.consumed := invariant.sound.sequencer.start.2
    omega

theorem singleProducer_fifo {s : SingleProducer.State α}
    (reached : (SingleProducer.system config α).Reachable s) :
    (singleProducer config α).Fifo s := by
  obtain ⟨sequencer, positions, -, history, -, holds⟩ := SingleProducer.reachable_sound reached
  have length := history.order.length
  have behind := positions.behind
  refine ⟨?_, ?_, ?_, ?_⟩
  · intro sequence taking
    simp only [singleProducer] at taking
    split at taking
    · rename_i frame
      cases taking
      rw [frame] at holds
      exact ⟨holds.2.2, holds.2.1⟩
    · cases taking
  · change s.reads.map Prod.fst = (List.range s.reads.length).map _
    rw [length]
    exact history.order
  · intro sequence content read
    obtain ⟨some, written⟩ := history.values sequence content read
    obtain ⟨value, same⟩ := Option.isSome_iff_exists.mp some
    have range := history.order.range read
    have known := positions.read
    refine ⟨?_, value, same, written.trans same⟩
    change sequence ≤ s.sequencer.published
    omega
  · change s.sequencer.consumed < s.reads.length
    have start := sequencer.initial
    omega

/-- With either sequencer, however the consumer mixes `pull` with manual reads: `pull` takes
published sequences that have not been consumed, every value is read once, in order, and an
`emplace` whose construction throws leaves the disruptor as it is. -/
theorem pull_stays_fifo {ε : Type} (kind : Kind) {s : Constructing (queue config α kind)}
    (reached : (system (queue config α kind) ε).Reachable s) :
    (queue config α kind).Fifo s.state ∧
    (∀ thread s', step s (.construct thread : Call _ ε) = some s' → s'.state = s.state) ∧
    (∀ thread (thrown : ε) s', step s (.constructed thread (.error thrown)) = some s' →
      s'.state = s.state) := by
  have inner := reachable_state reached
  refine ⟨?_, ?_, ?_⟩
  · cases kind with
    | singleProducer => exact singleProducer_fifo inner
    | multiProducer => exact multiProducer_fifo inner
  · intro thread s' moved
    obtain ⟨-, same⟩ := Option.ite_none_left_eq_some.mp moved
    cases same
    rfl
  · intro thread thrown s' moved
    obtain ⟨-, same⟩ := Option.ite_none_right_eq_some.mp moved
    cases same
    rfl

/-- After a throw a value is read and acknowledged by hand; of the next two `pull` waits for the
first and takes the second from its cache. -/
theorem pull_stays_fifo_after_throw : ∃ s : Constructing (queue twoSlots Nat .singleProducer),
    (system (queue twoSlots Nat .singleProducer) Unit).Reachable s ∧
    (queue twoSlots Nat .singleProducer).reads s.state = [(0, some 7), (1, some 8)] ∧
    (queue twoSlots Nat .singleProducer).taking s.state = some 2 ∧
    (queue twoSlots Nat .singleProducer).Fifo s.state := by
  have initial : (system (queue twoSlots Nat .singleProducer) Unit).initial
      { state := SingleProducer.State.initial twoSlots Nat } := ⟨rfl, rfl⟩
  obtain ⟨s, reached, reads, taking⟩ : ∃ s : Constructing (queue twoSlots Nat .singleProducer),
      (system (queue twoSlots Nat .singleProducer) Unit).Reachable s ∧
      (queue twoSlots Nat .singleProducer).reads s.state = [(0, some 7), (1, some 8)] ∧
      (queue twoSlots Nat .singleProducer).taking s.state = some 2 :=
    Transition.System.exists_reachable _ initial
      [.construct 0, .constructed 0 (.error ()), .construct 0, .constructed 0 (.ok 7),
        .act .produce, .act .produce, .act .produce, .act .produce, .act .produce,
        .act (.request (.waitFor 0)), .act (.receive false), .act (.request (.read true)),
        .act (.request (.consume 0)), .construct 0, .constructed 0 (.ok 8),
        .act .produce, .act .produce, .act .produce, .act .produce, .act .produce,
        .construct 0, .constructed 0 (.ok 9), .act .produce, .act .produce, .act .produce,
        .act .produce, .act .produce, .act .produce, .act (.request .pull), .act (.receive false),
        .act (.receive false), .act (.receive false), .act (.request .pull)]
      ⟨_, rfl, fun _ => ⟨rfl, rfl⟩⟩
  exact ⟨s, reached, reads, taking, (pull_stays_fifo .singleProducer reached).1⟩

end Fifo

end Menagerie.Starling.Pull
