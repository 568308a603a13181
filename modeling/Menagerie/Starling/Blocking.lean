import Menagerie.Starling.Disruptor.Delivery
import Menagerie.Starling.SingleProducer.Delivery

/-!
# The blocking wait strategy

`BlockingWaitStrategy` for both sequencers. The consumer in `wait_for` checks the cursor, locks the
mutex, checks again and parks; a producer that has published locks the mutex and notifies. A
sequence counts as returned when the call that published it has returned, so after the notification.
-/

namespace Menagerie.Starling.Blocking

open Transition
open Disruptor (Config)

/-- A disruptor with one of the sequencers. -/
structure Queue where
  State : Type
  Label : Type
  system : System State Label
  claimed : State → Int
  cursor : State → Int
  waiting : State → Option Int
  consumes : Label → Bool
  /-- The thread whose return from `signal` this is. -/
  signals : State → Label → Option Nat
  /-- The thread has published the sequence. -/
  published : State → Nat → Int → Bool

/-- The consumer with respect to `wait_for`. -/
inductive Point
  | outside
  | locking
  | checking
  | parking
  | parked
  | woken
  | leaving
  deriving DecidableEq

/-- Who has the mutex; in `signal` before and after the notification. -/
inductive Holder
  | consumer
  | producer (thread : Nat) (notified : Bool)
  deriving DecidableEq

/-- A disruptor with its wait strategy. -/
structure State (queue : Queue) where
  base : queue.State
  point : Point := .outside
  mutex : Option Holder := none
  returned : Int → Bool := fun _ => false

/-- The steps. -/
inductive Move (queue : Queue)
  | act (label : queue.Label)
  /-- The check before the lock; `label` reads the cursor. -/
  | quickCheck (label : queue.Label)
  | lock
  | check (label : queue.Label)
  | park
  | wake
  | unlock
  /-- `signal`: the producer locks the mutex. -/
  | signalLock (label : queue.Label)
  | notify
  | signalUnlock (label : queue.Label)

section

variable (queue : Queue)

def step (s : State queue) : Move queue → Option (State queue)
  | .act label =>
    if queue.signals s.base label = none ∧
        (queue.consumes label = true → s.point = .outside ∧ queue.waiting s.base = none) then
      (queue.system.step s.base label).map ({ s with base := · })
    else none
  | .quickCheck label =>
    match queue.waiting s.base with
    | none => none
    | some sequence =>
      if s.point = .outside ∧ queue.consumes label = true then
        if queue.cursor s.base < sequence then some { s with point := .locking }
        else (queue.system.step s.base label).map ({ s with base := · })
      else none
  | .lock =>
    if (s.point = .locking ∨ s.point = .woken) ∧ s.mutex = none then
      some { s with point := .checking, mutex := some .consumer }
    else none
  | .check label =>
    match queue.waiting s.base with
    | none => none
    | some sequence =>
      if s.point = .checking ∧ queue.consumes label = true then
        if queue.cursor s.base < sequence then some { s with point := .parking }
        else (queue.system.step s.base label).map ({ s with base := ·, point := .leaving })
      else none
  | .park => if s.point = .parking then some { s with point := .parked, mutex := none } else none
  | .wake => if s.point = .parked then some { s with point := .woken } else none
  | .unlock => if s.point = .leaving then some { s with point := .outside, mutex := none } else none
  | .signalLock label =>
    match queue.signals s.base label with
    | some thread =>
      if s.mutex = none then some { s with mutex := some (.producer thread false) } else none
    | none => none
  | .notify =>
    match s.mutex with
    | some (.producer thread false) => some { s with
        mutex := some (.producer thread true)
        point := if s.point = .parked then .woken else s.point }
    | _ => none
  | .signalUnlock label =>
    match queue.signals s.base label, s.mutex with
    | some thread, some (.producer owner true) =>
      if thread = owner then
        (queue.system.step s.base label).map fun base => { s with
          base := base
          mutex := none
          returned := fun sequence =>
            s.returned sequence || queue.published s.base thread sequence }
      else none
    | _, _ => none

/-- The disruptor with the blocking wait strategy. -/
def system : System (State queue) (Move queue) where
  initial s := ∃ base, queue.system.initial base ∧ s = { base }
  step := step queue

/-- What the argument needs to know of a sequencer. -/
structure Queue.Lawful : Prop where
  mono : ∀ base label next, queue.system.Reachable base →
    queue.system.step base label = some next → queue.cursor base ≤ queue.cursor next
  frame : ∀ base label next, queue.system.Reachable base → queue.consumes label = false →
    queue.system.step base label = some next → queue.waiting next = queue.waiting base
  producer : ∀ base label thread, queue.signals base label = some thread →
    queue.consumes label = false
  covered : ∀ base thread sequence, queue.system.Reachable base →
    queue.published base thread sequence = true → sequence ≤ queue.cursor base
  claimed : ∀ base thread sequence, queue.system.Reachable base →
    queue.published base thread sequence = true → 0 ≤ sequence ∧ sequence ≤ queue.claimed base

/-- A consumer parks only for a sequence whose publishing call has not returned. -/
structure Awake (s : State queue) : Prop where
  reached : queue.system.Reachable s.base
  covered : ∀ sequence, s.returned sequence = true → sequence ≤ queue.cursor s.base
  held : s.point = .checking ∨ s.point = .parking ∨ s.point = .leaving → s.mutex = some .consumer
  notified : ∀ thread, s.mutex = some (.producer thread true) → s.point ≠ .parked
  owed : s.point = .parking ∨ s.point = .parked → ∀ sequence, queue.waiting s.base = some sequence →
    s.returned sequence = false

end

section Steps

variable {queue : Queue} {s s' : State queue}

theorem Awake.base (lawful : queue.Lawful) (awake : Awake queue s) {label : queue.Label}
    {after : queue.State → State queue}
    (moved : (queue.system.step s.base label).map after = some s') :
    ∃ next, queue.system.step s.base label = some next ∧ s' = after next ∧
      queue.system.Reachable next ∧
      ∀ sequence, s.returned sequence = true → sequence ≤ queue.cursor next := by
  obtain ⟨next, taken, rfl⟩ := Option.map_eq_some_iff.mp moved
  refine ⟨next, taken, rfl, awake.reached.leads (.tail .refl trivial taken), ?_⟩
  intro sequence returned
  have before := awake.covered sequence returned
  have later := lawful.mono s.base label next awake.reached taken
  omega

theorem Awake.goes (awake : Awake queue s) {point : Point} {mutex : Option Holder}
    (held : point = .checking ∨ point = .parking ∨ point = .leaving → mutex = some .consumer)
    (awakens : point ≠ .parking ∧ point ≠ .parked) :
    Awake queue { s with point := point, mutex := mutex } where
  reached := awake.reached
  covered := awake.covered
  held := held
  notified := fun _ _ => awakens.2
  owed := fun parks => (parks.elim awakens.1 awakens.2).elim

theorem Awake.apart (awake : Awake queue s) {thread : Nat} {notified : Bool}
    (busy : s.mutex = some (.producer thread notified)) :
    ¬ (s.point = .checking ∨ s.point = .parking ∨ s.point = .leaving) := by
  intro held
  rw [awake.held held] at busy
  cases busy

theorem Awake.step (lawful : queue.Lawful) (awake : Awake queue s) {move : Move queue}
    (moved : step queue s move = some s') : Awake queue s' := by
  cases move with
  | act label =>
    obtain ⟨allowed, acted⟩ := Option.ite_none_right_eq_some.mp moved
    obtain ⟨next, taken, rfl, reached, covered⟩ := awake.base lawful acted
    refine ⟨reached, covered, awake.held, awake.notified, fun parks => ?_⟩
    cases mover : queue.consumes label with
    | true =>
      have outside := (allowed.2 mover).1
      simp [outside] at parks
    | false =>
      rw [lawful.frame s.base label next awake.reached mover taken]
      exact awake.owed parks
  | quickCheck label =>
    cases waits : queue.waiting s.base with
    | none => simp [Blocking.step, waits] at moved
    | some sequence =>
      simp only [Blocking.step, waits] at moved
      obtain ⟨outside, looked⟩ := Option.ite_none_right_eq_some.mp moved
      split at looked
      next behind =>
        cases looked
        exact awake.goes (by simp) (by simp)
      next =>
        obtain ⟨next, taken, rfl, reached, covered⟩ := awake.base lawful looked
        refine ⟨reached, covered, awake.held, awake.notified, fun parks => ?_⟩
        simp [outside.1] at parks
  | lock =>
    obtain ⟨-, same⟩ := Option.ite_none_right_eq_some.mp moved
    cases same
    exact awake.goes (fun _ => rfl) (by simp)
  | check label =>
    cases waits : queue.waiting s.base with
    | none => simp [Blocking.step, waits] at moved
    | some sequence =>
      simp only [Blocking.step, waits] at moved
      obtain ⟨checking, looked⟩ := Option.ite_none_right_eq_some.mp moved
      split at looked
      next behind =>
        cases looked
        refine ⟨awake.reached, awake.covered, fun _ => awake.held (.inl checking.1),
          fun _ _ => by simp, fun _ other same => ?_⟩
        rw [waits, Option.some.injEq] at same
        by_contra returned
        have reachedIt := awake.covered other (by simpa using returned)
        omega
      next =>
        obtain ⟨next, taken, rfl, reached, covered⟩ := awake.base lawful looked
        exact ⟨reached, covered, fun _ => awake.held (.inl checking.1), by simp, by simp⟩
  | park =>
    obtain ⟨parking, same⟩ := Option.ite_none_right_eq_some.mp moved
    cases same
    exact ⟨awake.reached, awake.covered, by simp, by simp, fun _ => awake.owed (.inl parking)⟩
  | wake | unlock =>
    obtain ⟨-, same⟩ := Option.ite_none_right_eq_some.mp moved
    cases same
    exact awake.goes (by simp) (by simp)
  | signalLock label =>
    cases signals : queue.signals s.base label with
    | none => simp [Blocking.step, signals] at moved
    | some thread =>
      simp only [Blocking.step, signals] at moved
      obtain ⟨free, same⟩ := Option.ite_none_right_eq_some.mp moved
      cases same
      refine ⟨awake.reached, awake.covered, fun held => ?_, by simp, awake.owed⟩
      rw [awake.held held] at free
      cases free
  | notify =>
    obtain ⟨thread, busy, rfl⟩ : ∃ thread, s.mutex = some (.producer thread false) ∧ s' =
        { s with
          mutex := some (.producer thread true)
          point := if s.point = .parked then .woken else s.point } := by
      simp only [Blocking.step] at moved
      split at moved
      next thread busy => exact ⟨thread, busy, (Option.some.inj moved).symm⟩
      next => cases moved
    have apart := awake.apart busy
    by_cases parked : s.point = .parked
    · rw [if_pos parked]
      exact awake.goes (by simp) (by simp)
    · rw [if_neg parked]
      exact awake.goes (fun held => absurd held apart)
        ⟨fun parks => apart (.inr (.inl parks)), parked⟩
  | signalUnlock label =>
    simp only [Blocking.step] at moved
    split at moved
    next thread owner signals busy =>
      obtain ⟨rfl, left⟩ := Option.ite_none_right_eq_some.mp moved
      obtain ⟨next, taken, rfl, reached, covered⟩ := awake.base lawful left
      have apart := awake.apart busy
      refine ⟨reached, fun sequence returned => ?_, fun held => absurd held apart, by simp, ?_⟩
      · rcases (Bool.or_eq_true _ _).mp returned with before | now
        · exact covered sequence before
        · have advanced := lawful.mono s.base label next awake.reached taken
          have reachedIt := lawful.covered s.base thread sequence awake.reached now
          exact Int.le_trans reachedIt advanced
      · rintro (parks | parks)
        · exact absurd (.inr (.inl parks)) apart
        · exact absurd parks (awake.notified thread busy)
    next => cases moved

/-- No consumer is parked for a sequence whose publishing call has returned. -/
theorem awake_of_reachable (lawful : queue.Lawful) (reached : (system queue).Reachable s) :
    Awake queue s := by
  refine reached.invariant ?_ fun _ _ _ _ awake _ moved => awake.step lawful moved
  rintro _ ⟨base, initial, rfl⟩
  exact ⟨⟨base, initial, .refl⟩, by simp, by simp, by simp, by simp⟩

end Steps

/-- `MultiProducerSequencer`: the consumer waits for the claimed position. -/
def multiProducer (config : Config) (α : Type) : Queue where
  State := Disruptor.State α
  Label := Disruptor.Action α
  system := Disruptor.system config α
  claimed s := s.claimed
  cursor s := s.claimed
  waiting s :=
    match s.consumer with
    | .waitFor sequence _ => some sequence
    | _ => none
  consumes
    | .request _ | .receive _ => true
    | .begin _ _ | .produce _ _ => false
  signals s
    | .produce thread _ =>
      match s.producers thread with
      | .signal => some thread
      | _ => none
    | _ => none
  published s thread sequence := s.stage sequence = .published thread

/-- `SingleProducerSequencer`: the consumer waits for the published position. -/
def singleProducer (config : Config) (α : Type) : Queue where
  State := SingleProducer.State α
  Label := SingleProducer.Step α
  system := SingleProducer.system config α
  claimed s := s.sequencer.claimed
  cursor s := s.sequencer.published
  waiting s :=
    match s.consumer with
    | .waitFor sequence _ => some sequence
    | _ => none
  consumes
    | .request _ | .receive _ => true
    | .begin _ | .produce => false
  signals s
    | .produce =>
      match s.producer with
      | .signal => some 0
      | _ => none
    | _ => none
  published s _ sequence := 0 ≤ sequence ∧ sequence ≤ s.sequencer.published

section Sequencers

variable (config : Config) (α : Type)

/-- A step advances the claimed position, and none of it is the consumer's. -/
theorem multiProducer_step {α : Type} {s s' : Disruptor.State α} {label : Disruptor.Action α}
    (moved : Disruptor.step config s label = some s') : s.claimed ≤ s'.claimed ∧
      ((multiProducer config α).consumes label = false → s'.consumer = s.consumer) := by
  have mono : ∀ effect, s.claimed ≤ (s.apply config effect).claimed := by
    intro effect
    cases effect with
    | claim thread count granted =>
      change s.claimed ≤ s.claimed + count
      omega
    | _ => exact Int.le_refl _
  cases label with
  | begin thread operation =>
    simp only [Disruptor.step] at moved
    split at moved
    next =>
      obtain ⟨-, began⟩ := Option.ite_none_right_eq_some.mp moved
      obtain ⟨move, -, rfl⟩ := Option.map_eq_some_iff.mp began
      exact ⟨mono move.1, fun _ => Disruptor.State.apply_consumer s move.1⟩
    next => cases moved
  | produce thread spurious =>
    obtain ⟨-, produced⟩ := Option.ite_none_right_eq_some.mp moved
    obtain ⟨move, -, rfl⟩ := Option.map_eq_some_iff.mp produced
    exact ⟨mono move.1, fun _ => Disruptor.State.apply_consumer s move.1⟩
  | request wanted =>
    simp only [Disruptor.step] at moved
    split at moved
    next =>
      obtain ⟨move, -, rfl⟩ := Option.map_eq_some_iff.mp moved
      exact ⟨mono move.1, by rintro ⟨⟩⟩
    next => cases moved
  | receive givesUp =>
    obtain ⟨move, -, rfl⟩ := Option.map_eq_some_iff.mp moved
    exact ⟨mono move.1, by rintro ⟨⟩⟩

theorem multiProducer_lawful : (multiProducer config α).Lawful := by
  have claimed : ∀ base thread sequence, (multiProducer config α).system.Reachable base →
      (multiProducer config α).published base thread sequence = true →
      0 ≤ sequence ∧ sequence ≤ (multiProducer config α).claimed base := by
    intro base thread sequence reached published
    have stage : base.stage sequence = .published thread := of_decide_eq_true published
    exact (Disruptor.reachable_invariant reached).sound.inside
      (by simp [stage, Disruptor.Stage.claimant])
  constructor
  case mono => exact fun _ _ _ _ moved => (multiProducer_step config moved).1
  case frame =>
    intro base label next _ other moved
    simp only [multiProducer, (multiProducer_step config moved).2 other]
  case producer =>
    intro base label thread signals
    cases label with
    | produce _ _ => rfl
    | _ => cases signals
  case covered =>
    exact fun base thread sequence reached published =>
      (claimed base thread sequence reached published).2
  case claimed => exact claimed

section

variable {α : Type} {s s' : SingleProducer.State α} (sound : SingleProducer.Sound config s)

include sound

theorem claims_published {action : SingleProducer.Action} (claims : action.claims = true)
    {value : Option α} (moved : s.claims config action value = some s') :
    s.sequencer.published ≤ s'.sequencer.published ∧ s'.consumer = s.consumer := by
  obtain ⟨-, stepped⟩ := Option.ite_none_right_eq_some.mp moved
  obtain ⟨moved, performed, rfl⟩ := Option.map_eq_some_iff.mp stepped
  exact ⟨Int.le_of_eq (sound.sequencer.claims claims performed).published.symm, rfl⟩

/-- A step advances the published position, and none of it is the consumer's. -/
theorem singleProducer_step {label : SingleProducer.Step α}
    (moved : SingleProducer.step config s label = some s') :
    s.sequencer.published ≤ s'.sequencer.published ∧
      ((singleProducer config α).consumes label = false → s'.consumer = s.consumer) := by
  have publishes : ∀ last, s.publishes last = some s' →
      s.sequencer.published ≤ s'.sequencer.published ∧ s'.consumer = s.consumer := by
    intro last published
    obtain ⟨⟨⟨later, -⟩, -⟩, same⟩ := Option.ite_none_right_eq_some.mp published
    cases same
    exact ⟨later, rfl⟩
  cases label with
  | begin operation =>
    refine (?_ : _ ∧ s'.consumer = s.consumer).imp_right fun kept _ => kept
    simp only [SingleProducer.step] at moved
    split at moved
    next =>
      cases operation with
      | next | nextBatch | tryNext => exact claims_published config sound rfl moved
      | emplace value =>
        exact claims_published config sound rfl (Option.ite_none_right_eq_some.mp moved).2
      | write sequence value =>
        obtain ⟨-, same⟩ := Option.ite_none_right_eq_some.mp moved
        cases same
        exact ⟨Int.le_refl _, rfl⟩
      | publish sequence => exact publishes sequence moved
      | publishBatch low high => exact publishes high moved
    next => cases moved
  | produce =>
    have holds := sound.producer
    simp only [SingleProducer.step, SingleProducer.State.produce] at moved
    cases here : s.producer with
    | ready => simp [here] at moved
    | claim value =>
      simp only [here] at moved
      exact (claims_published config sound rfl moved).imp_right fun kept _ => kept
    | destroySlot | constructSlot | signal =>
      simp only [here, Option.some.injEq] at moved
      subst moved
      exact ⟨Int.le_refl _, fun _ => rfl⟩
    | publish sequence =>
      simp only [here, Option.some.injEq] at moved
      subst moved
      rw [here] at holds
      refine ⟨?_, fun _ => rfl⟩
      change s.sequencer.published ≤ sequence
      have next := holds.1
      omega
  | request wanted =>
    refine ⟨Int.le_of_eq ?_, by rintro ⟨⟩⟩
    simp only [SingleProducer.step] at moved
    split at moved
    next =>
      revert moved
      fun_cases SingleProducer.State.request config s wanted <;> rintro ⟨⟩ <;> rfl
    next => cases moved
  | receive givesUp =>
    have resumes : ∀ published (caller : Disruptor.Caller),
        (s.resume published caller).sequencer = s.sequencer := by
      intro published caller
      fun_cases SingleProducer.State.resume s published caller <;> rfl
    refine ⟨Int.le_of_eq ?_, by rintro ⟨⟩⟩
    revert moved
    simp only [SingleProducer.step]
    fun_cases SingleProducer.State.receive config s givesUp <;> rintro ⟨⟩ <;> first
      | rfl
      | rw [resumes]

end

theorem singleProducer_lawful : (singleProducer config α).Lawful where
  mono base label next reached moved :=
    (singleProducer_step config (SingleProducer.reachable_sound reached) moved).1
  frame base label next reached other moved := by
    have sound := SingleProducer.reachable_sound reached
    simp only [singleProducer, (singleProducer_step config sound moved).2 other]
  producer base label thread signals := by
    cases label with
    | produce => rfl
    | _ => cases signals
  covered base thread sequence _ published := (of_decide_eq_true published).2
  claimed base thread sequence reached published := by
    have sound := (SingleProducer.reachable_sound reached).sequencer
    obtain ⟨start, last⟩ := of_decide_eq_true published
    exact ⟨start, Int.le_trans last sound.published⟩

end Sequencers

/-- The disruptor has one of the two sequencers. -/
inductive Queue.IsSequencer : Queue → Prop
  | multiProducer (config : Config) (α : Type) : IsSequencer (Blocking.multiProducer config α)
  | singleProducer (config : Config) (α : Type) : IsSequencer (Blocking.singleProducer config α)

/-- When the publishing calls of all claimed sequences have returned, the consumer is not parked for
a published sequence. -/
theorem not_parked_for_published {queue : Queue} (known : queue.IsSequencer) {s : State queue}
    (reached : (system queue).Reachable s)
    (all : ∀ sequence, 0 ≤ sequence → sequence ≤ queue.claimed s.base → s.returned sequence = true)
    (sequence : Int) (waits : queue.waiting s.base = some sequence) (thread : Nat)
    (published : queue.published s.base thread sequence = true) : s.point ≠ .parked := by
  intro parked
  have lawful : queue.Lawful := by
    cases known with
    | multiProducer config α => exact multiProducer_lawful config α
    | singleProducer config α => exact singleProducer_lawful config α
  have awake := awake_of_reachable lawful reached
  obtain ⟨start, last⟩ := lawful.claimed s.base thread sequence awake.reached published
  have returned := all sequence start last
  rw [awake.owed (.inr parked) sequence waits] at returned
  cases returned

/-- A consumer parks, and a producer publishes and notifies it. -/
def parksAndWakes (queue : Queue) (wait look signal : queue.Label) (steps : List queue.Label) :
    List (Move queue) :=
  [.act wait, .quickCheck look, .lock, .check look, .park] ++ steps.map .act ++
    [.signalLock signal, .notify, .signalUnlock signal]

/-- A consumer parks, and is awake when the publishing call has returned. -/
theorem not_parked_for_published_woken :
    (∃ s, (system (multiProducer Disruptor.twoSlots Nat)).Reachable s ∧
      s.returned 0 = true ∧ s.point ≠ .parked) ∧
    ∃ s, (system (singleProducer Disruptor.twoSlots Nat)).Reachable s ∧
      s.returned 0 = true ∧ s.point ≠ .parked := by
  have woken : ∀ {queue : Queue}, queue.IsSequencer → (∃ s, (system queue).Reachable s ∧
      s.returned 0 = true ∧ queue.claimed s.base = 0 ∧ queue.waiting s.base = some 0 ∧
      queue.published s.base 0 0 = true) →
      ∃ s, (system queue).Reachable s ∧ s.returned 0 = true ∧ s.point ≠ .parked := by
    rintro queue known ⟨s, reached, returned, claimed, waits, published⟩
    refine ⟨s, reached, returned, not_parked_for_published known reached
      (fun sequence start last => ?_) 0 waits 0 published⟩
    obtain rfl : sequence = 0 := Int.le_antisymm (claimed ▸ last) start
    exact returned
  constructor
  · open Disruptor.Action in
    exact woken (.multiProducer _ _)
      ((system (multiProducer Disruptor.twoSlots Nat)).exists_reachable ⟨_, ⟨1, rfl⟩, rfl⟩
      (parksAndWakes _ (request (.waitFor 0)) (receive false) (produce 0 false)
        (begin 0 (.emplace 7) :: List.replicate 5 (produce 0 false)))
      ⟨_, rfl, fun _ => ⟨rfl, rfl, rfl, rfl⟩⟩)
  · open SingleProducer.Step in
    exact woken (.singleProducer _ _)
      ((system (singleProducer Disruptor.twoSlots Nat)).exists_reachable ⟨_, rfl, rfl⟩
      (parksAndWakes _ (request (.waitFor 0)) (receive false) produce
        (begin (.emplace 7) :: List.replicate 4 produce))
      ⟨_, rfl, fun _ => ⟨rfl, rfl, rfl, rfl⟩⟩)

end Menagerie.Starling.Blocking
