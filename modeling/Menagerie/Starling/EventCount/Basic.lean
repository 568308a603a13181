import Menagerie.Library.Census
import Menagerie.Library.Transition

/-!
# The event count

`EventCount` packs an epoch and the number of waiters in one 64-bit word. Waiters register, compare
the epoch with the one they have seen and park on a futex; notifiers advance the epoch and wake
parked waiters. One step is one atomic operation on the word or one system call: `FUTEX_WAIT`
compares and parks at once, and `FUTEX_WAKE` wakes as many parked waiters as it is asked to, if
there are that many.
-/

namespace Menagerie.Starling.EventCount

open Census

/-- The program point of a waiter, from its `prepare_wait` on; `key` is the epoch that it returned,
`seen` the number of notifies before. -/
inductive Waiter
  | idle
  | prepared (key : BitVec 32) (seen : Nat)
  | loadEpoch (key : BitVec 32) (seen : Nat)
  | futexWait (key : BitVec 32) (seen : Nat)
  | parked (key : BitVec 32) (seen : Nat)
  | leave (key : BitVec 32) (seen : Nat)
  deriving DecidableEq, Repr

def Waiter.registered : Waiter → Bool
  | .idle => false
  | .prepared _ _ | .loadEpoch _ _ | .futexWait _ _ | .parked _ _ | .leave _ _ => true

def Waiter.isParked : Waiter → Bool
  | .parked _ _ => true
  | .idle | .prepared _ _ | .loadEpoch _ _ | .futexWait _ _ | .leave _ _ => false

/-- The waiter leaves the futex queue. -/
def Waiter.wake : Waiter → Waiter
  | .parked key seen => .leave key seen
  | other => other

/-- The wake call of a notifier; `number` counts the notifies up to its own. -/
inductive Notifier
  | idle
  | wake (number : Nat) (all : Bool)
  deriving DecidableEq, Repr

/-- The word, the waiters and the notifiers. -/
@[ext]
structure State where
  word : BitVec 64 := 0
  waiterCount : Nat
  waiters : Nat → Waiter := fun _ => .idle
  notifiers : Nat → Notifier := fun _ => .idle
  notifies : Nat := 0
  /-- History: the numbers of the calls of `notify_all` that have completed. -/
  completed : List Nat := []

/-- `epoch_increment`. -/
def epochIncrement : BitVec 64 := 1#64 <<< 32

/-- The number of values of one half of the word. -/
def halfRange : Nat := 4294967296

/-- `INT_MAX`. -/
def intMax : Nat := 2147483647

namespace State

/-- `static_cast<std::uint32_t>(state_ >> 32)`. -/
def epoch (s : State) : BitVec 32 := (s.word >>> 32).setWidth 32

/-- `static_cast<std::uint32_t>(state_)`. -/
def waiterBits (s : State) : BitVec 32 := s.word.setWidth 32

def registered (s : State) : Nat := census Waiter.registered s.waiters s.waiterCount

def parked (s : State) : Nat := census Waiter.isParked s.waiters s.waiterCount

def moves (s : State) (waiter : Nat) (after : Waiter) : State :=
  { s with waiters := Function.update s.waiters waiter after }

/-- `prepare_wait`. -/
def prepareWait (s : State) (waiter : Nat) : State :=
  { s.moves waiter (.prepared s.epoch s.notifies) with word := s.word + 1 }

/-- `cancel_wait` and the end of `wait_until`. -/
def deregister (s : State) (waiter : Nat) : State :=
  { s.moves waiter .idle with word := s.word - 1 }

/-- The epoch step of `notify`, and its end without waiters. -/
def notify (s : State) (notifier : Nat) (all : Bool) : State :=
  let stepped := { s with word := s.word + epochIncrement, notifies := s.notifies + 1 }
  if s.waiterBits ≠ 0 then
    { stepped with
      notifiers := Function.update s.notifiers notifier (.wake (s.notifies + 1) all) }
  else { stepped with completed := if all then s.completed ++ [s.notifies + 1] else s.completed }

/-- How many waiters `FUTEX_WAKE` is asked to wake. -/
def wakeCount (all : Bool) : Nat := if all then intMax else 1

def woken (s : State) (notifier : Nat) (chosen : List Nat) (number : Nat) (all : Bool) : State :=
  { s with
    waiters := fun waiter =>
      if waiter ∈ chosen then (s.waiters waiter).wake else s.waiters waiter
    notifiers := Function.update s.notifiers notifier .idle
    completed := if all then s.completed ++ [number] else s.completed }

/-- The kernel may choose these waiters for `FUTEX_WAKE`. -/
def Choice (s : State) (all : Bool) (chosen : List Nat) : Prop :=
  chosen.Nodup ∧
    (∀ waiter ∈ chosen, waiter < s.waiterCount ∧ (s.waiters waiter).isParked = true) ∧
    chosen.length = min (wakeCount all) s.parked

instance (s : State) (all : Bool) (chosen : List Nat) : Decidable (s.Choice all chosen) :=
  inferInstanceAs (Decidable (_ ∧ _ ∧ _))

end State

/-- One label of the interleaving. -/
inductive Action
  | prepareWait (waiter : Nat)
  | cancelWait (waiter : Nat)
  | waitUntil (waiter : Nat) (late : Bool)
  | proceed (waiter : Nat)
  /-- `FUTEX_WAIT` returns for the deadline, a signal or no reason. -/
  | interrupt (waiter : Nat)
  | notify (notifier : Nat) (all : Bool)
  | wake (notifier : Nat) (chosen : List Nat)
  deriving DecidableEq, Repr

/-- One step of the interleaving. -/
def step (s : State) : Action → Option State
  | .prepareWait waiter =>
    if waiter < s.waiterCount ∧ s.waiters waiter = .idle then some (s.prepareWait waiter) else none
  | .cancelWait waiter =>
    match s.waiters waiter with
    | .prepared _ _ => some (s.deregister waiter)
    | _ => none
  | .waitUntil waiter late =>
    match s.waiters waiter with
    | .prepared key seen =>
      some (s.moves waiter (if late then .leave key seen else .loadEpoch key seen))
    | _ => none
  | .proceed waiter =>
    match s.waiters waiter with
    | .loadEpoch key seen =>
      some (s.moves waiter (if s.epoch = key then .futexWait key seen else .leave key seen))
    | .futexWait key seen =>
      some (s.moves waiter (if s.epoch = key then .parked key seen else .leave key seen))
    | .leave _ _ => some (s.deregister waiter)
    | _ => none
  | .interrupt waiter =>
    match s.waiters waiter with
    | .futexWait key seen | .parked key seen => some (s.moves waiter (.leave key seen))
    | _ => none
  | .notify notifier all =>
    if s.notifiers notifier = .idle then some (s.notify notifier all) else none
  | .wake notifier chosen =>
    match s.notifiers notifier with
    | .wake number all =>
      if s.Choice all chosen then some (s.woken notifier chosen number all) else none
    | .idle => none

/-- An event count with any number of waiters and notifiers. -/
def system : Transition.System State Action where
  initial s := ∃ waiterCount, s = { waiterCount }
  step := step

/-- Fewer than `2 ^ 32` waiters are registered, and fewer than `2 ^ 32` notifies happen between a
`prepare_wait` and the park. -/
def Bounded (s : State) : Action → Prop
  | .prepareWait _ => s.registered + 1 < halfRange
  | .proceed waiter =>
    match s.waiters waiter with
    | .futexWait _ seen => s.notifies < seen + halfRange
    | _ => True
  | _ => True

/-- The wake call of `notify_all` finds at most `INT_MAX` parked waiters. -/
def Wakeable (s : State) : Action → Prop
  | .wake notifier _ =>
    match s.notifiers notifier with
    | .wake _ true => s.parked ≤ intMax
    | _ => True
  | _ => True

end Menagerie.Starling.EventCount
