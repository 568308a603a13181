import Menagerie.Starling.EventCount.Basic
import Mathlib.Data.List.Perm.Subperm

/-!
# No lost wakeup

The word is the number of notifies in its high half and the number of registered waiters in its low
half. A waiter parks only while the epoch is its key, so no notify has followed its registration. A
wake call for all then finds every parked waiter that had registered before the notify.
-/

namespace Menagerie.Starling.EventCount

open Census Function State BitVec List

/-- The key of a registered waiter and the notifies before it. -/
def Waiter.ticket : Waiter → Option (BitVec 32 × Nat)
  | .idle => none
  | .prepared key seen | .loadEpoch key seen | .futexWait key seen | .parked key seen
  | .leave key seen => some (key, seen)

/-- What a step does; with `room`, a wake call for all finds at most `INT_MAX` waiters. -/
inductive Stepped (s : State) (room : Prop) : State → Prop
  | register {waiter : Nat} (known : waiter < s.waiterCount) (idle : s.waiters waiter = .idle)
      (few : s.registered + 1 < halfRange) : Stepped s room (s.prepareWait waiter)
  | deregister {waiter : Nat} (registered : (s.waiters waiter).registered = true) :
      Stepped s room (s.deregister waiter)
  | shift {waiter : Nat} {key : BitVec 32} {seen : Nat} {after : Waiter}
      (before : (s.waiters waiter).ticket = some (key, seen))
      (same : after.ticket = some (key, seen))
      (awake : after.isParked = false) : Stepped s room (s.moves waiter after)
  | park {waiter : Nat} {key : BitVec 32} {seen : Nat}
      (here : s.waiters waiter = .futexWait key seen) (same : s.epoch = key)
      (recent : s.notifies < seen + halfRange) :
      Stepped s room (s.moves waiter (.parked key seen))
  | notify {notifier : Nat} {all : Bool} : Stepped s room (s.notify notifier all)
  | wake {notifier number : Nat} {all : Bool} {chosen : List Nat}
      (pending : s.notifiers notifier = .wake number all) (choice : s.Choice all chosen)
      (found : room → all = true → s.parked ≤ intMax) :
      Stepped s room (s.woken notifier chosen number all)

theorem Waiter.registered_eq (waiter : Waiter) : waiter.registered = waiter.ticket.isSome := by
  cases waiter <;> rfl

theorem stepped {s s' : State} {action : Action} (allowed : Bounded s action)
    (moved : step s action = some s') : Stepped s (Wakeable s action) s' := by
  revert moved
  fun_cases step s action with
  | case1 waiter fits =>
    rintro ⟨⟩
    exact .register fits.1 fits.2 allowed
  | case3 waiter key seen frame | case9 waiter key seen frame =>
    rintro ⟨⟩
    exact .deregister (by rw [frame]; rfl)
  | case5 waiter late key seen frame =>
    rintro ⟨⟩
    refine .shift (congrArg Waiter.ticket frame) ?_ ?_
    · cases late <;> rfl
    · cases late <;> rfl
  | case7 waiter key seen frame =>
    rintro ⟨⟩
    refine .shift (congrArg Waiter.ticket frame) ?_ ?_
    · split_ifs <;> rfl
    · split_ifs <;> rfl
  | case8 waiter key seen frame =>
    rintro ⟨⟩
    rw [Bounded, frame] at allowed
    split_ifs with same
    · exact .park frame same allowed
    · exact .shift (congrArg Waiter.ticket frame) rfl rfl
  | case11 waiter key seen frame | case12 waiter key seen frame =>
    rintro ⟨⟩
    exact .shift (congrArg Waiter.ticket frame) rfl rfl
  | case14 notifier all idle =>
    rintro ⟨⟩
    exact .notify
  | case16 notifier chosen number all frame choice =>
    rintro ⟨⟩
    refine .wake frame choice ?_
    rintro room rfl
    rw [Wakeable, frame] at room
    exact room
  | _ => exact nofun

section Counts

variable {s : State}

theorem Waiter.wake_ticket (waiter : Waiter) : waiter.wake.ticket = waiter.ticket := by
  cases waiter <;> rfl

theorem State.woken_ticket (s : State) (notifier number waiter : Nat) (chosen : List Nat)
    (all : Bool) : ((s.woken notifier chosen number all).waiters waiter).ticket =
      (s.waiters waiter).ticket := by
  change (if waiter ∈ chosen then (s.waiters waiter).wake else s.waiters waiter).ticket = _
  split_ifs
  · exact Waiter.wake_ticket _
  · rfl

theorem State.moves_registered (s : State) {waiter : Nat} {after : Waiter}
    (known : waiter < s.waiterCount) (same : after.registered = (s.waiters waiter).registered) :
    (s.moves waiter after).registered = s.registered := by
  have update := census_update Waiter.registered s.waiters known after
  rw [same] at update
  change census Waiter.registered (Function.update s.waiters waiter after) s.waiterCount = _
  unfold registered
  omega

theorem State.prepareWait_registered {waiter : Nat} (s : State) (known : waiter < s.waiterCount)
    (idle : s.waiters waiter = .idle) : (s.prepareWait waiter).registered = s.registered + 1 := by
  have update := census_update Waiter.registered s.waiters known (.prepared s.epoch s.notifies)
  rw [idle] at update
  exact update

theorem State.deregister_registered {waiter : Nat} (s : State) (known : waiter < s.waiterCount)
    (registered : (s.waiters waiter).registered = true) :
    (s.deregister waiter).registered + 1 = s.registered := by
  have update := census_update Waiter.registered s.waiters known .idle
  rw [registered] at update
  exact update

section

variable {notifier number waiter : Nat} {chosen : List Nat} {all : Bool}

theorem State.woken_other (s : State) (other : waiter ∉ chosen) :
    (s.woken notifier chosen number all).waiters waiter = s.waiters waiter := if_neg other

theorem State.woken_parked {s : State} {seen : Nat} {key : BitVec 32}
    (here : (s.woken notifier chosen number all).waiters waiter = .parked key seen) :
    s.waiters waiter = .parked key seen ∧ waiter ∉ chosen := by
  by_cases woken : waiter ∈ chosen
  · have left : (s.waiters waiter).wake = .parked key seen := (if_pos woken).symm.trans here
    cases frame : s.waiters waiter <;> rw [frame] at left <;> cases left
  · rw [woken_other s woken] at here
    exact ⟨here, woken⟩

end

theorem State.woken_registered (s : State) (notifier number : Nat) (chosen : List Nat)
    (all : Bool) : (s.woken notifier chosen number all).registered = s.registered := by
  refine countP_congr ?_
  intro waiter _
  rw [Waiter.registered_eq, Waiter.registered_eq, woken_ticket]

theorem State.notify_frame (s : State) (notifier : Nat) (all : Bool) :
    (s.notify notifier all).word = s.word + epochIncrement ∧
      (s.notify notifier all).notifies = s.notifies + 1 ∧
      (s.notify notifier all).waiters = s.waiters ∧
      (s.notify notifier all).waiterCount = s.waiterCount := by
  unfold notify
  split
  · exact ⟨rfl, rfl, rfl, rfl⟩
  · exact ⟨rfl, rfl, rfl, rfl⟩

theorem State.notify_registered (s : State) (notifier : Nat) (all : Bool) :
    (s.notify notifier all).registered = s.registered := by
  obtain ⟨-, -, waiters, count⟩ := s.notify_frame notifier all
  unfold registered
  rw [waiters, count]

section

variable {s : State} {notifier number : Nat} {all : Bool}

theorem State.notify_pending {other : Nat} {every : Bool}
    (waking : (s.notify notifier all).notifiers other = .wake number every) :
    number = s.notifies + 1 ∨ s.notifiers other = .wake number every := by
  unfold notify at waking
  split at waking
  · rcases update_apply_eq.mp waking with ⟨-, ⟨⟩⟩ | ⟨-, waking⟩
    · exact .inl rfl
    · exact .inr waking
  · exact .inr waking

theorem State.woken_completed {other : Nat} {chosen : List Nat}
    (member : other ∈ (s.woken notifier chosen number all).completed) :
    other ∈ s.completed ∨ other = number ∧ all = true := by
  cases all <;> simpa [woken] using member

/-- `notify_all` completes with its epoch step only when nobody is registered. -/
theorem State.notify_completed (member : number ∈ (s.notify notifier all).completed) :
    number ∈ s.completed ∨ number = s.notifies + 1 ∧ s.waiterBits = 0 := by
  unfold notify at member
  split at member
  · exact .inl member
  · rename_i none
    cases all <;> simp_all

end

end Counts

/-- The number of notifies and of waiters in one word. -/
def packed (notifies registered : Nat) : BitVec 64 :=
  BitVec.ofNat 64 (notifies * halfRange + registered)

theorem packed_register (notifies registered : Nat) :
    packed notifies registered + 1 = packed notifies (registered + 1) := by
  rw [packed, packed, ← Nat.add_assoc, ofNat_add (_ + _) 1]
  rfl

theorem packed_deregister (notifies registered : Nat) :
    packed notifies (registered + 1) - 1 = packed notifies registered := by
  rw [← packed_register, add_sub_cancel]

theorem packed_notify (notifies registered : Nat) :
    packed notifies registered + epochIncrement = packed (notifies + 1) registered := by
  have sum : (notifies + 1) * halfRange + registered =
      notifies * halfRange + registered + halfRange := by
    unfold halfRange
    omega
  rw [packed, packed, sum, ofNat_add _ halfRange]
  rfl

section

variable {notifies registered : Nat} (few : registered < halfRange)

include few

theorem packed_epoch :
    (packed notifies registered >>> 32).setWidth 32 = BitVec.ofNat 32 notifies := by
  refine eq_of_toNat_eq ?_
  rw [packed, toNat_setWidth, toNat_ushiftRight, toNat_ofNat,
    toNat_ofNat, Nat.shiftRight_eq_div_pow]
  unfold halfRange at few ⊢
  omega

theorem packed_waiters :
    ((packed notifies registered).setWidth 32).toNat = registered := by
  rw [packed, toNat_setWidth, toNat_ofNat]
  unfold halfRange at few ⊢
  omega

end

/-- The waiter holds the key of an earlier epoch. -/
def Keyed (notifies : Nat) (waiter : Waiter) : Prop :=
  ∀ key seen, waiter.ticket = some (key, seen) → key = BitVec.ofNat 32 seen ∧ seen ≤ notifies

/-- The invariant of the event count. -/
structure Sound (s : State) : Prop where
  word : s.word = packed s.notifies s.registered
  few : s.registered < halfRange
  known : ∀ waiter, (s.waiters waiter).registered = true → waiter < s.waiterCount
  keyed : ∀ waiter, Keyed s.notifies (s.waiters waiter)
  pending : ∀ notifier number all, s.notifiers notifier = .wake number all → number ≤ s.notifies
  completed : ∀ number ∈ s.completed, number ≤ s.notifies

section Sound

variable {s : State}

section

variable (sound : Sound s)

include sound

theorem Sound.epoch : s.epoch = BitVec.ofNat 32 s.notifies := by
  unfold State.epoch
  rw [sound.word]
  exact packed_epoch sound.few

theorem Sound.waiterBits : s.waiterBits.toNat = s.registered := by
  unfold State.waiterBits
  rw [sound.word]
  exact packed_waiters sound.few

theorem Sound.moves (waiter : Nat) (after : Waiter)
    (known : after.registered = true → waiter < s.waiterCount) (keyed : Keyed s.notifies after) :
    (∀ other, ((s.moves waiter after).waiters other).registered = true → other < s.waiterCount) ∧
      ∀ other, Keyed s.notifies ((s.moves waiter after).waiters other) := by
  constructor
  · refine (forall_update_iff s.waiters fun other state =>
      state.registered = true → other < s.waiterCount).mpr ?_
    exact ⟨known, fun other _ => sound.known other⟩
  · refine (forall_update_iff s.waiters fun _ => Keyed s.notifies).mpr ?_
    exact ⟨keyed, fun other _ => sound.keyed other⟩

/-- A waiter parks only when no notify followed its registration. -/
theorem Sound.recent {waiter seen : Nat} {key : BitVec 32}
    (here : s.waiters waiter = .futexWait key seen) (same : s.epoch = key)
    (recent : s.notifies < seen + halfRange) : s.notifies = seen := by
  obtain ⟨old, before⟩ := sound.keyed waiter key seen (by rw [here]; rfl)
  rw [sound.epoch, old] at same
  have low := congrArg BitVec.toNat same
  rw [toNat_ofNat, toNat_ofNat] at low
  unfold halfRange at recent
  omega

theorem Sound.register {waiter : Nat} (known : waiter < s.waiterCount)
    (idle : s.waiters waiter = .idle) (few : s.registered + 1 < halfRange) :
    Sound (s.prepareWait waiter) := by
  have keyed : Keyed s.notifies (.prepared s.epoch s.notifies) := by
    rintro key seen ⟨⟩
    exact ⟨sound.epoch, Nat.le_refl _⟩
  obtain ⟨knownAfter, keyedAfter⟩ := sound.moves waiter _ (fun _ => known) keyed
  have count := s.prepareWait_registered known idle
  refine ⟨?_, by omega, knownAfter, keyedAfter, sound.pending, sound.completed⟩
  rw [count]
  change s.word + 1 = packed s.notifies (s.registered + 1)
  rw [sound.word, packed_register]

theorem Sound.deregister {waiter : Nat} (registered : (s.waiters waiter).registered = true) :
    Sound (s.deregister waiter) := by
  have known := sound.known waiter registered
  have keyed : Keyed s.notifies .idle := by
    intro key seen impossible
    cases impossible
  obtain ⟨knownAfter, keyedAfter⟩ := sound.moves waiter _ (fun _ => known) keyed
  have count := s.deregister_registered known registered
  have few := sound.few
  refine ⟨?_, by omega, knownAfter, keyedAfter, sound.pending, sound.completed⟩
  change s.word - 1 = packed s.notifies (s.deregister waiter).registered
  rw [sound.word, ← count, packed_deregister]

theorem Sound.proceed {waiter : Nat} {after : Waiter}
    (registered : (s.waiters waiter).registered = true)
    (same : after.ticket = (s.waiters waiter).ticket) : Sound (s.moves waiter after) := by
  have known := sound.known waiter registered
  have keyed : Keyed s.notifies after := by
    unfold Keyed
    rw [same]
    exact sound.keyed waiter
  obtain ⟨knownAfter, keyedAfter⟩ := sound.moves waiter _ (fun _ => known) keyed
  have count : (s.moves waiter after).registered = s.registered := by
    refine s.moves_registered known ?_
    rw [Waiter.registered_eq, Waiter.registered_eq, same]
  refine ⟨?_, ?_, knownAfter, keyedAfter, sound.pending, sound.completed⟩
  · rw [count]
    exact sound.word
  · rw [count]
    exact sound.few

theorem Sound.notify (notifier : Nat) (all : Bool) :
    Sound (s.notify notifier all) := by
  obtain ⟨word, few, known, keyed, pending, completed⟩ := sound
  obtain ⟨wordAfter, notifies, waiters, waiterCount⟩ := s.notify_frame notifier all
  have count := s.notify_registered notifier all
  refine ⟨?_, ?_, ?_, ?_, ?_, ?_⟩
  · rw [wordAfter, notifies, count, word, packed_notify]
  · rw [count]
    exact few
  · rw [waiters, waiterCount]
    exact known
  · rw [waiters, notifies]
    intro waiter key seen ticket
    obtain ⟨old, before⟩ := keyed waiter key seen ticket
    exact ⟨old, by omega⟩
  · rw [notifies]
    intro other number every waking
    rcases notify_pending waking with new | old
    · omega
    · exact Nat.le_succ_of_le (pending other number every old)
  · rw [notifies]
    intro number member
    rcases notify_completed member with old | ⟨new, -⟩
    · exact Nat.le_succ_of_le (completed number old)
    · omega

theorem Sound.woken {notifier number : Nat} {all : Bool}
    (waking : s.notifiers notifier = .wake number all) (chosen : List Nat) :
    Sound (s.woken notifier chosen number all) := by
  obtain ⟨word, few, known, keyed, pending, completed⟩ := sound
  have count := s.woken_registered notifier number chosen all
  refine ⟨?_, ?_, ?_, ?_, ?_, ?_⟩
  · rw [count]
    exact word
  · rw [count]
    exact few
  · intro waiter registered
    rw [Waiter.registered_eq, woken_ticket, ← Waiter.registered_eq] at registered
    exact known waiter registered
  · intro waiter key seen ticket
    rw [woken_ticket] at ticket
    exact keyed waiter key seen ticket
  · intro other before every left
    rcases update_apply_eq.mp left with ⟨-, ⟨⟩⟩ | ⟨-, left⟩
    exact pending other before every left
  · intro other member
    rcases woken_completed member with old | ⟨rfl, -⟩
    · exact completed other old
    · exact pending notifier other all waking

theorem Sound.step {room : Prop} {s' : State} (moved : Stepped s room s') : Sound s' := by
  cases moved with
  | register known idle few => exact sound.register known idle few
  | deregister registered => exact sound.deregister registered
  | shift before same awake =>
    refine sound.proceed ?_ (same.trans before.symm)
    rw [Waiter.registered_eq, before]
    rfl
  | park here same recent => exact sound.proceed (by rw [here]; rfl) (by rw [here]; rfl)
  | notify => exact sound.notify _ _
  | wake pending choice found => exact sound.woken pending _

end

theorem sound_new (waiterCount : Nat) : Sound { waiterCount } := by
  have none : registered { waiterCount } = 0 := by
    refine countP_eq_zero.mpr ?_
    intro waiter _ registered
    cases registered
  refine ⟨?_, ?_, by simp [Waiter.registered], by simp [Keyed, Waiter.ticket], by simp, by simp⟩
  · rw [none]
    change 0#64 = packed 0 0
    decide
  · rw [none]
    exact Nat.zero_lt_succ _

theorem reachable_sound (reached : system.ReachableBy Bounded s) : Sound s := by
  refine reached.invariant ?_ ?_
  · rintro _ ⟨waiterCount, rfl⟩
    exact sound_new waiterCount
  · intro s action s' _ sound allowed moved
    exact sound.step (stepped allowed moved)

end Sound

/-- Nobody is parked who registered before a completed `notify_all`. -/
def Awake (s : State) : Prop :=
  ∀ number ∈ s.completed, ∀ waiter key seen, s.waiters waiter = .parked key seen → number ≤ seen

section Awake

variable {s : State}

theorem Sound.parked_known (sound : Sound s) {waiter seen : Nat} {key : BitVec 32}
    (here : s.waiters waiter = .parked key seen) : waiter < s.waiterCount :=
  sound.known waiter (by rw [here]; rfl)

theorem State.Choice.all {all : Bool} {chosen : List Nat} (choice : s.Choice all chosen)
    (enough : s.parked ≤ wakeCount all) {waiter : Nat} (known : waiter < s.waiterCount)
    (here : (s.waiters waiter).isParked = true) : waiter ∈ chosen := by
  obtain ⟨nodup, parked, size⟩ := choice
  rw [Nat.min_eq_right enough, State.parked, census, countP_eq_length_filter] at size
  have inside : chosen ⊆ (range s.waiterCount).filter
      (fun other => (s.waiters other).isParked) := by
    intro other member
    obtain ⟨below, asleep⟩ := parked other member
    exact mem_filter.mpr ⟨mem_range.mpr below, asleep⟩
  have same := (nodup.subperm inside).perm_of_length_le (Nat.le_of_eq size.symm)
  exact same.mem_iff.mpr (mem_filter.mpr ⟨mem_range.mpr known, here⟩)

theorem Awake.moves (awake : Awake s) {waiter : Nat} {after : Waiter}
    (late : ∀ number ∈ s.completed, ∀ key seen, after = .parked key seen → number ≤ seen) :
    Awake (s.moves waiter after) := by
  intro number member other key seen here
  rcases update_apply_eq.mp here with ⟨-, here⟩ | ⟨-, here⟩
  · exact late number member key seen here
  · exact awake number member other key seen here

theorem Awake.step (awake : Awake s) (sound : Sound s) {room : Prop} (roomy : room) {s' : State}
    (moved : Stepped s room s') : Awake s' := by
  cases moved with
  | register known idle few | deregister registered =>
    exact awake.moves (by simp)
  | shift before same up =>
    refine awake.moves ?_
    rintro number _ key seen rfl
    cases up
  | park here same recent =>
    refine awake.moves ?_
    rintro number member key seen ⟨⟩
    have level := sound.recent here same recent
    have before := sound.completed number member
    omega
  | @notify notifier all =>
    intro number member waiter key seen here
    rw [(s.notify_frame notifier all).2.2.1] at here
    rcases notify_completed member with old | ⟨-, nobody⟩
    · exact awake number old waiter key seen here
    · -- Nobody was registered at the epoch step.
      have none : s.registered = 0 := by
        rw [← sound.waiterBits, nobody]
        rfl
      have counted : (s.waiters waiter).registered = true := by
        rw [here]
        rfl
      have some : 0 < s.registered := census_pos (sound.parked_known here) counted
      omega
  | @wake notifier number all chosen pending choice found =>
    intro other member waiter key seen here
    have before := woken_parked here
    rcases woken_completed member with old | ⟨-, every⟩
    · exact awake other old waiter key seen before.1
    · have asleep : (s.waiters waiter).isParked = true := by
        rw [before.1]
        rfl
      have enough : s.parked ≤ wakeCount all := by
        rw [every]
        exact found roomy every
      exact absurd (choice.all enough (sound.parked_known before.1) asleep) before.2

theorem reachable_awake
    (reached : system.ReachableBy (fun s action => Bounded s action ∧ Wakeable s action) s) :
    Sound s ∧ Awake s := by
  refine @Transition.System.ReachableBy.invariant _ _ system _ (fun s => Sound s ∧ Awake s) s
    reached ?_ ?_
  · rintro _ ⟨waiterCount, rfl⟩
    exact ⟨sound_new waiterCount, by simp [Awake]⟩
  · rintro s action s' _ ⟨sound, awake⟩ ⟨allowed, roomy⟩ moved
    have taken := stepped allowed moved
    exact ⟨sound.step taken, awake.step sound roomy taken⟩

end Awake

def Action.ofWaiter : Action → Bool
  | .prepareWait _ | .cancelWait _ | .waitUntil _ _ | .proceed _ | .interrupt _ => true
  | .notify _ _ | .wake _ _ => false

theorem step_notifies {s s' : State} {action : Action} (waits : action.ofWaiter = true)
    (moved : step s action = some s') : s'.notifies = s.notifies := by
  revert moved
  fun_cases step s action
  all_goals first
    | (rintro ⟨⟩; rfl)
    | contradiction
    | exact nofun

theorem Sound.parks {s s' : State} (sound : Sound s) {room : Prop} (moved : Stepped s room s')
    {waiter seen : Nat} {key : BitVec 32} (before : (s.waiters waiter).isParked = false)
    (after : s'.waiters waiter = .parked key seen) : s.notifies = seen := by
  have moves : ∀ {other : Nat} {now : Waiter},
      update s.waiters other now waiter = .parked key seen →
      waiter = other ∧ now = .parked key seen := by
    intro other now here
    rcases update_apply_eq.mp here with same | ⟨-, here⟩
    · exact same
    · rw [here] at before
      cases before
  cases moved with
  | register known idle few | deregister registered => cases (moves after).2
  | shift ticket same awake =>
    rw [(moves after).2] at awake
    cases awake
  | park here same recent =>
    cases (moves after).2
    exact sound.recent here same recent
  | @notify notifier all =>
    rw [(s.notify_frame notifier all).2.2.1] at after
    rw [after] at before
    cases before
  | @wake notifier number all chosen pending choice found =>
    rw [(woken_parked after).1] at before
    cases before

/-- With fewer than `2 ^ 32` waiters at once, and notifies between a `prepare_wait` and the park,
the low half of the word counts the waiters, waiters keep the epoch, and nobody parks after a
notify; and where `notify_all` never finds more than `INT_MAX` parked waiters, it leaves none of
them parked. -/
theorem event_count_wakes {s : State} (reached : system.ReachableBy Bounded s) :
    s.waiterBits.toNat = s.registered ∧
    (∀ action s', Bounded s action → step s action = some s' → action.ofWaiter = true →
      s'.epoch = s.epoch) ∧
    (∀ action s' waiter key seen, Bounded s action → step s action = some s' →
      (s.waiters waiter).isParked = false → s'.waiters waiter = .parked key seen →
      s.notifies = seen) ∧
    (system.ReachableBy (fun s action => Bounded s action ∧ Wakeable s action) s →
      ∀ number ∈ s.completed, ∀ waiter key seen, s.waiters waiter = .parked key seen →
        number ≤ seen) := by
  have sound := reachable_sound reached
  refine ⟨sound.waiterBits, ?_, ?_, ?_⟩
  · intro action s' allowed moved waits
    rw [sound.epoch, (sound.step (stepped allowed moved)).epoch, step_notifies waits moved]
  · intro action s' waiter key seen allowed moved before after
    exact sound.parks (stepped allowed moved) before after
  · intro within
    exact (reachable_awake within).2

@[simp] theorem State.moves_self (s : State) (waiter : Nat) (after : Waiter) :
    (s.moves waiter after).waiters waiter = after := update_self _ _ _

@[simp] theorem State.moves_moves (s : State) (waiter : Nat) (first second : Waiter) :
    (s.moves waiter first).moves waiter second = s.moves waiter second := by
  simp [moves]

@[simp] theorem State.moves_epoch (s : State) (waiter : Nat) (after : Waiter) :
    (s.moves waiter after).epoch = s.epoch := rfl

theorem leads_parked {s : State} {waiter seen : Nat} {key : BitVec 32}
    (prepared : s.waiters waiter = .prepared key seen) (still : s.epoch = key)
    (recent : s.notifies < seen + halfRange) :
    system.Leads Bounded s (s.moves waiter (.parked key seen)) := by
  have wait : step s (.waitUntil waiter false) = some (s.moves waiter (.loadEpoch key seen)) := by
    simp [step, prepared]
  have load : step (s.moves waiter (.loadEpoch key seen)) (.proceed waiter) =
      some (s.moves waiter (.futexWait key seen)) := by
    simp [step, still]
  have park : step (s.moves waiter (.futexWait key seen)) (.proceed waiter) =
      some (s.moves waiter (.parked key seen)) := by
    simp [step, still]
  have waits : Bounded s (.waitUntil waiter false) := trivial
  have loads : Bounded (s.moves waiter (.loadEpoch key seen)) (.proceed waiter) := by
    simp [Bounded]
  have parks : Bounded (s.moves waiter (.futexWait key seen)) (.proceed waiter) := by
    rw [Bounded, moves_self]
    exact recent
  exact .tail (.tail (.tail .refl waits wait) loads load) parks park

def crowd (waiterCount size : Nat) : State where
  word := packed 0 size
  waiterCount
  waiters waiter := if waiter < size then .parked 0 0 else .idle

theorem crowd_waiters (waiterCount size : Nat) :
    update (crowd waiterCount size).waiters size (.parked 0 0) =
      (crowd waiterCount (size + 1)).waiters := by
  funext waiter
  simp only [crowd, update_apply]
  split_ifs <;> first | rfl | omega

theorem crowd_reachable (waiterCount : Nat) {size : Nat} (inside : size ≤ waiterCount)
    (few : size < halfRange) : system.ReachableBy Bounded (crowd waiterCount size) := by
  induction size with
  | zero => exact ⟨_, ⟨waiterCount, rfl⟩, .refl⟩
  | succ size ih =>
    have before := ih (by omega) (by omega)
    have registered : (crowd waiterCount size).registered = size := by
      rw [← (reachable_sound before).waiterBits]
      exact packed_waiters (by omega)
    have epoch : (crowd waiterCount size).epoch = 0 := packed_epoch (by omega)
    have register : step (crowd waiterCount size) (.prepareWait size) =
        some ((crowd waiterCount size).prepareWait size) := if_pos ⟨inside, if_neg (by omega)⟩
    have bound : Bounded (crowd waiterCount size) (.prepareWait size) := by
      rw [Bounded, registered]
      exact few
    have still : ((crowd waiterCount size).prepareWait size).epoch =
        (crowd waiterCount size).epoch := by
      rw [epoch]
      change ((packed 0 size + 1) >>> 32).setWidth 32 = 0
      rw [packed_register]
      exact packed_epoch few
    have parks := leads_parked (update_self _ _ _) still
      (Nat.lt_add_of_pos_right (Nat.zero_lt_succ _))
    have same : ((crowd waiterCount size).prepareWait size).moves size
        (.parked (crowd waiterCount size).epoch (crowd waiterCount size).notifies) =
        crowd waiterCount (size + 1) := by
      rw [epoch]
      refine State.ext (packed_register 0 size) rfl ?_ rfl rfl rfl
      change update (update (crowd waiterCount size).waiters size _) size _ = _
      rw [update_idem]
      exact crowd_waiters waiterCount size
    rw [← same]
    exact before.leads (.trans (.tail .refl bound register) parks)

/-- `notify_all` leaves one of `2 ^ 31` parked waiters parked. -/
theorem event_count_overcrowded : ∃ s, system.ReachableBy Bounded s ∧
    ∃ number ∈ s.completed, ∃ waiter key seen,
      s.waiters waiter = .parked key seen ∧ seen < number := by
  have few : intMax + 1 < halfRange := by
    unfold intMax halfRange
    omega
  have before := crowd_reachable (intMax + 1) (Nat.le_refl _) few
  generalize full : crowd (intMax + 1) (intMax + 1) = s at before
  have asleep : ∀ waiter < intMax + 1, s.waiters waiter = .parked 0 0 := by
    rw [← full]
    exact fun waiter below => if_pos below
  have count : s.waiterCount = intMax + 1 := by
    rw [← full]
    rfl
  have some : s.waiterBits ≠ 0 := by
    intro none
    have bits : s.waiterBits.toNat = intMax + 1 := by
      rw [← full]
      exact packed_waiters few
    rw [none] at bits
    cases bits
  have ready : s.notifiers 0 = .idle := by
    rw [← full]
    rfl
  obtain ⟨-, -, waiters, waiterCount⟩ := s.notify_frame 0 true
  have pending : (s.notify 0 true).notifiers 0 = .wake (s.notifies + 1) true := by
    unfold notify
    rw [if_pos some]
    change update s.notifiers 0 (.wake (s.notifies + 1) true) 0 = _
    rw [update_self]
  -- The kernel wakes all but the last waiter.
  have choice : (s.notify 0 true).Choice true (range intMax) := by
    refine ⟨nodup_range, ?_, ?_⟩
    · intro waiter member
      have below := mem_range.mp member
      rw [waiters, waiterCount, count, asleep waiter (by omega)]
      exact ⟨by omega, rfl⟩
    · have all : (s.notify 0 true).parked = intMax + 1 := by
        unfold parked
        rw [waiters, waiterCount, count]
        refine census_all ?_
        intro waiter below
        rw [asleep waiter below]
        rfl
      rw [all, length_range]
      exact (Nat.min_eq_left (Nat.le_succ _)).symm
  have notified : step s (.notify 0 true) = .some (s.notify 0 true) := if_pos ready
  have woken : step (s.notify 0 true) (.wake 0 (range intMax)) =
      .some ((s.notify 0 true).woken 0 (range intMax) (s.notifies + 1) true) := by
    rw [step, pending]
    exact if_pos choice
  have within : Bounded s (.notify 0 true) := trivial
  have still : Bounded (s.notify 0 true) (.wake 0 (range intMax)) := trivial
  refine ⟨_, before.leads (.tail (.tail .refl within notified) still woken), s.notifies + 1, ?_,
    intMax, 0, 0, ?_, Nat.zero_lt_succ _⟩
  · exact mem_append_right _ (mem_singleton.mpr rfl)
  · rw [woken_other _ not_mem_range_self, waiters]
    exact asleep intMax (Nat.lt_succ_self _)

instance (s : State) (action : Action) : Decidable (Bounded s action ∧ Wakeable s action) := by
  unfold Bounded Wakeable
  refine @instDecidableAnd _ _ ?_ ?_
  · split <;> try split
    all_goals infer_instance
  · split <;> try split
    all_goals infer_instance

/-- `notify_all` wakes two parked waiters; one of them parks again. -/
theorem event_count_wakes_crowd : ∃ s,
    system.ReachableBy (fun s action => Bounded s action ∧ Wakeable s action) s ∧
    s.completed = [1] ∧ s.waiters 0 = .parked 1 1 ∧ s.waiters 1 = .leave 0 0 ∧
    s.waiterBits.toNat = s.registered ∧
    ∀ number ∈ s.completed, ∀ waiter key seen, s.waiters waiter = .parked key seen →
      number ≤ seen := by
  obtain ⟨s, reached, completed, parked, woken⟩ : ∃ s,
      system.ReachableBy (fun s action => Bounded s action ∧ Wakeable s action) s ∧
      s.completed = [1] ∧ s.waiters 0 = .parked 1 1 ∧ s.waiters 1 = .leave 0 0 :=
    system.exists_reachableBy _ ⟨2, rfl⟩ [.prepareWait 0, .waitUntil 0 false, .proceed 0,
      .proceed 0, .prepareWait 1, .waitUntil 1 false, .proceed 1, .proceed 1, .notify 0 true,
      .wake 0 [0, 1], .proceed 0, .prepareWait 0, .waitUntil 0 false, .proceed 0, .proceed 0]
      ⟨_, rfl, fun _ => ⟨rfl, rfl, rfl⟩⟩
  have bounded : system.ReachableBy Bounded s := by
    obtain ⟨start, initial, run⟩ := reached
    exact ⟨start, initial, run.mono (fun _ _ allowed => allowed.1)⟩
  obtain ⟨counted, -, -, awake⟩ := event_count_wakes bounded
  exact ⟨s, reached, completed, parked, woken, counted, awake reached⟩

end Menagerie.Starling.EventCount
