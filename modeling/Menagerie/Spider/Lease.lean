import Mathlib.Algebra.Group.Nat.Defs
import Mathlib.Algebra.Ring.Int.Defs
import Menagerie.Spider.Basic

/-!
# Registrations over resets and leases

The calls of `get`, `reset`, `has` and `sweep` on one key, one after the other, after a factory that
does not throw was registered for it. `reset` erases the slot and the factory with it. A lease is
given in seconds and compared in nanoseconds, both in an `std::int64_t`; an overflow of the
conversion is undefined in C++, and wraps here as it does on the machine.
-/

namespace Menagerie.Spider.Lease

open List Option

/-- The slot of the key, with its `last_touch` in nanoseconds. -/
structure Entry where
  slot : Slot
  lastTouch : Int
  deriving DecidableEq

/-- What `map_` has for the key, and how many instances were built. -/
structure State where
  entry : Option Entry
  built : Nat := 0
  deriving DecidableEq

/-- `build_handle`, for the time that it reads. -/
def buildHandle (now : Int) (entry : Entry) : Entry :=
  if entry.slot.lt = .timed then { entry with lastTouch := now } else entry

/-- The slot in which `get` has stored a new object. -/
def stored (slot : Slot) (object : Object) : Slot :=
  { slot with
    obj := some object
    expiredFlag := if slot.lt = .timed then some false else slot.expiredFlag }

/-- `get`; alone, the second check finds what the first one found. -/
def get (now : Int) (state : State) : Outcome × State :=
  match state.entry with
  | none => (.notRegistered, state)
  | some entry =>
    match entry.slot.current with
    | some object => (.handle object, { state with entry := some (buildHandle now entry) })
    | none =>
      match entry.slot.factory with
      | none => (.noFactory, state)
      | some factory =>
        let object := Object.created factory state.built
        (.handle object, {
          entry := some (buildHandle now { slot := stored entry.slot object, lastTouch := now })
          built := state.built + 1 })

/-- `reset`, which throws unless the key is registered and `Resettable`. -/
def reset (state : State) : State :=
  match state.entry with
  | none => state
  | some entry => if entry.slot.lt = .resettable then { state with entry := none } else state

/-- `has`. -/
def has (state : State) : Bool := state.entry.isSome

/-- What an `std::int64_t` holds of a result. -/
def int64 (value : Int) : Int := value.bmod (2 ^ 64)

/-- A duration in seconds, converted to nanoseconds. -/
def nanoseconds (seconds : Int) : Int := int64 (seconds * 10 ^ 9)

/-- `sweep`, for the time that it reads; `idle` is in seconds. -/
def sweep (idle now : Int) (state : State) : State :=
  { state with
    entry := state.entry.bind fun entry =>
      (State.sweepSlot (int64 (now - entry.lastTouch) > nanoseconds idle) entry.slot).map
        ({ entry with slot := · }) }

/-- The instance in the slot. -/
def inSlot (state : State) : Option Object := state.entry.bind (·.slot.obj)

/-- The calls on the key. -/
inductive Call
  | get (now : Int)
  | reset
  | has
  | sweep (now : Int)
  deriving DecidableEq

/-- The calls since the registration, the latest first. -/
abbrev History := List Call

/-- The last reading of the clock. -/
def clock : History → Int
  | [] => -2 ^ 63
  | .get now :: _ | .sweep now :: _ => now
  | .reset :: earlier | .has :: earlier => clock earlier

/-- The clock fits an `std::int64_t` and does not go back. -/
def Orderly : History → Prop
  | [] => True
  | .get now :: earlier | .sweep now :: earlier =>
    clock earlier ≤ now ∧ now < 2 ^ 63 ∧ Orderly earlier
  | .reset :: earlier | .has :: earlier => Orderly earlier

section

variable (lease : Option Int)

/-- `Timed` with an idle duration, or `Resettable`. -/
def lifetime : Lifetime := if lease.isSome then .timed else .resettable

/-- The slot that `register_instance` makes. -/
def registered : State :=
  { entry := some {
      slot := { factory := some 0, lt := lifetime lease, constructionMutex := 0 },
      lastTouch := 0 } }

/-- The registry after the calls. -/
def run : History → State
  | [] => registered lease
  | .get now :: earlier => (get now (run earlier)).2
  | .reset :: earlier => reset (run earlier)
  | .has :: earlier => run earlier
  | .sweep now :: earlier => sweep (lease.getD 0) now (run earlier)

/-- The instance of the last `get`, unless it was released since. -/
def returned : History → Option Object
  | [] => none
  | .get now :: earlier =>
    match (get now (run lease earlier)).1 with
    | .handle object => some object
    | _ => returned earlier
  | .reset :: earlier =>
    if (reset (run lease earlier)).entry.isNone then none else returned earlier
  | .has :: earlier => returned earlier
  | .sweep now :: earlier =>
    if (inSlot (sweep (lease.getD 0) now (run lease earlier))).isNone then none
    else returned earlier

/-- When `get` was called last. -/
def lastGet : History → Int
  | [] => 0
  | .get now :: _ => now
  | .reset :: earlier | .has :: earlier | .sweep _ :: earlier => lastGet earlier

/-- The key is registered, a `get` returns the last instance or a new one of the factory, and a
sweep releases only what has been idle for too long. -/
structure KeptNow (history : History) : Prop where
  has : has (run lease history) = true
  get : ∀ now, (get now (run lease history)).1 =
    .handle ((returned lease history).getD (.created 0 (run lease history).built))
  same : ∀ object, returned lease history = some object → ∃ serial < (run lease history).built,
    object = .created 0 serial
  sweep : ∀ now, clock history ≤ now → now < 2 ^ 63 → (inSlot (run lease history)).isSome →
    (inSlot (sweep (lease.getD 0) now (run lease history))).isNone →
    ∃ idle, lease = some idle ∧ now - lastGet history > idle * 10 ^ 9

/-- The registration was kept at every moment. -/
def Kept (history : History) : Prop := ∀ moment, moment <:+ history → KeptNow lease moment

/-- `Resettable`: no reset. `Timed`: the lease fits an `std::int64_t` of nanoseconds, or what it
becomes lasts longer than the clock after every `get`. -/
def Lasting (history : History) : Prop :=
  match lease with
  | none => .reset ∉ history
  | some idle => idle * 10 ^ 9 < 2 ^ 63 ∨
    ∀ now, .get now ∈ history → 2 ^ 63 ≤ now + nanoseconds idle + 1

end

variable {lease : Option Int} {history : History} {entry : Entry}

/-- What the slot of a registered key holds. -/
structure Good (lease : Option Int) (history : History) (entry : Entry) : Prop where
  factory : entry.slot.factory = some 0
  lt : entry.slot.lt = lifetime lease
  valid : entry.slot.expired = false
  obj : entry.slot.obj = returned lease history
  touched : lease.isSome → entry.slot.obj.isSome → entry.lastTouch = lastGet history
  same : ∀ object, returned lease history = some object →
    ∃ serial < (run lease history).built, object = .created 0 serial

/-- `build_handle` writes the time only. -/
theorem buildHandle_slot (now : Int) (entry : Entry) :
    (buildHandle now entry).slot = entry.slot := by
  unfold buildHandle
  split <;> rfl

section

variable (good : Good lease history entry)

include good

/-- The slot hands out what was returned last. -/
theorem Good.current_eq :
    entry.slot.current = returned lease history := by
  rw [Slot.current, good.valid, good.obj]
  rfl

/-- A `get` returns the last instance or the next one. -/
theorem Good.get_eq (here : (run lease history).entry = some entry) (now : Int) :
    (get now (run lease history)).1 =
      .handle ((returned lease history).getD (.created 0 (run lease history).built)) := by
  unfold get
  rw [here]
  simp only [good.current_eq, good.factory]
  cases returned lease history <;> rfl

/-- A `get` keeps the slot good. -/
theorem good_get (here : (run lease history).entry = some entry) (now : Int) :
    ∃ next, (run lease (.get now :: history)).entry = some next ∧
      Good lease (.get now :: history) next := by
  have outcome : returned lease (.get now :: history) =
      some ((returned lease history).getD (.created 0 (run lease history).built)) := by
    rw [returned, good.get_eq here]
  have touch : ∀ last : Entry, last.slot.lt = lifetime lease → lease.isSome →
      (buildHandle now last).lastTouch = now := by
    intro last lt leased
    simp [buildHandle, lt, lifetime, leased]
  cases found : returned lease history with
  | some object =>
    have moved : run lease (.get now :: history) =
        { run lease history with entry := some (buildHandle now entry) } := by
      rw [run, get, here]
      simp only [good.current_eq, found]
    rw [found] at outcome
    refine ⟨buildHandle now entry, by rw [moved], ?_, ?_, ?_, ?_, ?_, ?_⟩
    · rw [buildHandle_slot, good.factory]
    · rw [buildHandle_slot, good.lt]
    · rw [buildHandle_slot, good.valid]
    · rw [buildHandle_slot, good.obj, found, outcome]
      rfl
    · intro leased _
      exact touch entry good.lt leased
    · rw [outcome, moved]
      exact fun other same => good.same other (found.trans same)
  | none =>
    have moved : run lease (.get now :: history) = {
        entry := some (buildHandle now {
          slot := stored entry.slot (.created 0 (run lease history).built), lastTouch := now })
        built := (run lease history).built + 1 } := by
      rw [run, get, here]
      simp only [good.current_eq, found, good.factory]
    rw [found] at outcome
    refine ⟨_, congrArg State.entry moved, ?_, ?_, ?_, ?_, ?_, ?_⟩
    · rw [buildHandle_slot]
      exact good.factory
    · rw [buildHandle_slot]
      exact good.lt
    · rw [buildHandle_slot]
      by_cases timed : entry.slot.lt = .timed <;> simp [Slot.expired, stored, timed]
    · rw [buildHandle_slot, outcome]
      rfl
    · intro leased _
      exact touch _ good.lt leased
    · rw [outcome, moved]
      rintro _ ⟨⟩
      exact ⟨_, Nat.lt_succ_self _, rfl⟩

/-- A sweep clears a `Timed` object that was idle for too long. -/
theorem Good.sweepSlot_eq (due : Bool) :
    State.sweepSlot due entry.slot =
      some (if lease.isSome && due then { entry.slot with obj := none } else entry.slot) := by
  have lt := good.lt
  unfold State.sweepSlot
  cases lease <;> simp only [lt, lifetime] <;> cases due <;> rfl

/-- A sweep keeps the slot good. -/
theorem good_sweep (here : (run lease history).entry = some entry) (now : Int) :
    ∃ next, (run lease (.sweep now :: history)).entry = some next ∧
      Good lease (.sweep now :: history) next := by
  have moved := good.sweepSlot_eq (int64 (now - entry.lastTouch) > nanoseconds (lease.getD 0))
  by_cases cleared : (lease.isSome &&
      decide (int64 (now - entry.lastTouch) > nanoseconds (lease.getD 0))) = true
  · rw [if_pos cleared] at moved
    have swept : run lease (.sweep now :: history) = { run lease history with
        entry := some { entry with slot := { entry.slot with obj := none } } } := by
      rw [run, sweep, here, bind_some, moved, map_some]
    have gone : returned lease (.sweep now :: history) = none := by
      change (if (inSlot (run lease (.sweep now :: history))).isNone then none else _) = none
      rw [swept]
      rfl
    refine ⟨_, congrArg State.entry swept, good.factory, good.lt, good.valid, gone.symm, ?_, ?_⟩
    · rintro _ ⟨⟩
    · rw [gone]
      rintro _ ⟨⟩
  · rw [if_neg cleared] at moved
    have swept : run lease (.sweep now :: history) = run lease history := by
      rw [run, sweep, here, bind_some, moved, map_some, ← here]
    have stays : returned lease (.sweep now :: history) = returned lease history := by
      change (if (inSlot (run lease (.sweep now :: history))).isNone then none else _) = _
      rw [swept, inSlot, here, bind_some, good.obj]
      cases returned lease history <;> rfl
    refine ⟨entry, by rw [swept, here], good.factory, good.lt, good.valid, ?_, good.touched, ?_⟩
    · rw [stays, good.obj]
    · rw [stays, swept]
      exact good.same

end

/-- Unless a `Resettable` key was reset, its slot is good. -/
theorem good_of_kept (history : History) (kept : lease.isSome ∨ .reset ∉ history) :
    ∃ entry, (run lease history).entry = some entry ∧ Good lease history entry := by
  induction history with
  | nil =>
    refine ⟨_, rfl, rfl, rfl, ?_, rfl, ?_, ?_⟩
    · simp [Slot.expired]
    · simp
    · simp [returned]
  | cons call earlier ih =>
    obtain ⟨entry, here, good⟩ := ih (kept.imp_right fun absent inside => absent (by simp [inside]))
    cases call with
    | get now => exact good_get good here now
    | has => exact ⟨entry, here, good.1, good.2, good.3, good.4, good.5, good.6⟩
    | sweep now => exact good_sweep good here now
    | reset =>
      have leased : lease.isSome := kept.resolve_right (by simp)
      have stays : reset (run lease earlier) = run lease earlier := by
        rw [reset, here]
        simp [good.lt, lifetime, leased]
      refine ⟨entry, by rw [run, stays, here], good.factory, good.lt, good.valid, ?_, good.touched,
        ?_⟩
      · rw [returned, stays, here]
        exact good.obj
      · rw [returned, run, stays, here]
        exact good.same

/-- A reset takes the registration with it. -/
theorem erased_of_reset (history : History) (inside : .reset ∈ history) :
    (run none history).entry = none := by
  induction history with
  | nil => exact absurd inside not_mem_nil
  | cons call earlier ih =>
    by_cases before : .reset ∈ earlier
    · have gone := ih before
      cases call <;> simp [run, get, reset, sweep, gone]
    · have now : call = .reset := by simpa [before, eq_comm] using inside
      obtain ⟨entry, here, good⟩ := good_of_kept earlier (.inr before)
      rw [now, run, reset, here]
      simp [good.lt, lifetime]

/-- Wrapping does not lengthen a duration. -/
theorem int64_le {value : Int} (nonneg : 0 ≤ value) : int64 value ≤ value := by
  dsimp only [int64, Int.bmod]
  split <;> omega

/-- Wrapping does not shorten a value below 2 ^ 63. -/
theorem le_int64 {value : Int} (small : value < 2 ^ 63) : value ≤ int64 value := by
  dsimp only [int64, Int.bmod]
  split <;> omega

/-- A converted duration is even, so one nanosecond more fits. -/
theorem nanoseconds_lt (seconds : Int) : nanoseconds seconds + 1 < 2 ^ 63 := by
  dsimp only [nanoseconds, int64, Int.bmod]
  split <;> omega

/-- Earlier readings are orderly too. -/
theorem Orderly.suffix {moment : History} (orderly : Orderly history)
    (before : moment <:+ history) : Orderly moment := by
  induction history with
  | nil => rwa [suffix_nil.mp before]
  | cons call earlier ih =>
    rcases suffix_cons_iff.mp before with rfl | sooner
    · exact orderly
    · cases call with
      | get now | sweep now => exact ih orderly.2.2 sooner
      | reset | has => exact ih orderly sooner

/-- Only a `get` brings an instance. -/
theorem returned_earlier {call : Call} (other : ∀ now, call ≠ .get now)
    (present : (returned lease (call :: history)).isSome) : (returned lease history).isSome := by
  cases call with
  | get now => exact absurd rfl (other now)
  | has => exact present
  | reset | sweep now =>
    rw [returned] at present
    split at present
    · cases present
    · exact present

/-- An instance that is there was returned by the last `get`. -/
theorem lastGet_mem (orderly : Orderly history) (present : (returned lease history).isSome) :
    .get (lastGet history) ∈ history ∧ lastGet history ≤ clock history := by
  induction history with
  | nil => cases present
  | cons call earlier ih =>
    cases call with
    | get now => exact ⟨mem_cons_self, Int.le_refl _⟩
    | reset | has =>
      obtain ⟨member, before⟩ := ih orderly (returned_earlier (by simp) present)
      exact ⟨mem_cons_of_mem _ member, before⟩
    | sweep now =>
      obtain ⟨member, before⟩ := ih orderly.2.2 (returned_earlier (by simp) present)
      exact ⟨mem_cons_of_mem _ member, Int.le_trans before orderly.1⟩

/-- A lease that lasts is over only after its idle time. -/
theorem late_of_lasting {idle now : Int} (orderly : Orderly history)
    (lasting : Lasting (some idle) history) (present : (returned (some idle) history).isSome)
    (later : clock history ≤ now) (fits : now < 2 ^ 63)
    (released : int64 (now - lastGet history) > nanoseconds idle) :
    now - lastGet history > idle * 10 ^ 9 := by
  obtain ⟨member, before⟩ := lastGet_mem orderly present
  have passed : int64 (now - lastGet history) ≤ now - lastGet history := int64_le (by omega)
  rcases lasting with small | long
  · have kept : idle * 10 ^ 9 ≤ nanoseconds idle := le_int64 small
    omega
  · have ends := long _ member
    omega

/-- A lease that the conversion cuts short: a sweep can come too early. -/
theorem not_keptNow_of_short {idle now : Int} {earlier : History} (fits : now < 2 ^ 63)
    (large : 2 ^ 63 ≤ idle * 10 ^ 9) (short : now + nanoseconds idle + 1 < 2 ^ 63) :
    ¬ KeptNow (some idle) (.get now :: earlier) := by
  intro kept
  obtain ⟨entry, here, good⟩ := @good_of_kept (some idle) (.get now :: earlier) (.inl rfl)
  have returnedNow : (returned (some idle) (.get now :: earlier)).isSome := by
    obtain ⟨before, there, goodBefore⟩ := @good_of_kept (some idle) earlier (.inl rfl)
    rw [returned, goodBefore.get_eq there]
    rfl
  have full : entry.slot.obj.isSome := good.obj ▸ returnedNow
  have touched : entry.lastTouch = now := good.touched rfl full
  -- the first reading at which the wrapped lease is over
  let soon := now + max (nanoseconds idle + 1) 0
  have wrapped := nanoseconds_lt idle
  have due : int64 (soon - entry.lastTouch) > nanoseconds idle := by
    have exactly : int64 (soon - entry.lastTouch) = soon - entry.lastTouch :=
      Int.le_antisymm (int64_le (by omega)) (le_int64 (by omega))
    omega
  have swept : inSlot (sweep idle soon (run (some idle) (.get now :: earlier))) = none := by
    rw [sweep, inSlot, here, bind_some, good.sweepSlot_eq, decide_eq_true due]
    rfl
  have bound : soon < 2 ^ 63 := by omega
  obtain ⟨other, same, late⟩ := kept.sweep soon (by change now ≤ soon; omega) bound
    (by rw [inSlot, here]; exact full) (by rw [getD_some, swept]; rfl)
  cases same
  have last : lastGet (.get now :: earlier) = now := rfl
  omega

/-- The registration is kept exactly over the histories that reset nothing and whose leases survive
the conversion to nanoseconds. -/
theorem kept_iff (lease : Option Int) (history : History) (orderly : Orderly history) :
    Kept lease history ↔ Lasting lease history := by
  constructor
  · intro kept
    cases lease with
    | none =>
      intro inside
      have registered := (kept history suffix_rfl).has
      rw [has, erased_of_reset history inside] at registered
      cases registered
    | some idle =>
      by_contra broken
      simp only [Lasting, not_or, not_forall, Int.not_le, Int.not_lt] at broken
      obtain ⟨large, now, member, short⟩ := broken
      obtain ⟨later, earlier, rfl⟩ := append_of_mem member
      have before : .get now :: earlier <:+ later ++ .get now :: earlier :=
        suffix_append ..
      exact not_keptNow_of_short (orderly.suffix before).2.1 large short (kept _ before)
  · intro lasting moment before
    have lasting : Lasting lease moment := by
      cases lease with
      | none => exact fun inside => lasting (before.subset inside)
      | some idle => exact lasting.imp_right fun long now member => long now (before.subset member)
    have kept : lease.isSome ∨ .reset ∉ moment := by
      cases lease with
      | none => exact .inr lasting
      | some idle => exact .inl rfl
    obtain ⟨entry, here, good⟩ := good_of_kept moment kept
    refine ⟨by rw [has, here]; rfl, good.get_eq here, good.same, ?_⟩
    intro now later fits full empty
    rw [inSlot, here, bind_some] at full
    rw [sweep, inSlot, here, bind_some, good.sweepSlot_eq] at empty
    split at empty
    · rename_i released
      cases lease with
      | none => cases released
      | some idle =>
        have due : int64 (now - entry.lastTouch) > nanoseconds idle := by simpa using released
        rw [good.touched rfl full] at due
        exact ⟨idle, rfl, late_of_lasting (orderly.suffix before) lasting
          (good.obj ▸ full) later fits due⟩
    · rw [map_some, bind_some, isNone_iff_eq_none] at empty
      rw [empty] at full
      cases full

/-- A lease of a minute is kept over a sweep that releases the instance. -/
theorem kept_over_sweep : Orderly [.get (10 ^ 12), .sweep (10 ^ 11), .get 5] ∧
    Kept (some 60) [.get (10 ^ 12), .sweep (10 ^ 11), .get 5] ∧
    inSlot (run (some 60) [.sweep (10 ^ 11), .get 5]) = none := by
  have orderly : Orderly [.get (10 ^ 12), .sweep (10 ^ 11), .get 5] := by
    simp [Orderly, clock]
  exact ⟨orderly, (kept_iff (some 60) _ orderly).mpr (.inl (by decide)), by decide⟩

/-- After a reset `get` throws; and `std::chrono::seconds::max()` becomes negative, so the first
sweep releases. -/
theorem reset_unregisters : (get 2 (run none [.reset, .get 1])).1 = .notRegistered ∧
    (get 1 (run none [])).1 = .handle (.created 0 0) ∧ ¬ Kept none [.reset, .get 1] ∧
    inSlot (run (some (2 ^ 63 - 1)) [.sweep 1, .get 1]) = none ∧
    ¬ Kept (some (2 ^ 63 - 1)) [.get 1] := by
  refine ⟨by decide, by decide, fun kept => ?_, by decide, fun kept => ?_⟩
  · exact absurd (kept _ suffix_rfl).has (by decide)
  · exact not_keptNow_of_short (by decide) (by decide) (by decide) (kept _ suffix_rfl)

end Menagerie.Spider.Lease
