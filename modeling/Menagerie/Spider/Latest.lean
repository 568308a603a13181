import Menagerie.Spider.Basic

/-!
# Which registration a call sees

A `get` copies the factory, constructs without a lock on the registry and stores its object into
whatever slot the key then has. A registration in between is overwritten. When registrations keep
clear of such calls, the latest one wins.
-/

namespace Menagerie.Spider

open Transition Function List Option

/-- The call goes on to store an object of an earlier registration; over a pointer only once it has
passed the second check. -/
def GetPoint.overwrites (source : Source) : GetPoint → Bool
  | .lockConstruction _ _ | .doubleCheck _ _ => source = .factory
  | .callFactory _ _ | .inFactory _ _ | .store _ _ => true
  | .fastPath | .copyFactory | .unlock _ _ | .returned _ => false

section

variable {Key : Type}

/-- The key is registered only while no call is about to overwrite it, not with a null pointer, and
no factory call for it throws. -/
def Undisturbed (key : Key) (state : State Key) : Label Key → Prop
  | .register other source _ => other = key → source ≠ .null ∧
      ∀ call ∈ state.calls, call.key = key → call.point.overwrites source = false
  | .get id throws => ∀ call ∈ state.calls[id]?, call.key = key → throws = false
  | _ => True

/-- The slot holds what the registration has put there. -/
structure Owned (registration : Nat) (slot : Slot) : Prop where
  object : ∀ object, slot.obj = some object → object.registration = registration
  factory : slot.factory = some registration ∨ slot.factory = none ∧ slot.obj.isSome = true

theorem Owned.factory_of_absent {registration : Nat} {slot : Slot} (owned : Owned registration slot)
    (absent : slot.obj = none) : slot.factory = some registration := by
  rcases owned.factory with factory | ⟨_, present⟩
  · exact factory
  · simp [absent] at present

/-- The call has taken nothing from another registration. -/
def Follows (registration : Nat) (slot : Slot) (call : Call Key) : Prop :=
  match call.point with
  | .fastPath | .copyFactory => True
  | .lockConstruction _ factory | .doubleCheck _ factory =>
    slot.factory = none ∨ slot.factory = factory
  | .callFactory _ factory | .inFactory _ factory => factory = registration
  | .store _ object => object.registration = registration
  | .unlock _ outcome | .returned outcome => call.since = some registration →
      ∃ object, outcome = .handle object ∧ object.registration = registration

/-- What holds while no call overwrites a registration of the key. -/
structure Faithful (key : Key) (state : State Key) : Prop where
  bound : ∀ other registration, state.latest other = some registration →
    registration < state.registrations
  since : ∀ call ∈ state.calls, ∀ registration, call.since = some registration →
    registration < state.registrations
  slot : ∀ registration, state.latest key = some registration →
    ∃ slot, state.map key = some slot ∧ Owned registration slot
  follows : ∀ registration slot, state.latest key = some registration →
    state.map key = some slot → ∀ call ∈ state.calls, call.key = key →
    Follows registration slot call

variable {state next : State Key} {key : Key}

theorem Follows.slot {registration : Nat} {slot other : Slot} {call : Call Key}
    (follows : Follows registration slot call) (factory : other.factory = slot.factory) :
    Follows registration other call := by
  unfold Follows at follows ⊢
  split at follows <;> simp_all

namespace Faithful

/-- A call for the key moves. -/
theorem setPoint {id : Nat} {point : GetPoint} {call : Call Key}
    (faithful : Faithful call.key state) (known : state.calls[id]? = some call)
    (follows : ∀ registration slot, state.latest call.key = some registration →
      state.map call.key = some slot → Owned registration slot →
      Follows registration slot { call with point := point }) :
    Faithful call.key (state.setPoint id point) := by
  refine ⟨faithful.bound, ?_, faithful.slot, ?_⟩
  · intro other member
    rcases State.setPoint_mem known member with rfl | before
    · exact faithful.since call (mem_of_getElem? known)
    · exact faithful.since other before
  · intro registration slot latest here other member same
    rcases State.setPoint_mem known member with rfl | before
    · obtain ⟨found, there, owned⟩ := faithful.slot registration latest
      rw [show state.map call.key = some slot from here, some.injEq] at there
      subst there
      exact follows registration slot latest here owned
    · exact faithful.follows registration slot latest here other before same

section

variable (faithful : Faithful key state)

include faithful

/-- A call for another key moves. -/
theorem frame {id : Nat} {point : GetPoint} {call : Call Key}
    (known : state.calls[id]? = some call) (other : call.key ≠ key)
    (calls : next.calls = (state.setPoint id point).calls) (map : next.map key = state.map key)
    (latest : next.latest = state.latest)
    (registrations : next.registrations = state.registrations) : Faithful key next := by
  refine ⟨?_, ?_, ?_, ?_⟩
  · rw [latest, registrations]
    exact faithful.bound
  · rw [calls, registrations]
    intro moved member
    rcases State.setPoint_mem known member with rfl | before
    · exact faithful.since call (mem_of_getElem? known)
    · exact faithful.since moved before
  · rw [latest, map]
    exact faithful.slot
  · rw [latest, map, calls]
    intro registration slot last here moved member called
    rcases State.setPoint_mem known member with rfl | before
    · exact absurd called other
    · exact faithful.follows registration slot last here moved before called

theorem same (map : next.map = state.map) (calls : next.calls = state.calls)
    (latest : next.latest = state.latest)
    (registrations : next.registrations = state.registrations) : Faithful key next := by
  refine ⟨?_, ?_, ?_, ?_⟩
  · rw [latest, registrations]
    exact faithful.bound
  · rw [calls, registrations]
    exact faithful.since
  · rw [latest, map]
    exact faithful.slot
  · rw [latest, map, calls]
    exact faithful.follows

theorem forget (calls : next.calls = state.calls)
    (registrations : next.registrations = state.registrations)
    (kept : ∀ other registration, next.latest other = some registration →
      next.map other = state.map other ∧ state.latest other = some registration) :
    Faithful key next := by
  refine ⟨?_, ?_, ?_, ?_⟩
  · intro other registration latest
    rw [registrations]
    exact faithful.bound other registration (kept other registration latest).2
  · rw [calls, registrations]
    exact faithful.since
  · intro registration latest
    obtain ⟨map, before⟩ := kept key registration latest
    rw [map]
    exact faithful.slot registration before
  · intro registration slot latest there
    obtain ⟨map, before⟩ := kept key registration latest
    rw [calls]
    exact faithful.follows registration slot before (map ▸ there)

theorem sweep (due : Key → Bool) : Faithful key (state.sweep due) := by
  refine faithful.forget rfl rfl ?_
  intro other registration latest
  simp only [State.sweep, State.remove] at latest ⊢
  split at latest
  · exact ⟨by assumption, latest⟩
  · cases latest

theorem call (called : Key) : Faithful key { state with
    calls := state.calls ++ [{ key := called, since := state.latest called }] } := by
  refine ⟨faithful.bound, ?_, faithful.slot, ?_⟩
  · intro call member registration since
    rcases mem_append.mp member with before | new
    · exact faithful.since call before registration since
    · rw [mem_singleton] at new
      subst new
      exact faithful.bound called registration since
  · intro registration slot latest there call member same
    rcases mem_append.mp member with before | new
    · exact faithful.follows registration slot latest there call before same
    · rw [mem_singleton] at new
      subst new
      trivial

end

end Faithful

end

variable {Key : Type} [DecidableEq Key] {key : Key} {state next : State Key}

instance (label : Label Key) : Decidable (Undisturbed key state label) := by
  unfold Undisturbed
  split <;> infer_instance

namespace Faithful

section

variable (faithful : Faithful key state)

include faithful

theorem storeObject {slot : Slot} {object : Object} (here : state.map key = some slot)
    (own : ∀ registration, state.latest key = some registration → object.registration =
      registration) : Faithful key (state.storeObject key slot object) := by
  refine ⟨faithful.bound, faithful.since, ?_, ?_⟩
  · intro registration latest
    obtain ⟨found, there, owned⟩ := faithful.slot registration latest
    rw [here, some.injEq] at there
    subst there
    refine ⟨_, update_self .., ?_, ?_⟩
    · intro stored new
      cases new
      exact own registration latest
    · rcases owned.factory with factory | ⟨factory, _⟩
      · exact .inl factory
      · exact .inr ⟨factory, rfl⟩
  · intro registration found latest there call member called
    simp only [State.storeObject, update_self, some.injEq] at there
    have follows := faithful.follows registration slot latest here call member called
    exact follows.slot (by rw [← there])

theorem getOther {id : Nat} {call : Call Key} {throws : Bool}
    (known : state.calls[id]? = some call) (other : call.key ≠ key)
    (moved : state.getStep id call throws = some next) : Faithful key next := by
  obtain ⟨point, calls, map, -, -⟩ := State.getStep_frame moved
  obtain ⟨latest, registrations⟩ := State.getStep_latest moved
  exact faithful.frame known other calls (map key other.symm) latest registrations

end

theorem get {id : Nat} {call : Call Key} (faithful : Faithful call.key state)
    (unexpired : Unexpired state) (known : state.calls[id]? = some call)
    (moved : state.getStep id call false = some next) : Faithful call.key next := by
  have before : ∀ registration slot, state.latest call.key = some registration →
      state.map call.key = some slot → Follows registration slot call :=
    fun registration slot latest here =>
      faithful.follows registration slot latest here call (mem_of_getElem? known) rfl
  -- A slot that the map holds is the slot that the call sees.
  have only : ∀ {slot other : Slot}, state.map call.key = some slot →
      state.map call.key = some other → other = slot :=
    fun here there => some.inj (there.symm.trans here)
  have absent : state.map call.key = none → ∀ point, Faithful call.key (state.setPoint id point) :=
    fun here point => faithful.setPoint known (fun _ _ _ there => nomatch here.symm.trans there)
  have empty : ∀ {slot : Slot}, state.map call.key = some slot →
      (state.map call.key).bind Slot.current = none → slot.obj = none := by
    intro slot here none
    rwa [here, bind_some, Slot.current_eq (unexpired call.key slot here)] at none
  revert moved
  fun_cases State.getStep state id call false with
  | case1 point here | case4 point here | case14 _ _ point here =>
    rintro ⟨⟩
    exact absent here _
  | case2 point slot here object found =>
    rintro ⟨⟩
    refine faithful.setPoint known ?_
    intro registration other _ there owned
    cases only here there
    rw [Slot.current_eq (unexpired call.key slot here)] at found
    exact fun _ => ⟨object, rfl, owned.object object found⟩
  | case3 point slot here none =>
    rintro ⟨⟩
    exact faithful.setPoint known (fun _ _ _ _ _ => trivial)
  | case5 point slot here =>
    rintro ⟨⟩
    refine faithful.setPoint known ?_
    intro registration other _ there _
    cases only here there
    exact .inr rfl
  | case6 mutex factory point free =>
    rintro ⟨⟩
    have locked : Faithful call.key (state.setHolder call.key mutex (some id)) :=
      faithful.same rfl rfl rfl rfl
    refine locked.setPoint known ?_
    intro registration slot latest here _
    simpa only [Follows, point] using before registration slot latest here
  | case8 mutex factory point object found =>
    rintro ⟨⟩
    refine faithful.setPoint known ?_
    intro registration slot _ here owned _
    rw [here, bind_some, Slot.current_eq (unexpired call.key slot here)] at found
    exact ⟨object, rfl, owned.object object found⟩
  | case9 mutex none factory point =>
    rintro ⟨⟩
    refine faithful.setPoint known ?_
    intro registration slot latest here owned
    have follows := before registration slot latest here
    simp only [Follows, point, owned.factory_of_absent (empty here none)] at follows
    rcases follows with none | same
    · cases none
    · cases same
      exact rfl
  | case10 mutex none point =>
    rintro ⟨⟩
    refine faithful.setPoint known ?_
    intro registration slot latest here owned
    have follows := before registration slot latest here
    simp only [Follows, point, owned.factory_of_absent (empty here none)] at follows
    rcases follows with none | same
    · cases none
    · cases same
  | case11 mutex factory point =>
    rintro ⟨⟩
    refine faithful.setPoint known ?_
    intro registration slot latest here _
    simpa only [Follows, point] using before registration slot latest here
  | case13 mutex factory point returns =>
    rintro ⟨⟩
    have moving : Faithful call.key
        (state.setPoint id (.store mutex (.created factory state.objects))) := by
      refine faithful.setPoint known ?_
      intro registration slot latest here _
      simpa only [Follows, point, Object.registration] using before registration slot latest here
    exact moving.same rfl rfl rfl rfl
  | case15 mutex object point slot here =>
    rintro ⟨⟩
    have own : ∀ registration, state.latest call.key = some registration →
        object.registration = registration := by
      intro registration latest
      simpa only [Follows, point] using before registration slot latest here
    refine (faithful.storeObject here own).setPoint known ?_
    intro registration _ latest _ _ _
    exact ⟨object, rfl, own registration latest⟩
  | case16 mutex outcome point =>
    rintro ⟨⟩
    have unlocked : Faithful call.key (state.setHolder call.key mutex none) :=
      faithful.same rfl rfl rfl rfl
    refine unlocked.setPoint known ?_
    intro registration slot latest here _
    simpa only [Follows, point] using before registration slot latest here
  | case7 | case12 | case17 => simp_all

section

variable (faithful : Faithful key state)

include faithful

theorem register (registered : Key) {source : Source} (lt : Lifetime)
    (undisturbed : registered = key → source ≠ .null ∧
      ∀ call ∈ state.calls, call.key = key → call.point.overwrites source = false) :
    Faithful key (state.register registered source lt) := by
  refine ⟨?_, ?_, ?_, ?_⟩
  · intro other registration latest
    change registration < state.registrations + 1
    by_cases same : other = registered
    · subst same
      simp only [State.register, update_self, some.injEq] at latest
      omega
    · simp only [State.register, update_of_ne same] at latest
      have bound := faithful.bound other registration latest
      omega
  · intro call member registration since
    have bound := faithful.since call member registration since
    change registration < state.registrations + 1
    omega
  · intro registration latest
    by_cases same : key = registered
    · subst same
      simp only [State.register, update_self, some.injEq] at latest
      subst latest
      refine ⟨_, update_self .., ?_, ?_⟩
      · intro object held
        cases source <;> cases held
        rfl
      · cases source with
        | factory => exact .inl rfl
        | pointer => exact .inr ⟨rfl, rfl⟩
        | null => exact absurd rfl (undisturbed rfl).1
    · simp only [State.register, update_of_ne same] at latest ⊢
      exact faithful.slot registration latest
  · intro registration slot latest there call member called
    by_cases same : key = registered
    · subst same
      simp only [State.register, update_self, some.injEq] at latest
      have quiet := (undisturbed rfl).2 call member called
      have early : call.since ≠ some registration := by
        intro since
        have bound := faithful.since call member registration since
        omega
      simp only [State.register, update_self, some.injEq] at there
      unfold Follows
      cases point : call.point with
      | fastPath => trivial
      | copyFactory => trivial
      | lockConstruction | doubleCheck =>
        simp only [point, GetPoint.overwrites, decide_eq_false_iff_not] at quiet
        exact .inl (by rw [← there]; cases source <;> simp at quiet ⊢)
      | callFactory | inFactory | store => simp [point, GetPoint.overwrites] at quiet
      | unlock | returned => exact fun since => absurd since early
    · simp only [State.register, update_of_ne same] at latest there
      exact faithful.follows registration slot latest there call member called

theorem reset (erased : Key) : Faithful key (state.reset erased) := by
  unfold State.reset
  split
  · exact faithful
  · split
    · refine faithful.forget rfl rfl ?_
      intro other registration latest
      by_cases same : other = erased
      · simp [same, State.remove] at latest
      · simp only [State.remove, update_of_ne same] at latest ⊢
        exact ⟨trivial, latest⟩
    · exact faithful

theorem step (unexpired : Unexpired state) {label : Label Key}
    (allowed : Undisturbed key state label) (moved : state.step label = some next) :
    Faithful key next := by
  cases label with
  | register other source lt =>
    cases moved
    exact faithful.register other lt allowed
  | reset other =>
    cases moved
    exact faithful.reset other
  | clear =>
    cases moved
    exact faithful.forget rfl rfl (by simp [State.remove])
  | sweep due =>
    cases moved
    exact faithful.sweep due
  | call other =>
    cases moved
    exact faithful.call other
  | get id throws =>
    simp only [State.step, bind_eq_some_iff] at moved
    obtain ⟨call, known, moved⟩ := moved
    by_cases same : call.key = key
    · subst same
      rw [allowed call known rfl] at moved
      exact faithful.get unexpired known moved
    · exact faithful.getOther known same moved

end

end Faithful

theorem reachable_faithful (reached : (system Key).ReachableBy (Undisturbed key) state) :
    Faithful key state := by
  refine reached.invariant ?_ ?_
  · intro start initial
    rw [show start = {} from initial]
    exact ⟨by simp, by simp, by simp, by simp⟩
  · intro _ _ _ before faithful allowed moved
    exact faithful.step (reachable_unexpired before) allowed moved

/-- When a key is registered only while no call is about to overwrite it, a `get` that began after a
registration that nothing has taken back returns an object of it. -/
theorem latest_registration_wins {Key : Type} [DecidableEq Key] {state : State Key}
    {call : Call Key} (reached : (system Key).ReachableBy (Undisturbed call.key) state)
    (member : call ∈ state.calls) {registration : Nat} {outcome : Outcome}
    (latest : state.latest call.key = some registration) (since : call.since = some registration)
    (returned : call.point = .returned outcome) :
    ∃ object, outcome = .handle object ∧ object.registration = registration := by
  have faithful := reachable_faithful reached
  obtain ⟨slot, here, _⟩ := faithful.slot registration latest
  have follows := faithful.follows registration slot latest here call member rfl
  simp only [Follows, returned] at follows
  exact follows since

/-- A pointer replaces a factory, and the next call returns it; another key gets a null pointer. -/
theorem latest_registration_wins_replaced : ∃ state : State Nat,
    (system Nat).ReachableBy (Undisturbed 5) state ∧ state.latest 5 = some 1 ∧
    state.undefined = false ∧
    state.calls = [⟨5, .returned (.handle (.registered 1)), some 1⟩] ∧
    ∃ object, Outcome.handle (.registered 1) = .handle object ∧ object.registration = 1 := by
  refine (system Nat).exists_reachableBy (Undisturbed 5) rfl [.register 5 .factory .immortal,
    .register 5 .pointer .resettable, .register 6 .null .immortal, .call 5, .get 0 false]
    ⟨_, rfl, fun reached => ?_⟩
  exact ⟨rfl, rfl, rfl, @latest_registration_wins Nat _ _ ⟨5, .returned (.handle (.registered 1)),
    some 1⟩ reached (.head _) _ _ rfl rfl rfl⟩

/-- A call past the second check stores an object of the first registration over the pointer of the
second, and a later call returns it. -/
theorem stale_construction_overwrites : ∃ state : State Nat, (system Nat).Reachable state ∧
    state.latest 5 = some 1 ∧ state.undefined = false ∧
    state.calls[1]? = some ⟨5, .returned (.handle (.created 0 0)), some 1⟩ := by
  exact (system Nat).exists_reachable rfl
    [.register 5 .factory .immortal, .call 5, .get 0 false, .get 0 false, .get 0 false,
      .get 0 false, .register 5 .pointer .immortal, .get 0 false, .get 0 false, .get 0 false,
      .call 5, .get 1 false] ⟨_, rfl, fun _ => ⟨rfl, rfl, rfl⟩⟩

end Menagerie.Spider
