import Menagerie.Spider.Basic

/-!
# A singleton is constructed once

Calls of `get` for a key that stays registered with one factory. The construction mutex of its slot
admits one call at a time to the second check, the factory and the store, so a factory call that
returns is the last one.
-/

namespace Menagerie.Spider

open Transition Function State Option

variable {Key : Type}

/-- The step leaves the registration of the key as it is. -/
def Untouched (key : Key) (state : State Key) : Label Key → Prop
  | .register other _ _ | .reset other => other ≠ key
  | .clear => False
  | .sweep due => state.swept due key = state.map key
  | .call _ | .get _ _ => True

/-- A key with its factory, its mutex, the objects created before, and the first call that counts.
-/
structure Service (Key : Type) where
  key : Key
  registration : Nat
  mutex : Nat
  before : List Object
  first : Nat

namespace Service

variable (service : Service Key) (state : State Key)

/-- A call yields the created object, or the exception of its own factory call. -/
def Delivers (id : Nat) (outcome : Outcome) : Prop :=
  (∃ object, outcome = .handle object ∧ state.created service.key = service.before ++ [object]) ∨
    outcome = .threw id

/-- The call holds the construction mutex. -/
def Holds (id mutex : Nat) : Prop :=
  mutex = service.mutex ∧ state.holders service.key service.mutex = some id

/-- What a call of `get` for the key knows at its program point. -/
def Serves (id : Nat) (call : Call Key) : Prop :=
  match call.point with
  | .fastPath | .copyFactory => True
  | .lockConstruction mutex factory => mutex = service.mutex ∧ factory = some service.registration
  | .doubleCheck mutex factory =>
    service.Holds state id mutex ∧ factory = some service.registration
  | .callFactory mutex factory | .inFactory mutex factory => service.Holds state id mutex ∧
      factory = service.registration ∧ state.created service.key = service.before
  | .store mutex object => service.Holds state id mutex ∧
      state.created service.key = service.before ++ [object]
  | .unlock mutex outcome => service.Holds state id mutex ∧ service.Delivers state id outcome
  | .returned outcome => service.first ≤ id → service.Delivers state id outcome

/-- What has become of the object. -/
def Progress (slot : Slot) : Prop :=
  match slot.obj with
  | some object => state.created service.key = service.before ++ [object]
  | none => state.created service.key = service.before ∨
      ∃ (id : Nat) (call : Call Key) (mutex : Nat) (object : Object),
        state.calls[id]? = some call ∧ call.key = service.key ∧ call.point = .store mutex object

/-- What holds of the key. -/
structure Once : Prop where
  slot : ∃ slot, state.map service.key = some slot ∧ slot.factory = some service.registration ∧
    slot.constructionMutex = service.mutex ∧ service.Progress state slot
  serves : ∀ id call, state.calls[id]? = some call → call.key = service.key →
    service.Serves state id call

end Service

/-- The construction mutex that a call at this point holds. -/
def GetPoint.held : GetPoint → Option Nat
  | .doubleCheck mutex _ | .callFactory mutex _ | .inFactory mutex _ | .store mutex _
  | .unlock mutex _ => some mutex
  | .fastPath | .copyFactory | .lockConstruction _ _ | .returned _ => none

namespace Service

variable {service : Service Key} {state next : State Key} {id : Nat} {call : Call Key}

section

variable (serves : service.Serves state id call)

include serves

theorem Serves.holds {mutex : Nat} (held : call.point.held = some mutex) :
    service.Holds state id mutex := by
  unfold Serves at serves
  unfold GetPoint.held at held
  split at serves <;> simp_all

theorem Serves.keep (created : next.created service.key = state.created service.key)
    (holder : call.point.held ≠ none → next.holders service.key service.mutex =
      state.holders service.key service.mutex) : service.Serves next id call := by
  unfold Serves Holds Delivers at serves ⊢
  rw [created]
  cases point : call.point <;> simp only [point] at serves ⊢ <;>
    first
    | exact serves
    | rw [holder (by simp [point, GetPoint.held])]
      exact serves

/-- Without the mutex, a call knows nothing of created objects. -/
theorem Serves.ahead (free : call.point.held = none)
    (before : state.created service.key = service.before) : service.Serves next id call := by
  unfold Serves Delivers at serves ⊢
  unfold GetPoint.held at free
  rw [before] at serves
  cases point : call.point <;> simp_all

end

theorem Progress.keep {slot : Slot} (progress : service.Progress state slot)
    (created : next.created service.key = state.created service.key)
    (stores : ∀ (id : Nat) (call : Call Key) (mutex : Nat) (object : Object),
      state.calls[id]? = some call → call.key = service.key → call.point = .store mutex object →
      next.calls[id]? = some call) : service.Progress next slot := by
  unfold Progress at progress ⊢
  rw [created]
  split
  · rename_i object found
    rw [found] at progress
    exact progress
  · rename_i absent
    rw [absent] at progress
    rcases progress with none | ⟨id, call, mutex, object, entry, called, storing⟩
    · exact .inl none
    · exact .inr ⟨id, call, mutex, object, stores id call mutex object entry called storing,
        called, storing⟩

namespace Once

theorem alone (once : service.Once state) {other mutex : Nat} {another : Call Key}
    (holder : state.holders service.key service.mutex = some id)
    (known : state.calls[other]? = some another) (called : another.key = service.key)
    (held : another.point.held = some mutex) : other = id := by
  have holds := (once.serves other another known called).holds held
  have same := holds.2
  rw [holder, some.injEq] at same
  exact same.symm

section

variable (once : service.Once state) {slot : Slot} (here : state.map service.key = some slot)

include once here

theorem at_slot : slot.factory = some service.registration ∧
      slot.constructionMutex = service.mutex ∧ service.Progress state slot := by
  obtain ⟨there, same, facts⟩ := once.slot
  rw [here, some.injEq] at same
  exact same ▸ facts

theorem delivers {object : Object} (found : slot.obj = some object) :
    service.Delivers state id (.handle object) := by
  have progress := (once.at_slot here).2.2
  rw [Progress, found] at progress
  exact .inl ⟨object, rfl, progress⟩

theorem nothing_created {mutex : Nat} (absent : slot.obj = none)
    (known : state.calls[id]? = some call) (holds : service.Holds state id mutex)
    (idle : ∀ mutex object, call.point ≠ .store mutex object) :
    state.created service.key = service.before := by
  have progress := (once.at_slot here).2.2
  rw [Progress, absent] at progress
  rcases progress with none | ⟨other, another, held, object, entry, called, storing⟩
  · exact none
  · have locked : another.point.held = some held := by rw [storing]; rfl
    have same := once.alone holds.2 entry called locked
    rw [same, known, some.injEq] at entry
    exact absurd (entry ▸ storing) (idle held object)

end

/-- A step that leaves the slot, the mutexes and the calls of the key. -/
theorem keep (once : service.Once state)
    (map : next.map service.key = state.map service.key)
    (holders : next.holders service.key = state.holders service.key)
    (created : next.created service.key = state.created service.key)
    (calls : ∀ (id : Nat) (call : Call Key), call.key = service.key →
      (next.calls[id]? = some call ↔ state.calls[id]? = some call)) : service.Once next := by
  constructor
  · obtain ⟨slot, here, factory, mutex, progress⟩ := once.slot
    refine ⟨slot, by rw [map, here], factory, mutex, progress.keep created ?_⟩
    intro id call _ _ entry called _
    exact (calls id call called).mpr entry
  · intro id call entry called
    have before := once.serves id call ((calls id call called).mp entry) called
    exact before.keep created (fun _ => by rw [holders])

theorem of_move {point : GetPoint} (known : state.calls[id]? = some call)
    (calls : next.calls = (state.setPoint id point).calls)
    (slot : ∃ slot, next.map service.key = some slot ∧
      slot.factory = some service.registration ∧ slot.constructionMutex = service.mutex ∧
      service.Progress next slot)
    (own : service.Serves next id { call with point := point })
    (others : ∀ other another, other ≠ id → state.calls[other]? = some another →
      another.key = service.key → service.Serves next other another) : service.Once next := by
  refine ⟨slot, ?_⟩
  intro other another entry called
  rw [calls, getElem?_setPoint] at entry
  split at entry
  · rename_i same
    subst same
    rw [known, map_some, some.injEq] at entry
    subst entry
    exact own
  · rename_i differs
    exact others other another (Ne.symm differs) entry called

section

variable (once : service.Once state)

include once

theorem slot_stays {point : GetPoint} (known : state.calls[id]? = some call)
    (calls : next.calls = (state.setPoint id point).calls)
    (created : next.created service.key = state.created service.key)
    (map : next.map service.key = state.map service.key)
    (idle : ∀ mutex object, call.point ≠ .store mutex object) :
    ∃ slot, next.map service.key = some slot ∧ slot.factory = some service.registration ∧
      slot.constructionMutex = service.mutex ∧ service.Progress next slot := by
  obtain ⟨slot, here, factory, mutex, progress⟩ := once.slot
  refine ⟨slot, by rw [map, here], factory, mutex, progress.keep created ?_⟩
  intro other another held object entry called storing
  rw [calls, getElem?_setPoint, if_neg ?_]
  · exact entry
  · intro same
    rw [same, entry, some.injEq] at known
    exact idle held object (known ▸ storing)

theorem only_moves {point : GetPoint} (known : state.calls[id]? = some call)
    (idle : ∀ mutex object, call.point ≠ .store mutex object)
    (own : service.Serves state id { call with point := point }) :
    service.Once (state.setPoint id point) :=
  of_move known rfl (once.slot_stays known rfl rfl rfl idle) own
    (fun other another _ entry called => once.serves other another entry called)

theorem begins {since : Option Nat} {key : Key} :
    service.Once { state with calls := state.calls ++ [{ key := key, since := since }] } := by
  constructor
  · obtain ⟨slot, here, factory, mutex, progress⟩ := once.slot
    refine ⟨slot, here, factory, mutex, progress.keep rfl ?_⟩
    intro id call _ _ entry _ _
    rw [List.getElem?_append_left (List.getElem?_eq_some_iff.mp entry).1]
    exact entry
  · intro id call entry called
    rw [List.getElem?_append] at entry
    split at entry
    · exact once.serves id call entry called
    · have fresh := List.mem_singleton.mp (List.mem_of_getElem? entry)
      rw [fresh]
      trivial

end

section Get

variable [DecidableEq Key] {throws : Bool}

section

variable (once : service.Once state) (known : state.calls[id]? = some call)

include once known

theorem lock {point : GetPoint} {holder : Option Nat}
    (idle : ∀ mutex object, call.point ≠ .store mutex object)
    (own : service.Serves (state.setHolder service.key service.mutex holder) id
      { call with point := point })
    (free : ∀ other another mutex, other ≠ id → state.calls[other]? = some another →
      another.key = service.key → another.point.held ≠ some mutex) :
    service.Once ((state.setHolder service.key service.mutex holder).setPoint id point) := by
  refine of_move known rfl (once.slot_stays known rfl rfl rfl idle) own ?_
  intro other another differs entry called
  refine (once.serves other another entry called).keep rfl ?_
  intro held
  obtain ⟨mutex, locked⟩ := ne_none_iff_exists'.mp held
  exact absurd locked (free other another mutex differs entry called)

theorem returns {mutex : Nat} (called : call.key = service.key)
    (holds : service.Holds state id mutex) (before : state.created service.key = service.before)
    {object : Object} {objects : Nat} :
    service.Once { state.setPoint id (.store mutex object) with
      objects := objects
      created := update state.created service.key (service.before ++ [object]) } := by
  refine of_move known rfl ?_ ⟨holds, update_self ..⟩ ?_
  · obtain ⟨slot, here, factory, constructionMutex, progress⟩ := once.slot
    refine ⟨slot, here, factory, constructionMutex, ?_⟩
    cases found : slot.obj with
    | none =>
      rw [Progress, found]
      refine .inr ⟨id, { call with point := .store mutex object }, mutex, object, ?_, called, rfl⟩
      rw [getElem?_setPoint, if_pos rfl, known, map_some]
    | some stored =>
      -- nothing has been created, so the slot is empty
      rw [Progress, found, before] at progress
      simp at progress
  · intro other another differs entry called
    refine (once.serves other another entry called).ahead ?_ before
    rw [eq_none_iff_forall_ne_some]
    intro held locked
    exact differs (once.alone holds.2 entry called locked)

theorem stores {mutex : Nat} {object : Object} {slot : Slot} (holds : service.Holds state id mutex)
    (created : state.created service.key = service.before ++ [object])
    (here : state.map service.key = some slot) :
    service.Once ((state.storeObject service.key slot object).setPoint id
      (.unlock mutex (.handle object))) := by
  have facts := once.at_slot here
  refine of_move known rfl ?_ ⟨holds, .inl ⟨object, rfl, created⟩⟩ ?_
  · exact ⟨_, update_self .., facts.1, facts.2.1, created⟩
  · intro other another _ entry called
    exact once.serves other another entry called

end

theorem get (once : service.Once state) (unexpired : Unexpired state)
    (known : state.calls[id]? = some call) (called : call.key = service.key)
    (moved : state.getStep id call throws = some next) : service.Once next := by
  obtain ⟨slot, here, factory, constructionMutex, progress⟩ := once.slot
  have current := Slot.current_eq (unexpired service.key slot here)
  have serves := once.serves id call known called
  simp only [getStep, called, here, bind_some, current] at moved
  unfold Serves at serves
  cases point : call.point with
  | fastPath =>
    simp only [point] at moved
    split at moved
    · rename_i object found
      cases moved
      exact once.only_moves known (by simp [point]) (fun _ => once.delivers here found)
    · cases moved
      exact once.only_moves known (by simp [point]) trivial
  | copyFactory =>
    simp only [point, some.injEq] at moved
    subst moved
    exact once.only_moves known (by simp [point]) ⟨constructionMutex, factory⟩
  | lockConstruction mutex copied =>
    simp only [point] at moved serves
    obtain ⟨rfl, copied⟩ := serves
    split at moved <;> cases moved
    rename_i unlocked
    refine once.lock known (by simp [point]) ⟨⟨rfl, ?_⟩, copied⟩ ?_
    · simp [setHolder]
    · intro other another mutex _ entry called locked
      have holds := (once.serves other another entry called).holds locked
      rw [holds.2] at unlocked
      cases unlocked
  | doubleCheck mutex copied =>
    simp only [point] at moved serves
    obtain ⟨holds, rfl⟩ := serves
    split at moved
    · rename_i object found
      cases moved
      exact once.only_moves known (by simp [point]) ⟨holds, once.delivers here found⟩
    · rename_i absent
      cases moved
      have before := once.nothing_created here absent known holds (by simp [point])
      exact once.only_moves known (by simp [point]) ⟨holds, rfl, before⟩
  | callFactory mutex copied =>
    simp only [point, some.injEq] at moved serves
    subst moved
    exact once.only_moves known (by simp [point]) serves
  | inFactory mutex copied =>
    simp only [point] at moved serves
    obtain ⟨holds, rfl, before⟩ := serves
    split at moved
    · cases moved
      exact once.only_moves known (by simp [point]) ⟨holds, .inr rfl⟩
    · cases moved
      rw [before]
      exact once.returns known called holds before
  | store mutex object =>
    simp only [point, some.injEq] at moved serves
    subst moved
    exact once.stores known serves.1 serves.2 here
  | unlock mutex outcome =>
    simp only [point, some.injEq] at moved serves
    obtain ⟨⟨rfl, holder⟩, delivers⟩ := serves
    subst moved
    refine once.lock known (by simp [point]) (fun _ => delivers) ?_
    intro other another mutex differs entry called locked
    exact differs (once.alone holder entry called locked)
  | returned outcome => simp [point] at moved

theorem elsewhere (once : service.Once state) (known : state.calls[id]? = some call)
    (other : call.key ≠ service.key) (moved : state.getStep id call throws = some next) :
    service.Once next := by
  obtain ⟨point, calls, map, holders, created⟩ := getStep_frame moved
  refine once.keep (map _ other.symm) (holders _ other.symm) (created _ other.symm) ?_
  intro index another called
  rw [calls, getElem?_setPoint]
  split
  · rename_i same
    subst same
    have differs : ∀ point, ({ call with point := point } : Call Key) ≠ another :=
      fun point same => other (by rw [← called, ← same])
    simp only [known, map_some, some.injEq, differs]
  · rfl

end Get

theorem step [DecidableEq Key] (once : service.Once state) (unexpired : Unexpired state)
    {label : Label Key} (allowed : Untouched service.key state label)
    (moved : state.step label = some next) : service.Once next := by
  cases label with
  | register key source lt =>
    cases moved
    exact once.keep (update_of_ne (Ne.symm allowed) ..) rfl rfl (fun _ _ _ => Iff.rfl)
  | reset key =>
    cases moved
    unfold reset
    split
    · exact once
    · split
      · exact once.keep (update_of_ne (Ne.symm allowed) ..) rfl rfl (fun _ _ _ => Iff.rfl)
      · exact once
  | clear => exact absurd allowed id
  | sweep due =>
    cases moved
    exact once.keep allowed rfl rfl (fun _ _ _ => Iff.rfl)
  | call key =>
    cases moved
    exact once.begins
  | get id throws =>
    simp only [State.step, bind_eq_some_iff] at moved
    obtain ⟨call, known, moved⟩ := moved
    by_cases called : call.key = service.key
    · exact once.get unexpired known called moved
    · exact once.elsewhere known called moved

theorem created (once : service.Once state) : ∃ made, made.length ≤ 1 ∧
    state.created service.key = service.before ++ made := by
  obtain ⟨slot, _, _, _, progress⟩ := once.slot
  unfold Progress at progress
  split at progress
  · rename_i object _
    exact ⟨[object], by simp, progress⟩
  · rcases progress with none | ⟨id, call, mutex, object, entry, called, storing⟩
    · exact ⟨[], by simp, by simp [none]⟩
    · have serves := once.serves id call entry called
      rw [Serves, storing] at serves
      exact ⟨[object], by simp, serves.2⟩

end Once

end Service

variable [DecidableEq Key]

instance (key : Key) (state : State Key) :
    (label : Label Key) → Decidable (Untouched key state label)
  | .register other _ _ | .reset other => inferInstanceAs (Decidable (other ≠ key))
  | .clear => instDecidableFalse
  | .sweep due => inferInstanceAs (Decidable (state.swept due key = state.map key))
  | .call _ | .get _ _ => instDecidableTrue

/-- A factory is registered while no `get` for the key is under way. -/
theorem Service.Once.register {state : State Key} {key : Key} (lt : Lifetime)
    (quiet : ∀ call ∈ state.calls, call.key = key → ∃ outcome, call.point = .returned outcome) :
    ∃ mutex, Service.Once ⟨key, state.registrations, mutex, state.created key, state.calls.length⟩
      (state.register key .factory lt) := by
  refine ⟨((state.map key).getD { constructionMutex := state.slots }).constructionMutex, ?_, ?_⟩
  · exact ⟨_, update_self .., rfl, rfl, .inl rfl⟩
  · intro id call entry called
    obtain ⟨outcome, returned⟩ := quiet call (List.mem_of_getElem? entry) called
    have old : id < state.calls.length := (List.getElem?_eq_some_iff.mp entry).1
    simp only [Serves, returned]
    intro later
    exact absurd old (Nat.not_lt.mpr later)

theorem Service.Once.run {service : Service Key} {start state : State Key}
    (once : service.Once start) (unexpired : Unexpired start)
    (run : (system Key).Leads (Untouched service.key) start state) :
    service.Once state ∧ Unexpired state := by
  induction run with
  | refl => exact ⟨once, unexpired⟩
  | tail _ allowed moved ih => exact ⟨ih.1.step ih.2 allowed moved, ih.2.step moved⟩

/-- The factory runs for a call of `get` for the key. -/
def Call.Constructs (key : Key) (call : Call Key) : Prop :=
  call.key = key ∧ ∃ mutex factory, call.point = .inFactory mutex factory

/-- After a factory is registered and while nothing else happens to the registration, at most one
factory call returns an object, each `get` yields it or the exception of its own factory call, and
factory calls do not overlap. -/
theorem singleton_constructed_once {before state : State Key} {key : Key} {lt : Lifetime}
    (reached : (system Key).Reachable before)
    (quiet : ∀ call ∈ before.calls, call.key = key → ∃ outcome, call.point = .returned outcome)
    (run : (system Key).Leads (Untouched key) (before.register key .factory lt) state) :
    ∃ made : List Object, state.created key = before.created key ++ made ∧ made.length ≤ 1 ∧
      (∀ (id : Nat) (call : Call Key) (outcome : Outcome), before.calls.length ≤ id →
        state.calls[id]? = some call → call.key = key → call.point = .returned outcome →
        (∃ object, outcome = .handle object ∧ made = [object]) ∨ outcome = .threw id) ∧
      ∀ (first second : Nat) (call other : Call Key), state.calls[first]? = some call →
        state.calls[second]? = some other → call.Constructs key → other.Constructs key →
        first = second := by
  obtain ⟨mutex, registered⟩ := Service.Once.register lt quiet
  have unexpired : Unexpired (before.register key .factory lt) :=
    (reachable_unexpired reached).register key .factory lt
  have once := (registered.run unexpired run).1
  obtain ⟨made, single, created⟩ := once.created
  refine ⟨made, created, single, ?_, ?_⟩
  · intro id call outcome later entry called returned
    have serves := once.serves id call entry called
    rw [Service.Serves, returned] at serves
    rcases serves later with ⟨object, handle, same⟩ | threw
    · rw [created] at same
      exact .inl ⟨object, handle, List.append_cancel_left same⟩
    · exact .inr threw
  · intro first second call other here there constructs others
    obtain ⟨called, firstMutex, _, inFactory⟩ := constructs
    obtain ⟨otherCalled, secondMutex, _, otherInFactory⟩ := others
    have locked : call.point.held = some firstMutex := by rw [inFactory]; rfl
    have otherLocked : other.point.held = some secondMutex := by rw [otherInFactory]; rfl
    have holds := (once.serves second other there otherCalled).holds otherLocked
    exact once.alone holds.2 here called locked

/-- The factory call of the first `get` throws, that of the second returns. -/
theorem singleton_constructed_once_after_throw : ∃ state : State Nat,
    state.calls.map Call.point = [.returned (.threw 0), .returned (.handle (.created 0 0))] ∧
    state.undefined = false ∧ ∃ made : List Object, state.created 5 = [] ++ made ∧ made.length ≤ 1 ∧
      (∀ (id : Nat) (call : Call Nat) (outcome : Outcome), 0 ≤ id →
        state.calls[id]? = some call → call.key = 5 → call.point = .returned outcome →
        (∃ object, outcome = .handle object ∧ made = [object]) ∨ outcome = .threw id) ∧
      ∀ (first second : Nat) (call other : Call Nat), state.calls[first]? = some call →
        state.calls[second]? = some other → call.Constructs 5 → other.Constructs 5 →
        first = second := by
  obtain ⟨state, executed, points, defined⟩ : ∃ state : State Nat,
      (system Nat).runWithin (Untouched 5) (register {} 5 .factory .immortal)
        [.call 5, .call 5, .get 0 false, .get 1 false, .get 0 false, .get 1 false, .get 0 false,
          .get 0 false, .get 0 false, .get 0 true, .get 0 false, .get 1 false, .get 1 false,
          .get 1 false, .get 1 false, .get 1 false, .get 1 false] = some state ∧
      state.calls.map Call.point =
        [.returned (.threw 0), .returned (.handle (.created 0 0))] ∧ state.undefined = false :=
    ⟨_, rfl, rfl, rfl⟩
  exact ⟨state, points, defined, singleton_constructed_once ⟨{}, rfl, .refl⟩ (by simp)
    (Transition.System.leads_of_runWithin executed)⟩

end Menagerie.Spider
