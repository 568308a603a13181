import Menagerie.Library.Transition

/-!
# The service locator

`Spider`: the registry with one slot per key, and calls of `get` by any number of threads. A region
under `mtx_` is one step, and so is each lock and unlock of the construction mutex of a slot and
each begin and end of a factory call. Times and reference counts are left to the environment, which
says at a sweep what they are. The construction mutex is a part of its slot. Here it outlives the
slot, and a step at which the source destroys one that a call still points to is marked in the
state.
-/

namespace Menagerie.Spider

open Transition Function

/-- `Lifetime`. -/
inductive Lifetime
  | resettable | scoped | timed | immortal
  deriving DecidableEq, Repr

/-- What a `shared_ptr` points to, by its registration. -/
inductive Object
  | registered (registration : Nat)
  | created (registration serial : Nat)
  deriving DecidableEq, Repr

def Object.registration : Object → Nat
  | .registered registration | .created registration _ => registration

/-- What a registration stores. -/
inductive Source
  | factory | pointer | null
  deriving DecidableEq, Repr

/-- `Slot`; a factory is named by its registration, the mutex by its number. -/
structure Slot where
  obj : Option Object := none
  factory : Option Nat := none
  lt : Lifetime := .resettable
  expiredFlag : Option Bool := none
  constructionMutex : Nat
  deriving DecidableEq, Repr

/-- A timed slot has expired. -/
def Slot.expired (slot : Slot) : Bool :=
  slot.lt = .timed && slot.expiredFlag = some true

/-- The object that `get` hands out at once. -/
def Slot.current (slot : Slot) : Option Object :=
  if slot.expired then none else slot.obj

/-- What `get` returns or throws. -/
inductive Outcome
  | handle (object : Object)
  /-- `Spider::spawn – not registered`. -/
  | notRegistered
  /-- `Spider::spawn – no factory available`. -/
  | noFactory
  /-- `Spider::spawn – registration removed during construction`. -/
  | removed
  /-- The exception of the factory in the numbered call. -/
  | threw (call : Nat)
  deriving DecidableEq, Repr

/-- The program point of a `get`. -/
inductive GetPoint
  | fastPath
  | copyFactory
  | lockConstruction (mutex : Nat) (factory : Option Nat)
  | doubleCheck (mutex : Nat) (factory : Option Nat)
  | callFactory (mutex factory : Nat)
  | inFactory (mutex factory : Nat)
  | store (mutex : Nat) (object : Object)
  | unlock (mutex : Nat) (outcome : Outcome)
  | returned (outcome : Outcome)
  deriving DecidableEq, Repr

/-- The construction mutex that the call points to. -/
def GetPoint.mutex : GetPoint → Option Nat
  | .lockConstruction mutex _ | .doubleCheck mutex _ | .callFactory mutex _ | .inFactory mutex _
  | .store mutex _ | .unlock mutex _ => some mutex
  | .fastPath | .copyFactory | .returned _ => none

variable {Key : Type}

/-- A call of `get`. -/
structure Call (Key : Type) where
  key : Key
  point : GetPoint := .fastPath
  /-- History: the registration in force when the call began. -/
  since : Option Nat := none

/-- The registry and the calls. -/
structure State (Key : Type) where
  map : Key → Option Slot := fun _ => none
  /-- Which call holds a construction mutex of a key. -/
  holders : Key → Nat → Option Nat := fun _ _ => none
  slots : Nat := 0
  registrations : Nat := 0
  objects : Nat := 0
  calls : List (Call Key) := []
  /-- History: the last registration of a key that nothing has taken back. -/
  latest : Key → Option Nat := fun _ => none
  /-- History: the objects that factories returned for a key. -/
  created : Key → List Object := fun _ => []
  /-- A slot was destroyed while a call pointed to its mutex; what follows is undefined. -/
  undefined : Bool := false

/-- Who moves. -/
inductive Label (Key : Type)
  | register (key : Key) (source : Source) (lt : Lifetime)
  | reset (key : Key)
  | clear
  /-- `sweep`, with the keys that are unused or idle for too long. -/
  | sweep (due : Key → Bool)
  | call (key : Key)
  /-- A call of `get` goes on; a factory returns or throws. -/
  | get (id : Nat) (throws : Bool)

namespace State

variable [DecidableEq Key]

/-- `register_instance`. -/
def register (state : State Key) (key : Key) (source : Source) (lt : Lifetime) : State Key :=
  let registration := state.registrations
  let slot := (state.map key).getD { constructionMutex := state.slots }
  let registered : Slot :=
    match source with
    | .factory => { slot with obj := none, factory := some registration, lt := lt }
    | .pointer => { slot with obj := some (.registered registration), factory := none, lt := lt }
    | .null => { slot with obj := none, factory := none, lt := lt }
  { state with
    map := update state.map key (some registered)
    slots := state.slots + 1
    registrations := registration + 1
    latest := update state.latest key (some registration) }

/-- The call points to the mutex of its slot. -/
def pointsTo (state : State Key) (call : Call Key) : Bool :=
  (state.map call.key).any (fun slot => call.point.mutex = some slot.constructionMutex)

/-- Slots are erased or emptied. -/
def remove (state : State Key) (map : Key → Option Slot) (latest : Key → Option Nat) : State Key :=
  { state with
    map := map
    latest := latest
    undefined := state.undefined ||
      state.calls.any (fun call => state.pointsTo call && (map call.key).isNone) }

/-- `reset`, which throws unless the key is registered and `Resettable`. -/
def reset (state : State Key) (key : Key) : State Key :=
  match state.map key with
  | none => state
  | some slot =>
    if slot.lt = .resettable then
      state.remove (update state.map key none) (update state.latest key none)
    else state

/-- What a sweep leaves of a slot. -/
def sweepSlot (due : Bool) (slot : Slot) : Option Slot :=
  match slot.lt with
  | .scoped => if slot.obj.isSome && due then none else some slot
  | .timed => if due then some { slot with obj := none } else some slot
  | .resettable | .immortal => some slot

def swept (state : State Key) (due : Key → Bool) (key : Key) : Option Slot :=
  (state.map key).bind (sweepSlot (due key))

/-- `sweep`. -/
def sweep (state : State Key) (due : Key → Bool) : State Key :=
  state.remove (state.swept due)
    (fun key => if state.swept due key = state.map key then state.latest key else none)

/-- A call moves. -/
def setPoint (state : State Key) (id : Nat) (point : GetPoint) : State Key :=
  { state with calls := state.calls.modify id (fun call => { call with point := point }) }

/-- A construction mutex is locked or unlocked. -/
def setHolder (state : State Key) (key : Key) (mutex : Nat) (holder : Option Nat) : State Key :=
  { state with
    holders := update state.holders key
      (update (state.holders key) mutex holder) }

/-- The region of `get` that stores the new object. -/
def storeObject (state : State Key) (key : Key) (slot : Slot) (object : Object) : State Key :=
  { state with
    map := update state.map key (some { slot with
      obj := some object
      expiredFlag := if slot.lt = .timed then some false else slot.expiredFlag }) }

/-- A step of `get`. -/
def getStep (state : State Key) (id : Nat) (call : Call Key) (throws : Bool) :
    Option (State Key) :=
  match call.point with
  | .fastPath =>
    match state.map call.key with
    | none => some (state.setPoint id (.returned .notRegistered))
    | some slot =>
      match slot.current with
      | some object => some (state.setPoint id (.returned (.handle object)))
      | none => some (state.setPoint id .copyFactory)
  | .copyFactory =>
    match state.map call.key with
    | none => some (state.setPoint id (.returned .notRegistered))
    | some slot =>
      some (state.setPoint id (.lockConstruction slot.constructionMutex slot.factory))
  | .lockConstruction mutex factory =>
    if state.holders call.key mutex = none then
      some ((state.setHolder call.key mutex (some id)).setPoint id (.doubleCheck mutex factory))
    else none
  | .doubleCheck mutex factory =>
    match (state.map call.key).bind Slot.current with
    | some object => some (state.setPoint id (.unlock mutex (.handle object)))
    | none =>
      match factory with
      | some factory => some (state.setPoint id (.callFactory mutex factory))
      | none => some (state.setPoint id (.unlock mutex .noFactory))
  | .callFactory mutex factory => some (state.setPoint id (.inFactory mutex factory))
  | .inFactory mutex factory =>
    if throws then some (state.setPoint id (.unlock mutex (.threw id)))
    else
      let object := Object.created factory state.objects
      some { state.setPoint id (.store mutex object) with
        objects := state.objects + 1
        created := update state.created call.key (state.created call.key ++ [object]) }
  | .store mutex object =>
    match state.map call.key with
    | none => some (state.setPoint id (.unlock mutex .removed))
    | some slot =>
      some ((state.storeObject call.key slot object).setPoint id (.unlock mutex (.handle object)))
  | .unlock mutex outcome =>
    some ((state.setHolder call.key mutex none).setPoint id (.returned outcome))
  | .returned _ => none

def step (state : State Key) : Label Key → Option (State Key)
  | .register key source lt => some (state.register key source lt)
  | .reset key => some (state.reset key)
  | .clear => some (state.remove (fun _ => none) (fun _ => none))
  | .sweep due => some (state.sweep due)
  | .call key =>
    some { state with calls := state.calls ++ [{ key := key, since := state.latest key }] }
  | .get id throws => state.calls[id]?.bind (fun call => state.getStep id call throws)

end State

/-- Nothing sets an `expired_flag`. -/
def Unexpired (state : State Key) : Prop :=
  ∀ key slot, state.map key = some slot → slot.expiredFlag ≠ some true

theorem Slot.current_eq {slot : Slot} (unexpired : slot.expiredFlag ≠ some true) :
    slot.current = slot.obj := by
  simp [current, expired, unexpired]

theorem State.getElem?_setPoint (state : State Key) (id other : Nat) (point : GetPoint) :
    (state.setPoint id point).calls[other]? = if id = other then
      state.calls[other]?.map (fun call => { call with point := point })
      else state.calls[other]? := by
  rw [setPoint, List.getElem?_modify]
  split <;> simp

theorem State.setPoint_mem {state : State Key} {id : Nat} {point : GetPoint} {call other : Call Key}
    (known : state.calls[id]? = some call) (member : other ∈ (state.setPoint id point).calls) :
    other = { call with point := point } ∨ other ∈ state.calls := by
  obtain ⟨index, entry⟩ := List.getElem?_of_mem member
  rw [getElem?_setPoint] at entry
  split at entry
  · rename_i same
    subst same
    rw [known, Option.map_some, Option.some.injEq] at entry
    exact .inl entry.symm
  · exact .inr (List.mem_of_getElem? entry)

theorem State.getStep_frame [DecidableEq Key] {state next : State Key} {id : Nat} {call : Call Key}
    {throws : Bool} (moved : state.getStep id call throws = some next) :
    ∃ point, next.calls = (state.setPoint id point).calls ∧
      (∀ key, key ≠ call.key → next.map key = state.map key) ∧
      (∀ key, key ≠ call.key → next.holders key = state.holders key) ∧
      (∀ key, key ≠ call.key → next.created key = state.created key) := by
  unfold getStep at moved
  repeat' split at moved
  all_goals
    cases moved <;>
      exact ⟨_, rfl, fun _ _ => by simp_all [setPoint, storeObject, setHolder],
        fun _ _ => by simp_all [setPoint, storeObject, setHolder],
        fun _ _ => by simp_all [setPoint, storeObject, setHolder]⟩

theorem State.getStep_latest [DecidableEq Key] {state next : State Key} {id : Nat}
    {call : Call Key} {throws : Bool} (moved : state.getStep id call throws = some next) :
    next.latest = state.latest ∧ next.registrations = state.registrations := by
  unfold getStep at moved
  repeat' split at moved
  all_goals
    cases moved <;> exact ⟨rfl, rfl⟩

/-- A locator without registrations. -/
def system (Key : Type) [DecidableEq Key] : System (State Key) (Label Key) where
  initial state := state = {}
  step := State.step

namespace Unexpired

variable [DecidableEq Key] {state next : State Key}

section

variable (unexpired : Unexpired state)

include unexpired

theorem update {key : Key} {changed : Option Slot}
    (map : next.map = update state.map key changed)
    (fresh : ∀ slot, changed = some slot → slot.expiredFlag ≠ some true) : Unexpired next := by
  intro other slot there
  rw [map] at there
  by_cases same : other = key
  · rw [same, update_self] at there
    exact fresh slot there
  · rw [update_of_ne same] at there
    exact unexpired other slot there

theorem get {id : Nat} {call : Call Key} {throws : Bool}
    (moved : state.getStep id call throws = some next) : Unexpired next := by
  revert moved
  fun_cases State.getStep state id call throws
  all_goals rintro ⟨⟩
  case case15 mutex object point slot here =>
    refine unexpired.update rfl ?_
    intro stored same
    cases same
    have before := unexpired call.key slot here
    split <;> simp [before]
  all_goals exact unexpired

theorem register (key : Key) (source : Source) (lt : Lifetime) :
    Unexpired (state.register key source lt) := by
  refine unexpired.update rfl ?_
  intro slot same
  cases same
  have before : ((state.map key).getD { constructionMutex := state.slots }).expiredFlag ≠
      some true := by
    cases here : state.map key with
    | none => simp
    | some slot => exact unexpired key slot here
  cases source <;> exact before

theorem step {label : Label Key} (moved : state.step label = some next) : Unexpired next := by
  cases label with
  | register key source lt =>
    cases moved
    exact unexpired.register key source lt
  | reset key =>
    cases moved
    unfold State.reset
    split
    · exact unexpired
    · split
      · exact unexpired.update rfl (by simp)
      · exact unexpired
  | clear =>
    cases moved
    intro key slot there
    cases there
  | sweep due =>
    cases moved
    intro key slot there
    simp only [State.sweep, State.remove, State.swept, Option.bind_eq_some_iff] at there
    obtain ⟨before, here, swept⟩ := there
    have fresh := unexpired key before here
    revert swept
    fun_cases State.sweepSlot (due key) before
    all_goals rintro ⟨⟩
    all_goals exact fresh
  | call key =>
    cases moved
    exact unexpired
  | get id throws =>
    simp only [State.step, Option.bind_eq_some_iff] at moved
    obtain ⟨call, _, moved⟩ := moved
    exact unexpired.get moved

end

end Unexpired

theorem reachable_unexpired [DecidableEq Key] {guard : State Key → Label Key → Prop}
    {state : State Key} (reached : (system Key).ReachableBy guard state) : Unexpired state := by
  refine reached.invariant ?_ ?_
  · intro start initial key slot there
    rw [show start = {} from initial] at there
    cases there
  · intro _ _ _ _ unexpired _ moved
    exact unexpired.step moved

end Menagerie.Spider
