import Menagerie.Library.Transition

/-!
# The lifecycle of the server

One `setup()` that does not throw against any number of `stop()` calls, and the last store of the
`graceful_shutdown` that they spawn. Every operation on `state_` or `stop_requested_` is one step,
and so is the spawn in `begin_shutdown`.
-/

namespace Menagerie.Albatross.Server

open Transition

/-- `Server::State`. -/
inductive ServerState
  | build | starting | running | stopping | stopped
  deriving DecidableEq, Repr

/-- The place of a state in the lifecycle. -/
@[grind =] def ServerState.rank : ServerState → Nat
  | .build => 0
  | .starting => 1
  | .running => 2
  | .stopping => 3
  | .stopped => 4

theorem ServerState.eq_running (state : ServerState) (middle : state.rank = 2) :
    state = .running := by
  cases state <;> simp [rank] at middle ⊢

/-- A user of the server, or the tail of `setup()`. -/
inductive Caller
  | user (id : Nat)
  | setup
  deriving DecidableEq, Repr

/-- The program point of a call of `stop()`. -/
inductive StopPoint
  | idle
  | compareExchange
  | latch
  | recheck
  | unlatch
  | beginShutdown
  | returned
  deriving DecidableEq, Repr

/-- A call of `stop()` and the state that its first compare-exchange saw. -/
structure StopCall where
  point : StopPoint := .idle
  observed : Option ServerState := none
  deriving DecidableEq, Repr

/-- The program point of `setup()`. -/
inductive SetupPoint
  | requireBuild
  | storeStarting
  | notifyObservers
  | spawnLoop (listener : Nat)
  | storeRunning
  | exchange
  | stop
  | returned
  deriving DecidableEq, Repr

/-- The members that decide the lifecycle, and the program points. -/
structure Lifecycle where
  state : ServerState := .build
  stopRequested : Bool := false
  spawned : Nat := 0
  setup : SetupPoint := .requireBuild
  calls : Caller → StopCall := fun _ => {}

/-- Who moves. -/
inductive Label
  | setup
  | call (id : Nat)
  | stop (caller : Caller)
  | complete
  deriving DecidableEq, Repr

/-- The listeners; `setup()` throws without any. -/
structure Config where
  listeners : Nat
  present : 0 < listeners

namespace Lifecycle

/-- A call moves. -/
def setCall (server : Lifecycle) (caller : Caller) (call : StopCall) : Lifecycle :=
  { server with calls := Function.update server.calls caller call }

/-- A step of `stop()`. -/
def stopStep (server : Lifecycle) (caller : Caller) : Option Lifecycle :=
  let call := server.calls caller
  match call.point with
  | .idle | .returned => none
  | .compareExchange =>
    if server.state = .running then
      some { server.setCall caller ⟨.beginShutdown, some .running⟩ with state := .stopping }
    else if server.state = .starting then
      some (server.setCall caller ⟨.latch, some .starting⟩)
    else some (server.setCall caller ⟨.returned, some server.state⟩)
  | .latch =>
    some { server.setCall caller { call with point := .recheck } with stopRequested := true }
  | .recheck =>
    if server.state = .running then
      some { server.setCall caller { call with point := .unlatch } with state := .stopping }
    else some (server.setCall caller { call with point := .returned })
  | .unlatch =>
    some { server.setCall caller { call with point := .beginShutdown } with stopRequested := false }
  | .beginShutdown =>
    some { server.setCall caller { call with point := .returned } with
      spawned := server.spawned + 1 }

/-- A step of `setup()`. -/
def setupStep (config : Config) (server : Lifecycle) : Option Lifecycle :=
  match server.setup with
  | .requireBuild =>
    if server.state = .build then some { server with setup := .storeStarting } else none
  | .storeStarting => some { server with setup := .notifyObservers, state := .starting }
  | .notifyObservers => some { server with setup := .spawnLoop 0 }
  | .spawnLoop listener =>
    some { server with
      setup :=
        if listener + 1 < config.listeners then .spawnLoop (listener + 1) else .storeRunning }
  | .storeRunning => some { server with setup := .exchange, state := .running }
  | .exchange =>
    if server.stopRequested then
      some { server.setCall .setup { point := .compareExchange } with
        setup := .stop, stopRequested := false }
    else some { server with setup := .returned, stopRequested := false }
  | .stop =>
    if (server.calls .setup).point = .returned then some { server with setup := .returned }
    else none
  | .returned => none

def step (config : Config) (server : Lifecycle) : Label → Option Lifecycle
  | .setup => server.setupStep config
  | .call id =>
    if (server.calls (.user id)).point = .idle then
      some (server.setCall (.user id) { point := .compareExchange })
    else none
  | .stop caller => server.stopStep caller
  | .complete => if 0 < server.spawned then some { server with state := .stopped } else none

end Lifecycle

/-- The lifecycle of a server that has not been set up. -/
def lifecycle (config : Config) : System Lifecycle Label where
  initial server := server = {}
  step := Lifecycle.step config

/-- How far the stores of `setup()` have come. -/
@[grind =] def SetupPoint.phase : SetupPoint → Nat
  | .requireBuild | .storeStarting => 0
  | .notifyObservers | .spawnLoop _ | .storeRunning => 1
  | .exchange | .stop | .returned => 2

/-- `setup()` has yet to look at `stop_requested_`. -/
@[grind =] def SetupPoint.looksBack : SetupPoint → Bool
  | .stop | .returned => false
  | _ => true

theorem SetupPoint.looksBack_of_phase (point : SetupPoint) (early : point.phase < 2) :
    point.looksBack = true := by
  cases point <;> simp [phase] at early <;> rfl

/-- The call has won and has yet to spawn the shutdown. -/
@[grind =] def StopPoint.owes : StopPoint → Bool
  | .unlatch | .beginShutdown => true
  | _ => false

/-- The call has stored its request and has not won so far. -/
@[grind =] def StopCall.latched (call : StopCall) : Prop :=
  call.point = .recheck ∨ call.point = .returned ∧ call.observed = some .starting

/-- The call found a server to stop. -/
@[grind =] def StopCall.found (call : StopCall) : Prop :=
  call.observed = some .starting ∨ call.observed = some .running

namespace Lifecycle

/-- A user's call found the server starting or running. -/
def Asked (server : Lifecycle) : Prop :=
  ∃ id, (server.calls (.user id)).found

/-- Who has won the right to spawn the shutdown. -/
inductive Winner (server : Lifecycle) : Prop
  | nobody (early : server.state.rank < 3) (none : server.spawned = 0)
      (unowed : ∀ caller, (server.calls caller).point.owes = false)
  | owing (caller : Caller) (late : 3 ≤ server.state.rank) (none : server.spawned = 0)
      (owed : ∀ other, (server.calls other).point.owes = true ↔ other = caller)
  | spent (late : 3 ≤ server.state.rank) (once : server.spawned = 1)
      (unowed : ∀ caller, (server.calls caller).point.owes = false)

/-- What holds between the state, the request and the program points. -/
structure Sound (server : Lifecycle) : Prop where
  phase : min server.state.rank 2 = server.setup.phase
  tail : server.setup.looksBack = true → server.calls .setup = {}
  winner : server.Winner
  ran : ∀ caller, (server.calls caller).observed = some .running → 3 ≤ server.state.rank
  fresh : ∀ caller, (server.calls caller).point = .idle ∨
    (server.calls caller).point = .compareExchange → (server.calls caller).observed = none
  started : ∀ caller, (server.calls caller).point = .latch ∨
    (server.calls caller).point = .recheck ∨ (server.calls caller).point = .unlatch →
    (server.calls caller).observed = some .starting
  latched : ∀ caller, (server.calls caller).latched →
    server.stopRequested = true ∨ 2 ≤ server.state.rank
  kept : ∀ caller, (server.calls caller).point = .returned →
    (server.calls caller).observed = some .starting →
    server.stopRequested = true ∧ server.setup.looksBack = true ∨
      (server.calls .setup).point = .compareExchange ∨ 3 ≤ server.state.rank
  asked : server.stopRequested = true ∨ (server.calls .setup).point ≠ .idle ∨
    3 ≤ server.state.rank → server.Asked

variable {config : Config} {server next : Lifecycle}

@[grind =] theorem setCall_state (server : Lifecycle) (caller : Caller) (call : StopCall) :
    (server.setCall caller call).state = server.state := rfl

@[grind =] theorem setCall_stopRequested (server : Lifecycle) (caller : Caller) (call : StopCall) :
    (server.setCall caller call).stopRequested = server.stopRequested := rfl

@[grind =] theorem setCall_setup (server : Lifecycle) (caller : Caller) (call : StopCall) :
    (server.setCall caller call).setup = server.setup := rfl

@[grind =] theorem setCall_calls (server : Lifecycle) (caller other : Caller) (call : StopCall) :
    (server.setCall caller call).calls other =
      if other = caller then call else server.calls other := by
  by_cases same : other = caller
  · rw [if_pos same, same]
    exact Function.update_self ..
  · rw [if_neg same]
    exact Function.update_of_ne same ..

theorem Winner.keep (winner : server.Winner)
    (same : next.state.rank < 3 ↔ server.state.rank < 3) (spawned : next.spawned = server.spawned)
    (owes : ∀ caller, (next.calls caller).point.owes = (server.calls caller).point.owes) :
    next.Winner := by
  cases winner with
  | nobody early none unowed =>
    exact .nobody (same.mpr early) (by rw [spawned, none]) (fun caller => by rw [owes, unowed])
  | owing caller late none owed =>
    exact .owing caller (by omega) (by rw [spawned, none]) (fun other => by rw [owes, owed])
  | spent late once unowed =>
    exact .spent (by omega) (by rw [spawned, once]) (fun caller => by rw [owes, unowed])

theorem owes_setCall {caller : Caller} {call : StopCall}
    (same : call.point.owes = (server.calls caller).point.owes) (other : Caller) :
    ((server.setCall caller call).calls other).point.owes =
      (server.calls other).point.owes := by
  rw [setCall_calls]
  split
  · rename_i here
    rw [here, same]
  · rfl

section

variable (winner : server.Winner)

include winner

theorem Winner.win (running : server.state = .running)
    (stopping : next.state = .stopping) (spawned : next.spawned = server.spawned) (caller : Caller)
    (owes : (next.calls caller).point.owes = true)
    (others : ∀ other, other ≠ caller → next.calls other = server.calls other) : next.Winner := by
  cases winner with
  | nobody early none unowed =>
    refine .owing caller (by rw [stopping]; decide) (by rw [spawned, none]) ?_
    intro other
    by_cases same : other = caller
    · simp [same, owes]
    · simp [others other same, unowed, same]
  | owing _ late | spent late => simp [running, ServerState.rank] at late

theorem Winner.spend (caller : Caller)
    (owes : (server.calls caller).point.owes = true) (state : next.state = server.state)
    (spawned : next.spawned = server.spawned + 1)
    (paid : (next.calls caller).point.owes = false)
    (others : ∀ other, other ≠ caller → next.calls other = server.calls other) : next.Winner := by
  cases winner with
  | nobody _ _ unowed | spent _ _ unowed => simp [unowed caller] at owes
  | owing holder late none owed =>
    have holds : caller = holder := (owed caller).mp owes
    refine .spent (by rw [state]; exact late) (by omega) ?_
    intro other
    by_cases same : other = caller
    · rw [same, paid]
    · rw [others other same, Bool.eq_false_iff]
      intro owing
      exact same (((owed other).mp owing).trans holds.symm)

theorem Winner.late (caller : Caller)
    (owes : (server.calls caller).point.owes = true) : 3 ≤ server.state.rank := by
  cases winner with
  | nobody _ _ unowed => simp [unowed caller] at owes
  | owing _ late => exact late
  | spent late => exact late

theorem Winner.late_of_spawned (spawned : 0 < server.spawned) :
    3 ≤ server.state.rank := by
  cases winner with
  | nobody _ none => omega
  | owing _ late => exact late
  | spent late => exact late

end

theorem Asked.setCall (asked : server.Asked) {caller : Caller} {call : StopCall}
    (keeps : (server.calls caller).found → call.found) : (server.setCall caller call).Asked := by
  obtain ⟨id, found⟩ := asked
  refine ⟨id, ?_⟩
  rw [setCall_calls]
  split
  · rename_i same
    exact keeps (same ▸ found)
  · exact found

theorem asked_of_found {caller : Caller} {call : StopCall} (found : call.found)
    (tail : caller = .setup → server.Asked) : (server.setCall caller call).Asked := by
  cases caller with
  | user id => exact ⟨id, by rwa [setCall_calls, if_pos rfl]⟩
  | setup => exact (tail rfl).setCall (fun _ => found)

attribute [local simp] StopCall.latched SetupPoint.looksBack setCall_calls StopPoint.owes

theorem Sound.initial : ({} : Lifecycle).Sound := by
  constructor
  case winner => exact .nobody (by decide) rfl (fun _ => rfl)
  all_goals simp [ServerState.rank, SetupPoint.phase]

section

variable (sound : server.Sound)

include sound

/-- A call of `stop()` moves, the state does not go back, and a request is taken back only when the
shutdown has begun. -/
theorem Sound.moveCall {caller : Caller} {call : StopCall}
    {state : ServerState} {stopRequested : Bool} {spawned : Nat}
    (busy : (server.calls caller).point ≠ .idle)
    (rank : server.state.rank ≤ state.rank) (phase : min state.rank 2 = min server.state.rank 2)
    (request : server.stopRequested = true → stopRequested = true ∨ 3 ≤ state.rank)
    (ran : call.observed = some .running → 3 ≤ state.rank)
    (fresh : call.point = .idle ∨ call.point = .compareExchange → call.observed = none)
    (started : call.point = .latch ∨ call.point = .recheck ∨ call.point = .unlatch →
      call.observed = some .starting)
    (latched : call.latched → stopRequested = true ∨ 2 ≤ state.rank)
    (kept : call.point = .returned → call.observed = some .starting →
      stopRequested = true ∧ server.setup.looksBack = true ∨ 3 ≤ state.rank)
    (tail : caller = .setup → (server.calls .setup).point = .compareExchange → 3 ≤ state.rank)
    (winner : Winner { server.setCall caller call with
      state := state, stopRequested := stopRequested, spawned := spawned })
    (asked : stopRequested = true ∨ (server.calls .setup).point ≠ .idle ∨ 3 ≤ state.rank →
      (server.setCall caller call).Asked) :
    Sound { server.setCall caller call with
      state := state, stopRequested := stopRequested, spawned := spawned } := by
  have calls : ∀ other, (server.setCall caller call).calls other =
      if other = caller then call else server.calls other :=
    fun other => setCall_calls server caller other call
  constructor
  case winner => exact winner
  case asked =>
    intro cause
    refine asked (cause.imp_right (Or.imp_left ?_))
    rw [calls]
    split
    · rename_i same
      exact fun _ => same ▸ busy
    · exact id
  case phase => exact phase.trans sound.phase
  case tail =>
    intro looks
    have idle := sound.tail looks
    rw [calls, if_neg]
    · exact idle
    · rintro rfl
      exact busy (by rw [idle])
  all_goals
    intro other
    simp only [calls]
    split
  case ran.isTrue => exact ran
  case ran.isFalse => exact fun observed => Nat.le_trans (sound.ran other observed) rank
  case fresh.isTrue => exact fresh
  case fresh.isFalse => exact sound.fresh other
  case started.isTrue => exact started
  case started.isFalse => exact sound.started other
  case latched.isTrue => exact latched
  case latched.isFalse =>
    intro holds
    rcases sound.latched other holds with visible | running
    · exact (request visible).imp_right (fun late => by omega)
    · exact .inr (by omega)
  case kept.isTrue =>
    intro returned observed
    exact (kept returned observed).imp_right .inr
  case kept.isFalse =>
    intro returned observed
    rcases sound.kept other returned observed with ⟨visible, looks⟩ | calling | late
    · exact (request visible).imp (fun visible => ⟨visible, looks⟩) .inr
    · by_cases same : Caller.setup = caller
      · exact .inr (.inr (tail same.symm calling))
      · rw [if_neg same]
        exact .inr (.inl calling)
    · exact .inr (.inr (by omega))

theorem Sound.late_of_setup (busy : (server.calls .setup).point ≠ .idle) :
    2 ≤ server.state.rank := by
  have looks : server.setup.looksBack ≠ true := fun looks => busy (by rw [sound.tail looks])
  have phase := sound.phase
  cases point : server.setup <;> simp [point] at looks <;>
    simp only [point, SetupPoint.phase] at phase <;> omega

/-- A call of the tail of `setup()` comes from a request. -/
theorem Sound.asked_of_setup {caller : Caller}
    (busy : (server.calls caller).point ≠ .idle) (same : caller = .setup) : server.Asked :=
  sound.asked (.inr (.inl (same ▸ busy)))

theorem Sound.compareExchange {caller : Caller}
    (point : (server.calls caller).point = .compareExchange)
    (moved : server.stopStep caller = some next) : next.Sound := by
  have busy : (server.calls caller).point ≠ .idle := by simp [point]
  have owes : (server.calls caller).point.owes = false := by rw [point]; rfl
  simp only [stopStep, point] at moved
  split at moved
  · rename_i running
    cases moved
    refine sound.moveCall busy ?_ ?_ (fun _ => .inr (by decide)) (fun _ => by decide) (by simp)
      (by simp) (by simp) (by simp) (fun _ _ => by decide) ?_ ?_
    · rw [running]
      decide
    · rw [running]
      rfl
    · exact sound.winner.win running rfl rfl caller (by simp)
        (fun other differs => by rw [setCall_calls, if_neg differs])
    · exact fun _ => asked_of_found (.inr rfl) (sound.asked_of_setup busy)
  · rename_i other
    have tail : caller = .setup → 3 ≤ server.state.rank := by
      rintro rfl
      have running := sound.late_of_setup busy
      have differs := mt (server.state.eq_running) other
      omega
    split at moved
    · cases moved
      refine sound.moveCall busy (Nat.le_refl _) rfl .inl (by simp) (by simp) (fun _ => rfl)
        (by simp) (by simp) (fun same _ => tail same) ?_ ?_
      · exact sound.winner.keep Iff.rfl rfl (owes_setCall (by rw [owes]; rfl))
      · exact fun _ => asked_of_found (.inl rfl) (sound.asked_of_setup busy)
    · rename_i early
      cases moved
      have fresh := sound.fresh caller (.inr point)
      refine sound.moveCall busy (Nat.le_refl _) rfl .inl (by simp [other]) (by simp) (by simp)
        (by simp [early]) (by simp [early]) (fun same _ => tail same) ?_ ?_
      · exact sound.winner.keep Iff.rfl rfl (owes_setCall (by rw [owes]; rfl))
      · exact fun cause => (sound.asked cause).setCall (by simp [StopCall.found, fresh])

theorem Sound.stop (caller : Caller)
    (moved : server.stopStep caller = some next) : next.Sound := by
  have busy : (server.calls caller).point ≠ .idle := by
    intro idle
    simp [stopStep, idle] at moved
  cases point : (server.calls caller).point with
  | idle | returned => simp [stopStep, point] at moved
  | compareExchange => exact sound.compareExchange point moved
  | latch =>
    have observed := sound.started caller (.inl point)
    simp only [stopStep, point] at moved
    cases moved
    refine sound.moveCall busy (Nat.le_refl _) rfl (fun _ => .inl rfl) (by simp [observed])
      (by simp) (fun _ => observed) (fun _ => .inl rfl) (by simp)
      (fun same calling => by simp [← same, point] at calling) ?_ ?_
    · exact sound.winner.keep Iff.rfl rfl (owes_setCall (by rw [point]; rfl))
    · exact fun _ => asked_of_found (.inl observed) (sound.asked_of_setup busy)
  | recheck =>
    have observed := sound.started caller (.inr (.inl point))
    have tail : caller = .setup → (server.calls .setup).point ≠ .compareExchange := by
      rintro rfl
      simp [point]
    have asked : ∀ point, (server.setCall caller ⟨point, (server.calls caller).observed⟩).Asked :=
      fun _ => asked_of_found (.inl observed) (sound.asked_of_setup busy)
    simp only [stopStep, point] at moved
    split at moved
    · rename_i running
      cases moved
      refine sound.moveCall busy ?_ ?_ (fun _ => .inr (by decide)) (fun _ => by decide) (by simp)
        (fun _ => observed) (by simp) (by simp) (fun _ _ => by decide) ?_
        (fun _ => asked _)
      · rw [running]
        decide
      · rw [running]
        rfl
      · exact sound.winner.win running rfl rfl caller (by simp)
          (fun other differs => by rw [setCall_calls, if_neg differs])
    · rename_i other
      cases moved
      have visible := sound.latched caller (.inl point)
      have differs := mt (server.state.eq_running) other
      have phase := sound.phase
      have looks := server.setup.looksBack_of_phase
      refine sound.moveCall busy (Nat.le_refl _) rfl .inl (by simp [observed]) (by simp) (by simp)
        (fun _ => visible) (fun _ _ => ?_) (fun same calling => absurd calling (tail same)) ?_
        (fun _ => asked _)
      · by_cases late : 3 ≤ server.state.rank
        · exact .inr late
        · exact .inl ⟨visible.resolve_right (by omega), looks (by omega)⟩
      · exact sound.winner.keep Iff.rfl rfl (owes_setCall (by rw [point]; rfl))
  | unlatch =>
    have observed := sound.started caller (.inr (.inr point))
    have late := sound.winner.late caller (by rw [point]; rfl)
    simp only [stopStep, point] at moved
    cases moved
    refine sound.moveCall busy (Nat.le_refl _) rfl (fun _ => .inr late) (fun _ => late) (by simp)
      (by simp) (by simp) (by simp) (fun _ _ => late) ?_ ?_
    · exact sound.winner.keep Iff.rfl rfl (owes_setCall (by rw [point]; rfl))
    · exact fun _ => asked_of_found (.inl observed) (sound.asked_of_setup busy)
  | beginShutdown =>
    have late := sound.winner.late caller (by rw [point]; rfl)
    simp only [stopStep, point] at moved
    cases moved
    refine sound.moveCall busy (Nat.le_refl _) rfl .inl (fun _ => late) (by simp) (by simp)
      (fun _ => .inr (Nat.le_of_succ_le late)) (fun _ _ => .inr late) (fun _ _ => late) ?_ ?_
    · exact sound.winner.spend caller (by rw [point]; rfl) rfl rfl
        (by simp)
        (fun other differs => by rw [setCall_calls, if_neg differs])
    · exact fun _ => (sound.asked (.inr (.inr late))).setCall id

/-- `setup()` moves: the state does not go back and gets no further than `running`, and the requests
stay. -/
theorem Sound.advance {state : ServerState} {setup : SetupPoint}
    (phase : min state.rank 2 = setup.phase) (rank : server.state.rank ≤ state.rank)
    (same : state.rank < 3 ↔ server.state.rank < 3)
    (looks : setup.looksBack = true → server.setup.looksBack = true)
    (kept : server.stopRequested = true → server.setup.looksBack = true →
      setup.looksBack = true) :
    Sound { server with state := state, setup := setup } := by
  constructor
  case phase => exact phase
  case tail => exact fun back => sound.tail (looks back)
  case winner => exact sound.winner.keep same rfl (fun _ => rfl)
  case ran => exact fun caller observed => Nat.le_trans (sound.ran caller observed) rank
  case fresh => exact sound.fresh
  case started => exact sound.started
  case latched =>
    exact fun caller holds => (sound.latched caller holds).imp_right (Nat.le_trans · rank)
  case kept =>
    intro caller returned observed
    rcases sound.kept caller returned observed with ⟨visible, back⟩ | calling | late
    · exact .inl ⟨visible, kept visible back⟩
    · exact .inr (.inl calling)
    · exact .inr (.inr (Nat.le_trans late rank))
  case asked =>
    intro cause
    refine sound.asked (cause.imp_right (Or.imp_right ?_))
    dsimp only
    omega

theorem Sound.takeRequest (point : server.setup = .exchange)
    (requested : server.stopRequested = true) :
    Sound { server.setCall .setup { point := .compareExchange } with
      setup := .stop, stopRequested := false } := by
  have idle := sound.tail (by rw [point]; rfl)
  have phase := sound.phase
  rw [point] at phase
  have late : 2 ≤ server.state.rank := by
    simp only [SetupPoint.phase] at phase
    omega
  have calls : ∀ other, (server.setCall .setup { point := .compareExchange }).calls other =
      if other = .setup then { point := .compareExchange } else server.calls other :=
    fun other => setCall_calls server .setup other _
  constructor
  case phase => exact phase
  case tail => exact fun back => by simp at back
  case winner => exact sound.winner.keep Iff.rfl rfl (owes_setCall (by rw [idle]; rfl))
  case kept =>
    intro _ _ _
    refine .inr (.inl ?_)
    rw [calls, if_pos rfl]
  case asked =>
    exact fun _ => (sound.asked (.inl requested)).setCall (by simp [StopCall.found, idle])
  all_goals
    intro other
    simp only [calls]
    split
  case ran.isTrue => simp
  case ran.isFalse => exact sound.ran other
  case fresh.isTrue => simp
  case fresh.isFalse => exact sound.fresh other
  case started.isTrue => simp
  case started.isFalse => exact sound.started other
  all_goals exact fun _ => .inr late

theorem Sound.setup (moved : server.setupStep config = some next) :
    next.Sound := by
  have phase := sound.phase
  revert moved
  fun_cases setupStep config server with
  | case1 point | case4 point =>
    rintro ⟨⟩
    exact sound.advance (by rw [phase, point]; rfl) (Nat.le_refl _) Iff.rfl
      (fun _ => by rw [point]; rfl) (fun _ _ => rfl)
  | case3 point =>
    rintro ⟨⟩
    simp only [point, SetupPoint.phase] at phase
    have rank : ServerState.starting.rank = 1 := rfl
    exact sound.advance rfl (by omega) (by omega) (fun _ => by rw [point]; rfl) (fun _ _ => rfl)
  | case5 listener point =>
    rintro ⟨⟩
    refine sound.advance ?_ (Nat.le_refl _) Iff.rfl (fun _ => by rw [point]; rfl) (fun _ _ => ?_)
    · rw [phase, point]
      split <;> rfl
    · split <;> rfl
  | case6 point =>
    rintro ⟨⟩
    simp only [point, SetupPoint.phase] at phase
    have rank : ServerState.running.rank = 2 := rfl
    exact sound.advance rfl (by omega) (by omega) (fun _ => by rw [point]; rfl) (fun _ _ => rfl)
  | case7 point requested =>
    rintro ⟨⟩
    exact sound.takeRequest point requested
  | case8 point unrequested =>
    rintro ⟨⟩
    have none : server.stopRequested = false := by simpa using unrequested
    rw [← none]
    exact sound.advance (by rw [phase, point]; rfl) (Nat.le_refl _) Iff.rfl
      (fun back => by simp at back)
      (fun requested => absurd requested unrequested)
  | case9 point =>
    rintro ⟨⟩
    exact sound.advance (by rw [phase, point]; rfl) (Nat.le_refl _) Iff.rfl
      (fun back => by simp at back)
      (fun _ back => by simp [point] at back)
  | _ => exact nofun

theorem Sound.step (label : Label)
    (moved : server.step config label = some next) : next.Sound := by
  cases label with
  | setup => exact sound.setup moved
  | stop caller => exact sound.stop caller moved
  | call id =>
    obtain ⟨phase, tail, winner, ran, fresh, started, latched, kept, asked⟩ := sound
    simp only [Lifecycle.step] at moved
    split at moved <;> cases moved
    constructor
    case winner => exact winner.keep Iff.rfl rfl (by grind)
    case asked => exact fun cause => (asked (by grind)).setCall (by grind)
    all_goals grind
  | complete =>
    have late := sound.winner.late_of_spawned
    obtain ⟨phase, tail, winner, ran, fresh, started, latched, kept, asked⟩ := sound
    simp only [Lifecycle.step] at moved
    split at moved <;> cases moved
    constructor
    case winner => exact winner.keep (by grind) rfl (fun _ => rfl)
    case asked => exact fun _ => asked (by grind)
    all_goals grind

end

theorem reachable_sound (reached : (lifecycle config).Reachable server) : server.Sound := by
  refine reached.invariant ?_ ?_
  · intro start initial
    rw [show start = {} from initial]
    exact .initial
  · intro _ label _ _ sound _ moved
    exact sound.step label moved

/-- The state moves on to its successor or stays. -/
def Advances (before after : ServerState) : Prop :=
  after = before ∨ after.rank = before.rank + 1

theorem stop_advances (caller : Caller) (moved : server.stopStep caller = some next) :
    Advances server.state next.state := by
  revert moved
  fun_cases stopStep server caller
  all_goals rintro ⟨⟩
  all_goals first
    | exact .inl rfl
    | exact .inr (by rw [show server.state = .running from ‹_›]; rfl)

theorem stop_setup (caller : Caller) (moved : server.stopStep caller = some next) :
    next.setup = server.setup := by
  revert moved
  fun_cases stopStep server caller
  all_goals rintro ⟨⟩
  all_goals rfl

theorem setup_advances (sound : server.Sound) (moved : server.setupStep config = some next) :
    Advances server.state next.state := by
  have phase := sound.phase
  revert moved
  fun_cases setupStep config server with
  | case3 point =>
    rintro ⟨⟩
    simp only [point, SetupPoint.phase] at phase
    right
    change 1 = _
    omega
  | case6 point =>
    rintro ⟨⟩
    simp only [point, SetupPoint.phase] at phase
    right
    change 2 = _
    omega
  | case2 | case10 | case11 => exact nofun
  | _ =>
    rintro ⟨⟩
    exact .inl rfl

theorem step_advances (sound : server.Sound) (label : Label)
    (moved : server.step config label = some next) : Advances server.state next.state := by
  cases label with
  | setup => exact setup_advances sound moved
  | stop caller => exact stop_advances caller moved
  | call id =>
    simp only [step] at moved
    split at moved <;> cases moved
    exact .inl rfl
  | complete =>
    simp only [step] at moved
    split at moved
    · rename_i spawned
      cases moved
      have late := sound.winner.late_of_spawned spawned
      cases state : server.state <;> simp [state, ServerState.rank] at late <;>
        simp [Advances, ServerState.rank]
    · cases moved

theorem Winner.spawned_le (winner : server.Winner) : server.spawned ≤ 1 := by
  cases winner <;> omega

theorem Winner.settled (winner : server.Winner)
    (calls : ∀ caller, (server.calls caller).point = .idle ∨
      (server.calls caller).point = .returned) :
    server.spawned = 1 ∧ 3 ≤ server.state.rank ∨ server.spawned = 0 ∧ server.state.rank < 3 := by
  cases winner with
  | nobody early none => exact .inr ⟨none, early⟩
  | owing caller _ _ owed =>
    have owes := (owed caller).mpr rfl
    rcases calls caller with point | point <;> simp [point] at owes
  | spent late once => exact .inl ⟨once, late⟩

/-- A request that is settled has begun the shutdown. -/
theorem Sound.late_of_asked (sound : server.Sound) (setup : server.setup = .returned)
    (calls : ∀ caller, (server.calls caller).point = .idle ∨
      (server.calls caller).point = .returned) (asked : server.Asked) : 3 ≤ server.state.rank := by
  obtain ⟨id, starting | running⟩ := asked
  · have returned : (server.calls (.user id)).point = .returned := by
      rcases calls (.user id) with idle | returned
      · have nothing := sound.fresh (.user id) (.inl idle)
        rw [nothing] at starting
        cases starting
      · exact returned
    rcases sound.kept (.user id) returned starting with ⟨_, looks⟩ | tail | late
    · rw [setup] at looks
      cases looks
    · rcases calls .setup with point | point <;> rw [point] at tail <;> cases tail
    · exact late
  · exact sound.ran (.user id) running

end Lifecycle

open Lifecycle

/-- With one `setup()` and any `stop()` calls the state moves forward one step at a time,
`graceful_shutdown` is spawned at most once, and at the end exactly if some call found the server
starting or running. A call that finds the server in `build` changes nothing. -/
theorem lifecycle_under_concurrent_stop {config : Config} {server : Lifecycle}
    (reached : (lifecycle config).Reachable server) :
    (∀ label next, server.step config label = some next → Advances server.state next.state) ∧
    server.spawned ≤ 1 ∧
    (server.setup = .returned → (∀ caller, (server.calls caller).point = .idle ∨
      (server.calls caller).point = .returned) →
      (server.Asked → server.spawned = 1) ∧ (¬server.Asked → server.spawned = 0)) ∧
    ∀ caller, (server.calls caller).point = .compareExchange → server.state = .build →
      server.step config (.stop caller) =
        some (server.setCall caller ⟨.returned, some .build⟩) := by
  have sound := reachable_sound reached
  refine ⟨fun label next moved => step_advances sound label moved, sound.winner.spawned_le, ?_, ?_⟩
  · intro setup calls
    have settled := sound.winner.settled calls
    constructor
    · intro asked
      have late := sound.late_of_asked setup calls asked
      omega
    · intro unasked
      rcases settled with ⟨_, late⟩ | ⟨none, _⟩
      · exact absurd (sound.asked (.inr (.inr late))) unasked
      · exact none
  · intro caller point state
    simp [step, stopStep, point, state]

/-- A server with one listener. -/
def oneListener : Config := ⟨1, Nat.one_pos⟩

/-- A `stop()` stores its request after `setup()` has looked for it, and spawns the shutdown. -/
theorem lifecycle_under_late_request : ∃ server, (lifecycle oneListener).Reachable server ∧
    server.setup = .returned ∧ server.calls (.user 0) = ⟨.returned, some .starting⟩ ∧
    server.spawned = 1 ∧ server.spawned ≤ 1 := by
  refine (lifecycle oneListener).exists_reachable rfl
    [.setup, .setup, .call 0, .stop (.user 0), .setup, .setup, .setup, .setup, .stop (.user 0),
      .stop (.user 0), .stop (.user 0), .stop (.user 0)] ⟨_, rfl, fun reached => ?_⟩
  exact ⟨rfl, rfl, rfl, (lifecycle_under_concurrent_stop reached).2.1⟩

end Menagerie.Albatross.Server
