import Menagerie.Library.Census
import Menagerie.Albatross.Server.Lifecycle

/-!
# Graceful shutdown

The accept loops that `setup()` spawns, the serve coroutines that they spawn, and
`graceful_shutdown`, on top of the lifecycle. A turn of a coroutine between two shared operations is
one step; the outcome of an accept, the end of a session and the passing of the drain deadline are
decided by the environment. The forced cancellation of a connection only makes its session end,
which it may do at any time anyway.
-/

namespace Menagerie.Albatross.Server

open Transition Census Function Option

/-- `TcpListener::run`, then its completion handler. -/
inductive LoopPoint
  | unspawned
  | check (consecutiveErrors : Nat)
  | accept (consecutiveErrors : Nat)
  | backoff (consecutiveErrors : Nat)
  | register
  | spawn (connection : Nat)
  | close
  | ended
  | completed
  deriving DecidableEq, Repr

/-- How an accept ends. -/
inductive Accepted
  | socket
  | unusable
  | transient
  | escape
  deriving DecidableEq, Repr

/-- How far a connection has come. -/
inductive ConnectionPoint
  | unused
  | registered
  | spawned
  | serving
  | finished
  | released
  deriving DecidableEq, Repr

/-- A connection. -/
structure Connection where
  listener : Nat := 0
  point : ConnectionPoint := .unused
  deriving DecidableEq, Repr

/-- The program point of `graceful_shutdown`. -/
inductive ShutdownPoint
  | dispatchStop (listener : Nat)
  | awaitLoops
  | drain (listener : Nat)
  /-- Phase 2.5: `total_in_flight`, with the sum so far. -/
  | totalInFlight (listener sum : Nat)
  | observers
  | latch
  | storeStopped
  | returned
  deriving DecidableEq, Repr

/-- The server with its listeners and connections. -/
structure State where
  lifecycle : Lifecycle := {}
  liveAcceptLoops : Nat := 0
  stopSignals : Nat → Nat := fun _ => 0
  cancelled : Nat → Bool := fun _ => false
  loops : Nat → LoopPoint := fun _ => .unspawned
  inFlight : Nat → Nat := fun _ => 0
  connections : Nat → Connection := fun _ => {}
  accepted : Nat := 0
  shutdowns : Nat → ShutdownPoint := fun _ => .dispatchStop 0
  shutdownComplete : Bool := false

/-- Who moves. -/
inductive Action
  | control (label : Label)
  | emit (listener : Nat)
  | loop (listener : Nat) (accepted : Accepted)
  | serve (connection : Nat)
  | shutdown (index : Nat) (deadlinePassed : Bool)
  deriving DecidableEq, Repr

namespace State

/-- `setup()` counts the accept loops and spawns them. -/
def spawnLoops (config : Config) (state : State) : Label → State
  | .setup =>
    match state.lifecycle.setup with
    | .notifyObservers => { state with liveAcceptLoops := config.listeners }
    | .spawnLoop listener =>
      { state with loops := Function.update state.loops listener (.check 0) }
    | _ => state
  | _ => state

/-- An accept loop moves. -/
def setLoop (state : State) (listener : Nat) (point : LoopPoint) : State :=
  { state with loops := Function.update state.loops listener point }

/-- A connection moves. -/
def setConnection (state : State) (connection : Nat) (point : ConnectionPoint) : State :=
  { state with
    connections := Function.update state.connections connection
      { state.connections connection with point := point } }

/-- `register_connection`: the tracker counts the connection. -/
def register (state : State) (listener : Nat) : State :=
  { state with
    inFlight := Function.update state.inFlight listener (state.inFlight listener + 1)
    connections := Function.update state.connections state.accepted ⟨listener, .registered⟩
    accepted := state.accepted + 1 }

/-- `Handle::release`. -/
def release (state : State) (connection : Nat) : State :=
  let listener := (state.connections connection).listener
  { state.setConnection connection .released with
    inFlight := Function.update state.inFlight listener (state.inFlight listener - 1) }

/-- `TcpListener::run` and its completion handler. -/
def loopStep (state : State) (listener : Nat) (accepted : Accepted) : Option State :=
  match state.loops listener with
  | .unspawned | .completed => none
  | .check errors =>
    some (state.setLoop listener (if state.cancelled listener then .close else .accept errors))
  | .accept errors =>
    some (state.setLoop listener (match accepted with
      | .socket => .register
      | .unusable => .close
      | .transient => if 2 < errors + 1 then .backoff (errors + 1) else .check (errors + 1)
      | .escape => .ended))
  | .backoff errors => some (state.setLoop listener (.check errors))
  | .register =>
    some (if accepted = .escape then state.setLoop listener .ended
      else (state.register listener).setLoop listener (.spawn state.accepted))
  | .spawn connection =>
    some ((state.setConnection connection .spawned).setLoop listener (.check 0))
  | .close => some (state.setLoop listener .ended)
  | .ended =>
    some { state.setLoop listener .completed with liveAcceptLoops := state.liveAcceptLoops - 1 }

/-- A step of a session. -/
def serveStep (state : State) (connection : Nat) : Option State :=
  match (state.connections connection).point with
  | .unused | .registered | .released => none
  | .spawned => some (state.setConnection connection .serving)
  | .serving => some (state.setConnection connection .finished)
  | .finished => some (state.release connection)

/-- A shutdown coroutine moves. -/
def setShutdown (state : State) (index : Nat) (point : ShutdownPoint) : State :=
  { state with shutdowns := Function.update state.shutdowns index point }

/-- The listener after this one, or the next phase. -/
def nextListener (config : Config) (listener : Nat) (again : Nat → ShutdownPoint)
    (done : ShutdownPoint) : ShutdownPoint :=
  if listener + 1 < config.listeners then again (listener + 1) else done

/-- `graceful_shutdown`; a wait that goes on changes nothing. -/
def shutdownStep (config : Config) (state : State) (index : Nat) (deadlinePassed : Bool) :
    Option State :=
  match state.shutdowns index with
  | .dispatchStop listener =>
    some { state.setShutdown index (nextListener config listener .dispatchStop .awaitLoops) with
      stopSignals := Function.update state.stopSignals listener (state.stopSignals listener + 1) }
  | .awaitLoops =>
    some (if 0 < state.liveAcceptLoops then state else state.setShutdown index (.drain 0))
  | .drain listener =>
    some (if 0 < state.inFlight listener ∧ deadlinePassed = false then state
      else state.setShutdown index
        (nextListener config listener .drain (.totalInFlight 0 0)))
  | .totalInFlight listener sum =>
    let total := sum + state.inFlight listener
    some (state.setShutdown index
      (nextListener config listener (.totalInFlight · total)
        (if 0 < total then .totalInFlight 0 0 else .observers)))
  | .observers => some (state.setShutdown index .latch)
  | .latch => some { state.setShutdown index .storeStopped with shutdownComplete := true }
  | .storeStopped =>
    (state.lifecycle.step config .complete).map (fun lifecycle =>
      { state.setShutdown index .returned with lifecycle := lifecycle })
  | .returned => none

def step (config : Config) (state : State) : Action → Option State
  | .control .complete => none
  | .control label =>
    (state.lifecycle.step config label).map (fun lifecycle =>
      { state.spawnLoops config label with lifecycle := lifecycle })
  | .emit listener =>
    if 0 < state.stopSignals listener then
      some { state with
        stopSignals := Function.update state.stopSignals listener (state.stopSignals listener - 1)
        cancelled := Function.update state.cancelled listener true }
    else none
  | .loop listener accepted => state.loopStep listener accepted
  | .serve connection => state.serveStep connection
  | .shutdown index deadlinePassed =>
    if index < state.lifecycle.spawned then state.shutdownStep config index deadlinePassed
    else none

end State

/-- A server that has not been set up. -/
def system (config : Config) : System State Action where
  initial state := state = {}
  step := State.step config

/-- How many accept loops `setup()` has spawned. -/
def SetupPoint.loopCount (config : Config) : SetupPoint → Nat
  | .requireBuild | .storeStarting | .notifyObservers => 0
  | .spawnLoop listener => listener
  | .storeRunning | .exchange | .stop | .returned => config.listeners

/-- `setup()` has stored the number of accept loops. -/
def SetupPoint.counted : SetupPoint → Bool
  | .requireBuild | .storeStarting | .notifyObservers => false
  | .spawnLoop _ | .storeRunning | .exchange | .stop | .returned => true

/-- `live_accept_loops_` counts the loop. -/
def LoopPoint.live (point : LoopPoint) : Bool := point ≠ .completed

/-- The loop has been spawned and has not completed. -/
def LoopPoint.running : LoopPoint → Bool
  | .unspawned | .completed => false
  | _ => true

/-- The loop runs and has no connection to spawn. -/
def LoopPoint.turning : LoopPoint → Bool
  | .spawn _ => false
  | point => point.running

theorem LoopPoint.live_of_running {point : LoopPoint} (runs : point.running = true) :
    point.live = true := by
  cases point <;> first | rfl | cases runs

theorem LoopPoint.running_of_turning {point : LoopPoint} (turns : point.turning = true) :
    point.running = true := by
  cases point <;> first | rfl | cases turns

/-- `in_flight` counts the connection. -/
def ConnectionPoint.tracked : ConnectionPoint → Bool
  | .unused | .released => false
  | .registered | .spawned | .serving | .finished => true

/-- The tracker counts it. -/
def Connection.trackedBy (listener : Nat) (connection : Connection) : Bool :=
  connection.listener = listener && connection.point.tracked

variable {config : Config} {state next : State}

/-- Every accept loop has ended, and `live_accept_loops_` is zero. -/
def Ended (config : Config) (state : State) : Prop :=
  ∀ listener < config.listeners, state.loops listener = .completed

/-- Every accept loop has ended and no connection is counted. -/
structure Quiet (config : Config) (state : State) : Prop where
  ended : Ended config state
  idle : ∀ listener < config.listeners, state.inFlight listener = 0

/-- What a shutdown at a program point has seen and still holds. -/
def Reached (config : Config) (state : State) : ShutdownPoint → Prop
  | .dispatchStop _ | .awaitLoops => True
  | .drain _ => Ended config state
  | .totalInFlight listener sum => Ended config state ∧
      (sum = 0 → ∀ earlier < listener, state.inFlight earlier = 0)
  | .observers | .latch | .storeStopped | .returned => Quiet config state

/-- The counters agree with the loops and the connections, and the shutdown with them. -/
structure Orderly (config : Config) (state : State) : Prop where
  sound : state.lifecycle.Sound
  within : ∀ listener, state.lifecycle.setup = .spawnLoop listener → listener < config.listeners
  spawning : ∀ listener, state.loops listener = .unspawned ↔
    state.lifecycle.setup.loopCount config ≤ listener
  live : state.lifecycle.setup.counted = true →
    state.liveAcceptLoops = census LoopPoint.live state.loops config.listeners
  tracked : ∀ listener, state.inFlight listener =
    census (Connection.trackedBy listener) state.connections state.accepted
  unused : ∀ connection, state.accepted ≤ connection →
    (state.connections connection).point = .unused
  owner : ∀ connection < state.accepted,
    (state.connections connection).listener < config.listeners
  spawn : ∀ listener connection, state.loops listener = .spawn connection →
    connection < state.accepted ∧ state.connections connection = ⟨listener, .registered⟩
  reached : ∀ index, Reached config state (state.shutdowns index)
  complete : state.shutdownComplete = true → Quiet config state

/-- Ended loops stay ended, and then an idle tracker stays idle. -/
structure Settles (config : Config) (state next : State) : Prop where
  ended : Ended config state → Ended config next
  idle : Ended config state → ∀ listener, state.inFlight listener = 0 →
    next.inFlight listener = 0

theorem Settles.same (loops : next.loops = state.loops)
    (inFlight : next.inFlight = state.inFlight) : Settles config state next :=
  ⟨fun ended listener below => loops ▸ ended listener below,
    fun _ _ none => inFlight ▸ none⟩

theorem Quiet.keep (quiet : Quiet config state) (settles : Settles config state next) :
    Quiet config next :=
  ⟨settles.ended quiet.ended,
    fun listener below => settles.idle quiet.ended listener (quiet.idle listener below)⟩

theorem Reached.keep {point : ShutdownPoint} (reached : Reached config state point)
    (settles : Settles config state next) : Reached config next point := by
  cases point with
  | dispatchStop | awaitLoops => trivial
  | drain => exact settles.ended reached
  | totalInFlight listener sum =>
    exact ⟨settles.ended reached.1, fun none earlier before =>
      settles.idle reached.1 earlier (reached.2 none earlier before)⟩
  | observers | latch | storeStopped | returned => exact Quiet.keep reached settles

theorem State.register_connections (state : State) (listener connection : Nat) :
    (state.register listener).connections connection =
      if connection = state.accepted then ⟨listener, .registered⟩
      else state.connections connection := by
  by_cases same : connection = state.accepted <;> simp [State.register, same]

theorem State.setConnection_connections (state : State) (connection other : Nat)
    (point : ConnectionPoint) :
    (state.setConnection connection point).connections other =
      if other = connection then { state.connections connection with point := point }
      else state.connections other := by
  by_cases same : other = connection <;> simp [State.setConnection, same]

namespace Orderly

theorem known (orderly : Orderly config state) {listener : Nat}
    (spawned : state.loops listener ≠ .unspawned) : listener < config.listeners := by
  have count : ¬state.lifecycle.setup.loopCount config ≤ listener :=
    fun count => spawned ((orderly.spawning listener).mpr count)
  have bound : state.lifecycle.setup.loopCount config ≤ config.listeners := by
    cases point : state.lifecycle.setup with
    | spawnLoop last => exact Nat.le_of_lt (orderly.within last point)
    | _ => simp [SetupPoint.loopCount]
  omega

theorem known_of_running (orderly : Orderly config state) {listener : Nat}
    (runs : (state.loops listener).running = true) : listener < config.listeners := by
  refine orderly.known fun unspawned => ?_
  rw [unspawned] at runs
  cases runs

theorem settles_of_open {listener : Nat} (below : listener < config.listeners)
    (still : state.loops listener ≠ .completed) : Settles config state next :=
  have open_ : ¬Ended config state := fun ended => still (ended listener below)
  ⟨fun ended => absurd ended open_, fun ended => absurd ended open_⟩

section

variable {listener : Nat} {point : LoopPoint}

theorem moveLoop (orderly : Orderly config state) {liveAcceptLoops accepted : Nat}
    {inFlight : Nat → Nat} {connections : Nat → Connection}
    (runs : (state.loops listener).running = true) (present : point ≠ .unspawned)
    (live : state.liveAcceptLoops = census LoopPoint.live state.loops config.listeners →
      liveAcceptLoops =
      census LoopPoint.live (update state.loops listener point) config.listeners)
    (tracked : ∀ listener, inFlight listener =
      census (Connection.trackedBy listener) connections accepted)
    (unused : ∀ connection, accepted ≤ connection → (connections connection).point = .unused)
    (owner : ∀ connection < accepted, (connections connection).listener < config.listeners)
    (spawn : ∀ other connection, update state.loops listener point other =
      .spawn connection → connection < accepted ∧ connections connection = ⟨other, .registered⟩) :
    Orderly config { state with
      loops := update state.loops listener point
      liveAcceptLoops, inFlight, connections, accepted } := by
  have spawned : state.loops listener ≠ .unspawned := fun unspawned => by
    rw [unspawned] at runs
    cases runs
  have settles : ∀ {next}, Settles config state next := by
    refine settles_of_open (orderly.known spawned) fun completed => ?_
    rw [completed] at runs
    cases runs
  refine ⟨orderly.sound, orderly.within, ?_, fun counted => live (orderly.live counted), tracked,
    unused, owner, spawn, fun index => (orderly.reached index).keep settles,
    fun complete => (orderly.complete complete).keep settles⟩
  intro other
  dsimp only
  by_cases same : other = listener
  · rw [same, update_self, ← orderly.spawning listener]
    exact ⟨fun absent => absurd absent present, fun absent => absurd absent spawned⟩
  · rw [update_of_ne same]
    exact orderly.spawning other

theorem live_setLoop (below : listener < config.listeners)
    (before : (state.loops listener).live = true) (after : point.live = true)
    (live : state.liveAcceptLoops = census LoopPoint.live state.loops config.listeners) :
    state.liveAcceptLoops =
      census LoopPoint.live (update state.loops listener point) config.listeners := by
  have moved := census_update LoopPoint.live state.loops below point
  rw [before, after] at moved
  omega

theorem spawn_of_update {loops : Nat → LoopPoint} {other connection : Nat}
    (quiet : ∀ connection, point ≠ .spawn connection)
    (spawning : update loops listener point other = .spawn connection) :
    other ≠ listener ∧ loops other = .spawn connection := by
  by_cases same : other = listener
  · rw [same, update_self] at spawning
    exact absurd spawning (quiet connection)
  · rw [update_of_ne same] at spawning
    exact ⟨same, spawning⟩

theorem setLoop (orderly : Orderly config state) (runs : (state.loops listener).running = true)
    (turns : point.turning = true) :
    Orderly config (state.setLoop listener point) := by
  have still := LoopPoint.running_of_turning turns
  refine orderly.moveLoop runs (fun unspawned => by rw [unspawned] at still; cases still) ?_
    orderly.tracked orderly.unused orderly.owner ?_
  · exact live_setLoop (orderly.known_of_running runs) (LoopPoint.live_of_running runs)
      (LoopPoint.live_of_running still)
  · intro other connection spawning
    have quiet : ∀ connection, point ≠ .spawn connection := by
      rintro connection rfl
      cases turns
    exact orderly.spawn other connection (spawn_of_update quiet spawning).2

end

section

variable (orderly : Orderly config state) {connection : Nat} {point : ConnectionPoint}
  (below : connection < state.accepted)

include orderly below

theorem tracked_setConnection (same : point.tracked = (state.connections connection).point.tracked)
    (listener : Nat) :
    state.inFlight listener = census (Connection.trackedBy listener)
      (state.setConnection connection point).connections state.accepted := by
  have moved := census_update (Connection.trackedBy listener) state.connections below
    { state.connections connection with point := point }
  have counted :
      Connection.trackedBy listener { state.connections connection with point := point } =
      Connection.trackedBy listener (state.connections connection) := by
    simp [Connection.trackedBy, same]
  rw [counted] at moved
  have tracked := orderly.tracked listener
  change _ = census _ (update _ _ _) _
  omega

theorem unused_setConnection (other : Nat) (beyond : state.accepted ≤ other) :
    ((state.setConnection connection point).connections other).point = .unused := by
  rw [State.setConnection_connections, if_neg (by omega)]
  exact orderly.unused other beyond

theorem owner_setConnection (other : Nat) (small : other < state.accepted) :
    ((state.setConnection connection point).connections other).listener < config.listeners := by
  rw [State.setConnection_connections]
  split
  · exact orderly.owner connection below
  · exact orderly.owner other small

end

section

variable (orderly : Orderly config state) {listener : Nat}

include orderly

theorem register (accepted : state.loops listener = .register) :
    Orderly config ((state.register listener).setLoop listener (.spawn state.accepted)) := by
  have runs : (state.loops listener).running = true := by rw [accepted]; rfl
  have known := orderly.known_of_running runs
  refine orderly.moveLoop runs (by simp)
    (live_setLoop known (LoopPoint.live_of_running runs) rfl) ?_ ?_ ?_ ?_
  · intro other
    change update state.inFlight listener _ other =
      census _ (update _ _ _) (state.accepted + 1)
    rw [census_succ, census_beyond _ _ le_rfl, update_self, ← orderly.tracked other]
    by_cases same : other = listener
    · simp [same, Connection.trackedBy, ConnectionPoint.tracked]
    · simp [same, Ne.symm same, Connection.trackedBy]
  · intro connection beyond
    change state.accepted + 1 ≤ connection at beyond
    rw [State.register_connections, if_neg (by omega)]
    exact orderly.unused connection (by omega)
  · intro connection below
    change connection < state.accepted + 1 at below
    rw [State.register_connections]
    split
    · exact known
    · exact orderly.owner connection (by omega)
  · intro other connection spawning
    change connection < state.accepted + 1 ∧ (state.register listener).connections connection = _
    rw [State.register_connections]
    by_cases same : other = listener
    · rw [same, update_self] at spawning
      cases spawning
      rw [same, if_pos rfl]
      exact ⟨Nat.lt_succ_self _, rfl⟩
    · rw [update_of_ne same] at spawning
      obtain ⟨below, registered⟩ := orderly.spawn other connection spawning
      rw [if_neg (by omega)]
      exact ⟨by omega, registered⟩

theorem spawnServe {connection : Nat} (spawning : state.loops listener = .spawn connection) :
    Orderly config ((state.setConnection connection .spawned).setLoop listener (.check 0)) := by
  have runs : (state.loops listener).running = true := by rw [spawning]; rfl
  obtain ⟨below, registered⟩ := orderly.spawn listener connection spawning
  refine orderly.moveLoop runs (by simp)
    (live_setLoop (orderly.known_of_running runs) (LoopPoint.live_of_running runs) rfl) ?_ ?_ ?_ ?_
  · exact orderly.tracked_setConnection below (by rw [registered]; rfl)
  · intro other beyond
    exact orderly.unused_setConnection below other beyond
  · intro other small
    exact orderly.owner_setConnection below other small
  · intro other another found
    obtain ⟨differs, before⟩ := spawn_of_update (by simp) found
    obtain ⟨small, held⟩ := orderly.spawn other another before
    have apart : another ≠ connection := by
      intro same
      rw [same, registered] at held
      exact differs (congrArg Connection.listener held).symm
    rw [State.setConnection_connections, if_neg apart]
    exact ⟨small, held⟩

theorem completeLoop (ended : state.loops listener = .ended) :
    Orderly config { state.setLoop listener .completed with
      liveAcceptLoops := state.liveAcceptLoops - 1 } := by
  have runs : (state.loops listener).running = true := by rw [ended]; rfl
  have known := orderly.known_of_running runs
  refine orderly.moveLoop runs (by simp) ?_ orderly.tracked orderly.unused orderly.owner ?_
  · intro live
    have moved := census_update LoopPoint.live state.loops known .completed
    rw [ended] at moved
    change _ + 1 = _ + 0 at moved
    omega
  · intro other connection spawning
    exact orderly.spawn other connection (spawn_of_update (by simp) spawning).2

theorem loop {accepted : Accepted} (moved : state.loopStep listener accepted = some next) :
    Orderly config next := by
  have turn : ∀ {before : LoopPoint}, state.loops listener = before → before.running = true →
      ∀ after : LoopPoint, after.turning = true → Orderly config (state.setLoop listener after) :=
    fun point runs after => orderly.setLoop (point ▸ runs)
  revert moved
  fun_cases State.loopStep state listener accepted
  all_goals rintro ⟨⟩
  case case3 errors point => exact turn point rfl _ (by split <;> rfl)
  case case4 errors point =>
    refine turn point rfl _ ?_
    cases accepted <;> first | rfl | (dsimp only; split <;> rfl)
  case case5 errors point => exact turn point rfl _ rfl
  case case6 point =>
    split
    · exact turn point rfl _ rfl
    · exact orderly.register point
  case case7 connection point => exact orderly.spawnServe point
  case case8 point => exact turn point rfl _ rfl
  case case9 point => exact orderly.completeLoop point

end

theorem accepted_of_used (orderly : Orderly config state) {connection : Nat}
    (used : (state.connections connection).point ≠ .unused) : connection < state.accepted := by
  by_contra beyond
  exact used (orderly.unused connection (by omega))

section

variable (orderly : Orderly config state) {connection : Nat} {point : ConnectionPoint}
  (used : (state.connections connection).point ≠ .unused)
  (spawned : (state.connections connection).point ≠ .registered)

include orderly used spawned

theorem moveConnection {inFlight : Nat → Nat}
    (idle : ∀ listener, state.inFlight listener = 0 → inFlight listener = 0)
    (tracked : ∀ listener, inFlight listener = census (Connection.trackedBy listener)
      (state.setConnection connection point).connections state.accepted) :
    Orderly config { state.setConnection connection point with inFlight } := by
  have below := orderly.accepted_of_used used
  have settles : Settles config state { state.setConnection connection point with inFlight } :=
    ⟨id, fun _ => idle⟩
  refine ⟨orderly.sound, orderly.within, orderly.spawning, orderly.live, tracked,
    orderly.unused_setConnection below, orderly.owner_setConnection below, ?_,
    fun index => (orderly.reached index).keep settles,
    fun complete => (orderly.complete complete).keep settles⟩
  intro listener another spawning
  obtain ⟨small, registered⟩ := orderly.spawn listener another spawning
  have apart : another ≠ connection := by
    intro same
    rw [same] at registered
    exact spawned (congrArg Connection.point registered)
  refine ⟨small, ?_⟩
  rw [State.setConnection_connections, if_neg apart]
  exact registered

theorem setConnection (same : point.tracked = (state.connections connection).point.tracked) :
    Orderly config (state.setConnection connection point) :=
  orderly.moveConnection used spawned (fun _ => id)
    (orderly.tracked_setConnection (orderly.accepted_of_used used) same)

end

section

variable (orderly : Orderly config state)

include orderly

theorem release {connection : Nat} (finished : (state.connections connection).point = .finished) :
    Orderly config (state.release connection) := by
  have used : (state.connections connection).point ≠ .unused := by simp [finished]
  have idle : ∀ listener, state.inFlight listener = 0 →
      (state.release connection).inFlight listener = 0 := by
    intro listener none
    simp only [State.release, update_apply]
    split
    · rename_i same
      rw [← same]
      omega
    · exact none
  refine orderly.moveConnection used (by simp [finished]) idle ?_
  intro listener
  have moved := census_update (Connection.trackedBy listener) state.connections
    (orderly.accepted_of_used used) { state.connections connection with point := .released }
  have after : Connection.trackedBy listener
      { state.connections connection with point := .released } = false := by
    simp [Connection.trackedBy, ConnectionPoint.tracked]
  have tracked := orderly.tracked listener
  rw [after, Bool.toNat_false] at moved
  change update state.inFlight _ _ listener =
    census _ (update _ _ _) state.accepted
  rw [update_apply]
  by_cases same : listener = (state.connections connection).listener
  · have before : Connection.trackedBy listener (state.connections connection) = true := by
      simp [Connection.trackedBy, same, finished, ConnectionPoint.tracked]
    rw [before, Bool.toNat_true] at moved
    rw [if_pos same, ← same]
    omega
  · have before : Connection.trackedBy listener (state.connections connection) = false := by
      simp [Connection.trackedBy, Ne.symm same]
    rw [before, Bool.toNat_false] at moved
    rw [if_neg same]
    omega

theorem serve {connection : Nat} (moved : state.serveStep connection = some next) :
    Orderly config next := by
  revert moved
  fun_cases State.serveStep state connection
  all_goals rintro ⟨⟩
  case case6 point => exact orderly.release point
  all_goals
    rename_i point
    exact orderly.setConnection (by simp [point]) (by simp [point]) (by rw [point]; rfl)

theorem changeLifecycle {lifecycle : Lifecycle} (sound : lifecycle.Sound)
    (within : ∀ listener, lifecycle.setup = .spawnLoop listener → listener < config.listeners)
    (spawning : lifecycle.setup.loopCount config = state.lifecycle.setup.loopCount config)
    (counted : lifecycle.setup.counted = state.lifecycle.setup.counted) :
    Orderly config { state with lifecycle := lifecycle } := by
  refine ⟨sound, within, ?_, ?_, orderly.tracked, orderly.unused, orderly.owner, orderly.spawn,
    fun index => (orderly.reached index).keep (.same rfl rfl),
    fun complete => (orderly.complete complete).keep (.same rfl rfl)⟩
  · intro listener
    rw [spawning]
    exact orderly.spawning listener
  · rw [counted]
    exact orderly.live

theorem countLoops {lifecycle : Lifecycle} (sound : lifecycle.Sound)
    (before : state.lifecycle.setup = .notifyObservers) (after : lifecycle.setup = .spawnLoop 0) :
    Orderly config
      { state with liveAcceptLoops := config.listeners, lifecycle := lifecycle } := by
  have unspawned : ∀ listener, state.loops listener = .unspawned := by
    intro listener
    rw [orderly.spawning listener, before]
    exact Nat.zero_le _
  refine ⟨sound, ?_, ?_, ?_, orderly.tracked, orderly.unused, orderly.owner, orderly.spawn,
    fun index => (orderly.reached index).keep (.same rfl rfl),
    fun complete => (orderly.complete complete).keep (.same rfl rfl)⟩
  · intro listener found
    rw [after] at found
    cases found
    exact config.present
  · intro listener
    rw [after]
    exact ⟨fun _ => Nat.zero_le _, fun _ => unspawned listener⟩
  · intro _
    refine (census_all ?_).symm
    intro listener _
    rw [unspawned]
    rfl

theorem spawnLoop {lifecycle : Lifecycle} {listener : Nat} (sound : lifecycle.Sound)
    (before : state.lifecycle.setup = .spawnLoop listener)
    (after : lifecycle.setup =
      if listener + 1 < config.listeners then .spawnLoop (listener + 1) else .storeRunning) :
    Orderly config { state.setLoop listener (.check 0) with lifecycle := lifecycle } := by
  have below := orderly.within listener before
  have unspawned : state.loops listener = .unspawned := by
    rw [orderly.spawning listener, before]
    exact Nat.le_refl _
  have settles : Settles config state
      { state.setLoop listener (.check 0) with lifecycle := lifecycle } :=
    settles_of_open below (by simp [unspawned])
  have count : lifecycle.setup.loopCount config = listener + 1 := by
    rw [after]
    split
    · rfl
    · change config.listeners = _
      omega
  refine ⟨sound, ?_, ?_, ?_, orderly.tracked, orderly.unused, orderly.owner, ?_, ?_, ?_⟩
  · intro other found
    rw [after] at found
    split at found
    · cases found
      assumption
    · cases found
  · intro other
    change update state.loops listener _ other = _ ↔ lifecycle.setup.loopCount config ≤ _
    rw [count]
    by_cases same : other = listener
    · rw [same, update_self]
      simp
    · rw [update_of_ne same, orderly.spawning other, before]
      change listener ≤ other ↔ _
      omega
  · intro _
    exact live_setLoop below (by rw [unspawned]; rfl) rfl (orderly.live (by rw [before]; rfl))
  · intro other connection spawning
    exact orderly.spawn other connection (spawn_of_update (by simp) spawning).2
  · intro index
    exact (orderly.reached index).keep settles
  · intro complete
    exact (orderly.complete complete).keep settles

theorem setup {lifecycle : Lifecycle} (moved : state.lifecycle.setupStep config = some lifecycle) :
    Orderly config { state.spawnLoops config .setup with lifecycle := lifecycle } := by
  have sound := orderly.sound.setup moved
  revert moved
  fun_cases Lifecycle.setupStep config state.lifecycle
  all_goals rintro ⟨⟩
  case case4 point =>
    simp only [State.spawnLoops, point]
    exact orderly.countLoops sound point rfl
  case case5 listener point =>
    simp only [State.spawnLoops, point]
    exact orderly.spawnLoop sound point rfl
  case case1 point _ | case3 point | case6 point | case7 point _ | case8 point _ | case9 point _ =>
    simp only [State.spawnLoops, point]
    exact orderly.changeLifecycle sound (by simp) (by rw [point]; rfl) (by rw [point]; rfl)

theorem keepSetup {lifecycle : Lifecycle} (sound : lifecycle.Sound)
    (same : lifecycle.setup = state.lifecycle.setup) :
    Orderly config { state with lifecycle := lifecycle } :=
  orderly.changeLifecycle sound (same ▸ orderly.within) (by rw [same]) (by rw [same])

theorem setShutdown {index : Nat} {point : ShutdownPoint} {stopSignals : Nat → Nat}
    {shutdownComplete : Bool} (reached : Reached config state point)
    (complete : shutdownComplete = true → Quiet config state) :
    Orderly config
      { state.setShutdown index point with stopSignals, shutdownComplete } := by
  have settles : Settles config state
      { state.setShutdown index point with stopSignals, shutdownComplete } := .same rfl rfl
  refine ⟨orderly.sound, orderly.within, orderly.spawning, orderly.live, orderly.tracked,
    orderly.unused, orderly.owner, orderly.spawn, ?_, fun now => (complete now).keep settles⟩
  intro other
  change Reached config _ (update state.shutdowns index point other)
  by_cases same : other = index
  · rw [same, update_self]
    exact reached.keep settles
  · rw [update_of_ne same]
    exact (orderly.reached other).keep settles

theorem emit {stopSignals : Nat → Nat} {cancelled : Nat → Bool} :
    Orderly config { state with stopSignals, cancelled } :=
  ⟨orderly.sound, orderly.within, orderly.spawning, orderly.live, orderly.tracked, orderly.unused,
    orderly.owner, orderly.spawn, fun index => (orderly.reached index).keep (.same rfl rfl),
    fun complete => (orderly.complete complete).keep (.same rfl rfl)⟩

theorem ended_of_live (spawned : 0 < state.lifecycle.spawned) (none : state.liveAcceptLoops = 0) :
    Ended config state := by
  have late := orderly.sound.winner.late_of_spawned spawned
  have phase := orderly.sound.phase
  have counted : state.lifecycle.setup.counted = true := by
    cases point : state.lifecycle.setup <;> rw [point] at phase <;>
      simp [SetupPoint.phase] at phase <;> first | rfl | omega
  have live := orderly.live counted
  intro listener below
  by_contra running
  have counting : LoopPoint.live (state.loops listener) = true := by simp [LoopPoint.live, running]
  have positive := census_pos below counting
  omega

theorem shutdown {index : Nat} {deadlinePassed : Bool} (spawned : index < state.lifecycle.spawned)
    (moved : state.shutdownStep config index deadlinePassed = some next) : Orderly config next := by
  have reached := orderly.reached index
  revert moved
  fun_cases State.shutdownStep config state index deadlinePassed with
  | case1 listener point =>
    rintro ⟨⟩
    refine orderly.setShutdown ?_ orderly.complete
    unfold State.nextListener
    split <;> trivial
  | case2 point =>
    rintro ⟨⟩
    split
    · exact orderly
    · have ended := orderly.ended_of_live (by omega) (by omega)
      exact orderly.setShutdown (show Reached config state (.drain 0) from ended) orderly.complete
  | case3 listener point =>
    rintro ⟨⟩
    rw [point] at reached
    split
    · exact orderly
    · refine orderly.setShutdown ?_ orderly.complete
      unfold State.nextListener
      split
      · exact reached
      · exact ⟨reached, fun _ _ before => absurd before (Nat.not_lt_zero _)⟩
  | case4 listener sum point total =>
    rintro ⟨⟩
    rw [point] at reached
    obtain ⟨ended, idle⟩ := reached
    have upTo : total = 0 → ∀ earlier < listener + 1, state.inFlight earlier = 0 := by
      intro none earlier before
      by_cases last : earlier = listener
      · rw [last]
        omega
      · exact idle (by omega) earlier (by omega)
    refine orderly.setShutdown ?_ orderly.complete
    unfold State.nextListener
    split
    · exact ⟨ended, upTo⟩
    · split
      · exact ⟨ended, fun _ _ before => absurd before (Nat.not_lt_zero _)⟩
      · exact ⟨ended, fun earlier below => upTo (by omega) earlier (by omega)⟩
  | case5 point =>
    rintro ⟨⟩
    rw [point] at reached
    exact orderly.setShutdown (show Reached config state .latch from reached) orderly.complete
  | case6 point =>
    rintro ⟨⟩
    rw [point] at reached
    exact orderly.setShutdown (show Reached config state .storeStopped from reached)
      (fun _ => reached)
  | case7 point =>
    intro moved
    rw [point] at reached
    obtain ⟨lifecycle, completed, rfl⟩ := map_eq_some_iff.mp moved
    have same : lifecycle.setup = state.lifecycle.setup := by
      simp only [Lifecycle.step] at completed
      split at completed <;> cases completed
      rfl
    have after : Orderly config (state.setShutdown index .returned) :=
      orderly.setShutdown (show Reached config state .returned from reached) orderly.complete
    exact after.keepSetup (orderly.sound.step .complete completed) same
  | case8 => rintro ⟨⟩

theorem step {action : Action} (moved : state.step config action = some next) :
    Orderly config next := by
  cases action with
  | control label =>
    cases label with
    | complete => simp [State.step] at moved
    | setup =>
      simp only [State.step, map_eq_some_iff] at moved
      obtain ⟨lifecycle, control, rfl⟩ := moved
      exact orderly.setup control
    | call id =>
      simp only [State.step, map_eq_some_iff] at moved
      obtain ⟨lifecycle, control, rfl⟩ := moved
      have sound := orderly.sound.step _ control
      simp only [Lifecycle.step] at control
      split at control <;> cases control
      exact orderly.keepSetup sound rfl
    | stop caller =>
      simp only [State.step, map_eq_some_iff] at moved
      obtain ⟨lifecycle, control, rfl⟩ := moved
      exact orderly.keepSetup (orderly.sound.step _ control) (Lifecycle.stop_setup caller control)
  | emit listener =>
    simp only [State.step] at moved
    split at moved <;> cases moved
    exact orderly.emit
  | loop listener accepted => exact orderly.loop moved
  | serve connection => exact orderly.serve moved
  | shutdown index deadlinePassed =>
    obtain ⟨spawned, moved⟩ := ite_none_right_eq_some.mp moved
    exact orderly.shutdown spawned moved

end

theorem initial : Orderly config {} where
  sound := .initial
  within := by simp
  spawning := by simp [SetupPoint.loopCount]
  live := by simp [SetupPoint.counted]
  tracked := by simp [census]
  unused := by simp
  owner := by simp
  spawn := by simp
  reached := fun _ => trivial
  complete := by simp

end Orderly

theorem Orderly.released (orderly : Orderly config state) (quiet : Quiet config state)
    (connection : Nat) : (state.connections connection).point = .unused ∨
      (state.connections connection).point = .released := by
  by_cases below : connection < state.accepted
  · have idle := quiet.idle _ (orderly.owner connection below)
    rw [orderly.tracked] at idle
    by_contra used
    have counting : Connection.trackedBy (state.connections connection).listener
        (state.connections connection) = true := by
      cases point : (state.connections connection).point <;>
        simp [Connection.trackedBy, ConnectionPoint.tracked, point] at used ⊢
    have positive := census_pos below counting
    omega
  · exact .inl (orderly.unused connection (by omega))

theorem shutdownComplete_stable {action : Action} (moved : state.step config action = some next)
    (signalled : state.shutdownComplete = true) : next.shutdownComplete = true := by
  cases action with
  | control label =>
    have kept : (state.spawnLoops config label).shutdownComplete = true := by
      fun_cases State.spawnLoops config state label <;> exact signalled
    cases label <;> simp only [State.step, map_eq_some_iff, reduceCtorEq] at moved <;>
      obtain ⟨_, _, rfl⟩ := moved <;> exact kept
  | emit listener =>
    simp only [State.step] at moved
    split at moved <;> cases moved
    exact signalled
  | loop listener accepted =>
    simp only [State.step, State.loopStep] at moved
    split at moved <;> cases moved <;> first | exact signalled | split <;> exact signalled
  | serve connection =>
    simp only [State.step, State.serveStep] at moved
    split at moved <;> cases moved <;> exact signalled
  | shutdown index deadlinePassed =>
    obtain ⟨-, moved⟩ := ite_none_right_eq_some.mp moved
    revert moved
    fun_cases State.shutdownStep config state index deadlinePassed
    case case7 =>
      intro moved
      obtain ⟨_, _, rfl⟩ := map_eq_some_iff.mp moved
      exact signalled
    all_goals rintro ⟨⟩
    all_goals first | rfl | exact signalled | (split <;> exact signalled)

theorem reachable_orderly (reached : (system config).Reachable state) : Orderly config state := by
  refine reached.invariant ?_ ?_
  · intro start initial
    rw [show start = {} from initial]
    exact .initial
  · intro _ _ _ _ orderly _ moved
    exact orderly.step moved

/-- When the shutdown is signalled, every accept loop has ended and every accepted connection has
been served and released; no serve coroutine is spawned or running later. -/
theorem graceful_shutdown_complete {config : Config} {state : State}
    (reached : (system config).Reachable state) (signalled : state.shutdownComplete = true) :
    (∀ listener < config.listeners, state.loops listener = .completed) ∧
    ∀ later, (system config).Leads (fun _ _ => True) state later → ∀ connection,
      (later.connections connection).point = .unused ∨
        (later.connections connection).point = .released := by
  refine ⟨((reachable_orderly reached).complete signalled).ended, ?_⟩
  intro later run connection
  have orderly := reachable_orderly (reached.leads run)
  have still : later.shutdownComplete = true :=
    run.preserves signalled (fun _ _ _ before _ moved => shutdownComplete_stable moved before)
  exact orderly.released (orderly.complete still) connection

/-- A connection is accepted while the listener stops; the shutdown waits for it. -/
theorem graceful_shutdown_complete_late_accept : ∃ state, (system oneListener).Reachable state ∧
    state.shutdownComplete = true ∧ state.accepted = 1 ∧
    (state.connections 0).point = .released ∧
    ∀ listener < oneListener.listeners, state.loops listener = .completed := by
  refine (system oneListener).exists_reachable rfl
    [.control .setup, .control .setup, .control .setup, .control .setup, .control .setup,
      .control .setup, .loop 0 .socket, .control (.call 0), .control (.stop (.user 0)),
      .control (.stop (.user 0)), .shutdown 0 false, .emit 0, .loop 0 .socket, .loop 0 .socket,
      .loop 0 .socket, .serve 0, .loop 0 .socket, .loop 0 .socket, .loop 0 .socket,
      .shutdown 0 false, .shutdown 0 true, .shutdown 0 false, .serve 0, .serve 0,
      .shutdown 0 false, .shutdown 0 false, .shutdown 0 false] ⟨_, rfl, fun reached => ?_⟩
  exact ⟨rfl, rfl, rfl, (graceful_shutdown_complete reached rfl).1⟩

end Menagerie.Albatross.Server
