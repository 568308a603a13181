import Menagerie.Starling.Pool.Program

/-!
# The life of one waiter node

A node is touched by its owner (the `acquire` call or the async initiation that constructed
it), by whoever selects it from the queue, by the timer and cancellation callbacks, by the
posted completion and by the shutdown of its execution context. `Profile` is a node as all of
them see it, `Turn` what one step of one thread can do to it, and `Fits` says in which phase
of its life it is: at every moment at most one party may bring about its completion.
-/

namespace Menagerie.Starling.Pool

open Function

/-- A waiter node as the pool, the registries and the threads see it. -/
structure Profile where
  node : WaiterNode
  born : Bool
  linked : Nat
  enrolled : Nat → Nat
  stopping : Nat → Bool
  owner : Nat → Option Stage
  notifies : Nat → Bool
  abandons : Nat → Nat
  selects : Nat → Option Rejection
  selections : Nat
  deliveries : Nat

namespace Profile

/-- Occurrences in the registry of its own context. -/
def listed (p : Profile) : Nat := p.enrolled p.node.context

/-- The node's own context is shutting down. -/
def stopped (p : Profile) : Bool := p.stopping p.node.context

/-- Leave `queued`. -/
def select (p : Profile) (state : WaiterState) : Profile :=
  { p with node := { p.node with state }, selections := p.selections + 1 }

/-- End the call, with a `Borrowed` if a slot is delivered. -/
def finish (p : Profile) (delivered : Bool) : Profile :=
  { p with
    node := { p.node with pending := false, cancellable := false, timerArmed := false }
    deliveries := p.deliveries + delivered.toNat }

/-- Leave the registry. -/
def unlist (p : Profile) : Profile :=
  { p with enrolled := Function.update p.enrolled p.node.context (p.listed - 1) }

/-- The thread reaches a stage, or ceases to be the owner. -/
def own (p : Profile) (thread : Nat) (stage : Option Stage) : Profile :=
  { p with owner := Function.update p.owner thread stage }

/-- The thread starts or ends notifying the node. -/
def notify (p : Profile) (thread : Nat) (now : Bool) : Profile :=
  { p with notifies := Function.update p.notifies thread now }

/-- The thread starts or ends a callback of the node. -/
def callback (p : Profile) (thread : Nat) (now : Option Rejection) : Profile :=
  { p with selects := Function.update p.selects thread now }

/-- A context shuts down, and the thread takes its registry. -/
def stop (p : Profile) (thread context : Nat) : Profile :=
  { p with
    enrolled := Function.update p.enrolled context 0
    stopping := Function.update p.stopping context true
    abandons := Function.update p.abandons thread (p.enrolled context) }

end Profile

/-- What one step of one thread can do to a node. -/
inductive Turn (p : Profile) (thread : Nat) : Profile → Prop
  | allocate (node : WaiterNode) (unborn : p.born = false) (waiting : node.state = .queued)
      (pending : node.pending = true) (posted : node.posted = 0)
      (unarmed : node.timerArmed = false)
      (cancellable : node.cancellable = true → node.kind = .async)
      (running : node.kind = .async → p.stopping node.context = false) (stage : Stage)
      (staged : stage = match node.kind with
        | .sync => .fresh .sync
        | .async => .allocated .async) :
      Turn p thread ({ p with node, born := true }.own thread (some stage))
  | enroll (kind : WaiterKind) (owned : p.owner thread = some (.allocated kind)) :
      Turn p thread ({ p with
        enrolled := Function.update p.enrolled p.node.context (p.listed + 1) }.own thread
          (some (.fresh kind)))
  | enter (kind : WaiterKind) (owned : p.owner thread = some (.fresh kind))
      (waiting : kind = .async → p.node.state ≠ .cancelled) :
      Turn p thread (p.own thread (some (.entering kind)))
  | observe (owned : p.owner thread = some (.fresh .async))
      (cancelled : p.node.state = .cancelled) : Turn p thread (p.own thread (some .settled))
  | settle (state : WaiterState) (slot : Nat) (chosen : state ≠ .queued)
      (owned : p.owner thread = some (.entering .async) ∨
        p.owner thread = some (.fresh .async) ∧ p.node.state ≠ .cancelled) :
      Turn p thread (({ p with node := { p.node with assignedSlot := slot } }.select state).own
        thread (some .settled))
  | linkSync (owned : p.owner thread = some (.entering .sync)) :
      Turn p thread ({ p with
        node := { p.node with timerArmed := false }, linked := p.linked + 1 }.own thread
          (some .parked))
  | linkAsync (armed : Bool) (owned : p.owner thread = some (.entering .async)) :
      Turn p thread ({ p with
        node := { p.node with timerArmed := armed }, linked := p.linked + 1 }.own thread none)
  | linkFailed (owned : p.owner thread = some (.entering .async)) :
      Turn p thread ((p.select .cancelled).own thread (some .failed))
  | expire (owned : p.owner thread = some .parked) (waiting : p.node.state = .queued) :
      Turn p thread (({ p with linked := p.linked - 1 }.select .timeout).own thread
        (some .resumed))
  | wake (owned : p.owner thread = some .parked) (chosen : p.node.state ≠ .queued) :
      Turn p thread (p.own thread (some .resumed))
  | withdraw (abandoned : p.abandons thread ≠ 0) (linked : p.linked ≠ 0) :
      Turn p thread ({ p with linked := p.linked - 1 }.select .cancelled)
  | choose (state : WaiterState) (slot : Nat) (notifier : Option Nat) (linked : p.linked ≠ 0)
      (chosen : state ≠ .queued) :
      Turn p thread (({ p with
        node := { p.node with assignedSlot := slot, notifier }
        linked := p.linked - 1 }.select state).notify thread true |>.callback thread none)
  | reject (rejection : Rejection) (selected : p.selects thread = some rejection)
      (waiting : p.node.state = .queued) (unlinked : p.linked = 0)
      (unlocked : ∀ other kind, p.owner other ≠ some (.entering kind)) :
      Turn p thread ((p.select rejection.state).callback thread none)
  | unpin (sync : p.node.kind = .sync) :
      Turn p thread ({ p with node := { p.node with notifier := none } }.notify thread false)
  | postOwn (owned : p.owner thread = some .settled) :
      Turn p thread ({ p with
        node := { p.node with posted := p.node.posted + 1 } }.own thread none)
  | postChosen (chosen : p.notifies thread = true) (async : p.node.kind = .async)
      (running : p.stopped = false) :
      Turn p thread ({ p with
        node := { p.node with posted := p.node.posted + 1 } }.notify thread false)
  | dropOwn (owned : p.owner thread = some .settled) (stopped : p.stopped = true) :
      Turn p thread (p.own thread none)
  | dropChosen (async : p.node.kind = .async) (stopped : p.stopped = true) :
      Turn p thread (p.notify thread false)
  | finishSync (stage : Stage) (delivered : Bool) (owned : p.owner thread = some stage)
      (last : delivered = false ∧ (stage = .fresh .sync ∨ stage = .entering .sync) ∨
        stage = .resumed ∧ delivered = decide (p.node.state = .assigned)) :
      Turn p thread ((p.finish delivered).own thread none)
  | finishAsync (stage : Stage) (delivered : Bool) (owned : p.owner thread = some stage)
      (last : delivered = false ∧ stage = .failed ∨
        stage = .settled ∧ delivered = decide (p.node.state = .assigned)) :
      Turn p thread ((p.unlist.finish delivered).own thread none)
  | finishPosted (delivered : Bool) (posted : p.node.posted ≠ 0) (running : p.stopped = false)
      (outcome : delivered = decide (p.node.state = .assigned)) :
      Turn p thread { p.unlist.finish delivered with
        node := { (p.finish delivered).node with posted := p.node.posted - 1 } }
  | finishAbandoned (delivered : Bool) (abandoned : p.abandons thread ≠ 0)
      (chosen : p.node.state ≠ .queued) (outcome : delivered = decide (p.node.state = .assigned)) :
      Turn p thread { p.finish delivered with
        abandons := Function.update p.abandons thread (p.abandons thread - 1) }
  | disarm (armed : p.node.timerArmed = true) :
      Turn p thread ({ p with
        node := { p.node with timerArmed := false } }.callback thread (some .timeout))
  | cancel (cancellable : p.node.cancellable = true) :
      Turn p thread (p.callback thread (some .cancelled))
  | selected : Turn p thread (p.callback thread none)
  | stop (context : Nat) (quiet : p.abandons thread = 0)
      (unowned : p.node.kind = .async → p.node.context = context → ∀ other, p.owner other = none) :
      Turn p thread (p.stop thread context)

namespace Profile

/-- The node is in no registry. -/
def Unlisted (p : Profile) : Prop := p.enrolled = fun _ => 0

/-- The node is in the registry of its context, once, and in no other. -/
def Listed (p : Profile) : Prop := p.enrolled = Function.update (fun _ => 0) p.node.context 1

/-- What the owner relies on at each stage of a sync call. -/
def SyncStage (p : Profile) : Stage → Prop
  | .fresh .sync | .entering .sync => p.linked = 0 ∧ p.node.state = .queued
  | .parked => p.linked = 1 ∧ p.node.state = .queued ∨ p.linked = 0 ∧ p.node.state ≠ .queued
  | .resumed => p.linked = 0 ∧ p.node.state ≠ .queued
  | _ => False

/-- What the owner relies on at each stage of an async initiation. -/
def AsyncStage (p : Profile) : Stage → Prop
  | .allocated .async => p.Unlisted ∧ (p.node.state = .queued ∨ p.node.state = .cancelled)
  | .fresh .async => p.Listed ∧ (p.node.state = .queued ∨ p.node.state = .cancelled)
  | .entering .async => p.Listed ∧ p.node.state = .queued
  | .failed => p.Listed ∧ p.node.state = .cancelled
  | .settled => p.Listed ∧ p.node.state ≠ .queued
  | _ => False

/-- Where a node is in its life. -/
inductive Phase
  | unborn
  | waits (thread : Nat) (stage : Stage)
  | starts (thread : Nat) (stage : Stage)
  | queued
  | chosen (thread : Nat)
  | posted
  | ended
  | abandoned (thread : Nat)

/-- No thread owns the node. -/
def Unowned (p : Profile) : Prop := p.owner = fun _ => none

/-- No thread notifies the node. -/
def Unnotified (p : Profile) : Prop := p.notifies = fun _ => false

/-- No thread abandons the node. -/
def Kept (p : Profile) : Prop := p.abandons = fun _ => 0

/-- Only the thread owns the node. -/
def OwnedBy (p : Profile) (thread : Nat) (stage : Stage) : Prop :=
  p.owner = Function.update (fun _ => none) thread (some stage)

/-- An async call is under way and its context has not stopped. -/
def Running (p : Profile) : Prop :=
  p.node.kind = .async ∧ p.node.pending = true ∧ p.stopped = false ∧ p.Kept

/-- What a phase says to all who see the node. -/
def Fits (p : Profile) : Phase → Prop
  | .unborn => p.born = false ∧ p.node = {} ∧ p.linked = 0 ∧ p.Unlisted ∧ p.Unowned ∧
      p.Unnotified ∧ p.Kept ∧ p.selects = fun _ => none
  | .waits thread stage => p.born = true ∧ p.node.kind = .sync ∧ p.node.pending = true ∧
      p.node.posted = 0 ∧ p.SyncStage stage ∧ p.Unlisted ∧ p.Kept ∧ p.OwnedBy thread stage
  | .starts thread stage => p.born = true ∧ p.Running ∧ p.linked = 0 ∧ p.node.posted = 0 ∧
      p.Unnotified ∧ p.AsyncStage stage ∧ p.OwnedBy thread stage
  | .queued => p.born = true ∧ p.Running ∧ p.linked = 1 ∧ p.node.posted = 0 ∧ p.Unnotified ∧
      p.Listed ∧ p.node.state = .queued ∧ p.Unowned
  | .chosen thread => p.born = true ∧ p.Running ∧ p.linked = 0 ∧ p.node.posted = 0 ∧
      p.notifies = Function.update (fun _ => false) thread true ∧ p.Listed ∧
      p.node.state ≠ .queued ∧ p.Unowned
  | .posted => p.born = true ∧ p.Running ∧ p.linked = 0 ∧ p.node.posted = 1 ∧ p.Unnotified ∧
      p.Listed ∧ p.node.state ≠ .queued ∧ p.Unowned
  | .ended => p.born = true ∧ p.node.pending = false ∧ p.linked = 0 ∧ p.Unlisted ∧ p.Unowned ∧
      p.Kept ∧ (p.node.kind = .async ∧ p.stopped = true ∨
        p.node.posted = 0 ∧ (p.node.kind = .async → p.Unnotified))
  | .abandoned thread => p.born = true ∧ p.node.kind = .async ∧ p.node.pending = true ∧
      p.stopped = true ∧ p.Unlisted ∧ p.Unowned ∧
      p.abandons = Function.update (fun _ => 0) thread 1 ∧
      (p.linked = 1 ∧ p.node.state = .queued ∨ p.linked = 0 ∧ p.node.state ≠ .queued)

/-- Only async nodes have a timer or a cancellation slot; with a timer they were linked. -/
structure Callbacks (p : Profile) : Prop where
  selecting : ∀ thread rejection, p.selects thread = some rejection → p.node.kind = .async ∧
    (rejection ≠ .cancelled → p.node.state = .queued → p.linked = 1)
  cancellable : p.node.cancellable = true → p.node.kind = .async
  armed : p.node.timerArmed = true → p.node.kind = .async ∧
    (p.node.state = .queued → p.linked = 1)

/-- A node leaves `queued` once, and its slot becomes one `Borrowed`. -/
structure Counted (p : Profile) : Prop where
  selections : p.selections = if p.node.state = .queued then 0 else 1
  deliveries : p.deliveries = if p.node.pending = false ∧ p.node.state = .assigned then 1 else 0

/-- The invariant of a node. -/
structure Sound (p : Profile) : Prop where
  fits : ∃ phase, p.Fits phase
  callbacks : p.Callbacks
  counted : p.Counted

section Inversion

variable {p : Profile} {phase : Phase} {thread : Nat}

section

variable (fits : p.Fits phase)

include fits

theorem Fits.of_owner {stage : Stage} (owned : p.owner thread = some stage) :
    phase = .waits thread stage ∨ phase = .starts thread stage := by
  cases phase <;> simp only [Fits, Unowned, OwnedBy] at fits <;>
    simp_all [update_apply]

/-- A linked node is parked, queued or about to be unlinked. -/
theorem Fits.of_linked (linked : p.linked ≠ 0) :
    (∃ owner, phase = .waits owner .parked) ∨ phase = .queued ∨
      ∃ owner, phase = .abandoned owner := by
  cases phase with
  | waits owner stage =>
    rcases stage with kind | kind | kind | _ | _ | _ | _ <;> try cases kind
    all_goals simp_all [Fits, SyncStage]
  | _ => simp_all [Fits]

theorem Fits.of_abandons (abandoned : p.abandons thread ≠ 0) :
    phase = .abandoned thread := by
  cases phase with
  | abandoned owner =>
    by_contra differs
    simp_all [Fits, update_apply]
  | _ => simp_all [Fits, Kept, Running]

theorem Fits.linked (linked : p.linked ≠ 0) :
    p.linked = 1 ∧ p.node.pending = true ∧ p.node.state = .queued := by
  rcases fits.of_linked linked with ⟨owner, rfl⟩ | rfl | ⟨owner, rfl⟩
  · obtain ⟨-, -, pending, -, staged, -⟩ := fits
    exact staged.elim (fun here => ⟨here.1, pending, here.2⟩) (fun gone => absurd gone.1 linked)
  · obtain ⟨-, running, once, -, -, -, waiting, -⟩ := fits
    exact ⟨once, running.2.1, waiting⟩
  · obtain ⟨-, -, pending, -, -, -, -, place⟩ := fits
    exact place.elim (fun here => ⟨here.1, pending, here.2⟩) (fun gone => absurd gone.1 linked)

theorem Fits.waits_of {stage : Stage} (owned : p.owner thread = some stage)
    (never : ¬ p.AsyncStage stage) : p.Fits (.waits thread stage) := by
  rcases fits.of_owner owned with rfl | rfl
  · exact fits
  · exact absurd fits.2.2.2.2.2.1 never

theorem Fits.starts_of {stage : Stage} (owned : p.owner thread = some stage)
    (never : ¬ p.SyncStage stage) : p.Fits (.starts thread stage) := by
  rcases fits.of_owner owned with rfl | rfl
  · exact absurd fits.2.2.2.2.1 never
  · exact fits

theorem Fits.pending_of_owner {stage : Stage} (owned : p.owner thread = some stage) :
    p.node.pending = true := by
  rcases fits.of_owner owned with rfl | rfl
  · exact fits.2.2.1
  · exact fits.2.1.2.1

/-- In the registration section the node is queued and not linked. -/
theorem Fits.entering {kind : WaiterKind} (owned : p.owner thread = some (.entering kind)) :
    p.node.kind = kind ∧ p.linked = 0 ∧ p.node.state = .queued := by
  cases kind with
  | sync =>
    obtain ⟨-, sync, -, -, staged, -⟩ := fits.waits_of owned id
    exact ⟨sync, staged⟩
  | async =>
    obtain ⟨-, running, unlinked, -, -, staged, -⟩ := fits.starts_of owned id
    exact ⟨running.1, unlinked, staged.2⟩

theorem Fits.fresh_async (owned : p.owner thread = some (.fresh .async)) :
    p.node.state = .queued ∨ p.node.state = .cancelled :=
  (fits.starts_of owned id).2.2.2.2.2.1.2

theorem Fits.fresh_sync (owned : p.owner thread = some (.fresh .sync)) :
    p.node.state = .queued :=
  (fits.waits_of owned id).2.2.2.2.1.2

/-- A node whose timer could not be armed is cancelled. -/
theorem Fits.failed (owned : p.owner thread = some .failed) :
    p.node.state = .cancelled :=
  (fits.starts_of owned id).2.2.2.2.2.1.2

end

end Inversion

theorem OwnedBy.own {p q : Profile} {thread : Nat} {stage next : Stage}
    (owned : p.OwnedBy thread stage) (same : q.owner = p.owner) :
    (q.own thread (some next)).OwnedBy thread next := by
  simp_all [OwnedBy, Profile.own]

theorem OwnedBy.disown {p q : Profile} {thread : Nat} {stage : Stage}
    (owned : p.OwnedBy thread stage) (same : q.owner = p.owner) :
    (q.own thread none).Unowned := by
  simp_all [OwnedBy, Unowned, Profile.own]

theorem Listed.unlist {p : Profile} (listed : p.Listed) : p.unlist.Unlisted := by
  rw [Listed] at listed
  simp [Unlisted, Profile.unlist, Profile.listed, listed]

section

variable {p : Profile} {phase : Phase} (fits : p.Fits phase)

include fits

theorem Fits.stop_elsewhere {context : Nat} (absent : p.enrolled context = 0)
    (unowned : p.node.kind = .async → p.node.context = context → ∀ other, p.owner other = none) :
    { p with stopping := update p.stopping context true }.Fits phase := by
  have still : p.stopped = true → update p.stopping context true p.node.context = true := by
    intro stopped
    by_cases same : p.node.context = context
    · simp [same]
    · simpa [same, Profile.stopped] using stopped
  have running : p.Running → p.Listed ∨ p.node.context ≠ context →
      { p with stopping := update p.stopping context true }.Running := by
    rintro ⟨async, pending, running, kept⟩ elsewhere
    refine ⟨async, pending, ?_, kept⟩
    have differs : p.node.context ≠ context := by
      rcases elsewhere with listed | differs
      · rintro rfl
        simp [Listed] at listed
        simp [listed] at absent
      · exact differs
    simpa [stopped, differs] using running
  cases phase with
  | starts owner stage =>
    obtain ⟨born, going, rest⟩ := fits
    refine ⟨born, running going (.inr ?_), rest⟩
    intro same
    have owned := rest.2.2.2.2
    have nobody := unowned going.1 same owner
    simp [OwnedBy] at owned
    simp [owned] at nobody
  | queued | posted =>
    obtain ⟨born, going, linked, posted, unnotified, listed, rest⟩ := fits
    exact ⟨born, running going (.inl listed), linked, posted, unnotified, listed, rest⟩
  | chosen owner =>
    obtain ⟨born, going, linked, posted, notifies, listed, rest⟩ := fits
    exact ⟨born, running going (.inl listed), linked, posted, notifies, listed, rest⟩
  | ended =>
    obtain ⟨born, pending, linked, unlisted, nobody, kept, rest⟩ := fits
    exact ⟨born, pending, linked, unlisted, nobody, kept,
      rest.imp_left (fun late => ⟨late.1, still late.2⟩)⟩
  | abandoned owner =>
    obtain ⟨born, async, pending, stopped, rest⟩ := fits
    exact ⟨born, async, pending, still stopped, rest⟩
  | _ => exact fits

theorem Fits.stop_here {context thread : Nat} (present : p.enrolled context ≠ 0)
    (unowned : p.node.kind = .async → p.node.context = context → ∀ other, p.owner other = none) :
    (p.stop thread context).Fits (.abandoned thread) := by
  have located : p.Listed → context = p.node.context ∧ p.enrolled context = 1 := by
    intro listed
    rw [Listed] at listed
    by_contra other
    simp_all [update_apply]
  have result : p.born = true → p.Running → p.Listed →
      (p.linked = 1 ∧ p.node.state = .queued ∨ p.linked = 0 ∧ p.node.state ≠ .queued) →
      (p.stop thread context).Fits (.abandoned thread) := by
    intro born running listed place
    obtain ⟨rfl, once⟩ := located listed
    refine ⟨born, running.1, running.2.1, ?_, ?_, ?_, ?_, place⟩
    · simp [stopped, stop]
    · simp_all [Listed, Unlisted, stop]
    · exact funext (unowned running.1 rfl)
    · simp_all [Running, Kept, stop]
  cases phase with
  | starts owner stage =>
    obtain ⟨-, going, -, -, -, staged, owned⟩ := fits
    have listed : p.Listed := by
      rcases stage with kind | kind | kind | _ | _ | _ | _ <;> try cases kind
      all_goals simp_all [AsyncStage, Unlisted]
    have nobody := unowned going.1 (located listed).1.symm owner
    simp_all [OwnedBy]
  | queued =>
    obtain ⟨born, going, linked, posted, unnotified, listed, waiting, -⟩ := fits
    exact result born going listed (.inl ⟨linked, waiting⟩)
  | chosen owner =>
    obtain ⟨born, going, linked, posted, notifies, listed, chosen, -⟩ := fits
    exact result born going listed (.inr ⟨linked, chosen⟩)
  | posted =>
    obtain ⟨born, going, linked, posted, unnotified, listed, chosen, -⟩ := fits
    exact result born going listed (.inr ⟨linked, chosen⟩)
  | _ => simp_all [Fits, Unlisted]

theorem Fits.turn {q : Profile} {thread : Nat} (callbacks : p.Callbacks) (turn : Turn p thread q) :
    ∃ phase, q.Fits phase := by
  cases turn with
  | allocate node unborn waiting pending posted unarmed cancellable running stage staged =>
    have start : phase = .unborn := by
      cases phase <;> simp_all [Fits]
    subst start
    obtain ⟨-, -, linked, unlisted, unowned, unnotified, kept, -⟩ := fits
    cases kind : node.kind with
    | sync =>
      refine ⟨.waits thread (.fresh .sync), rfl, kind, pending, posted, ⟨linked, waiting⟩,
        unlisted, kept, ?_⟩
      simp_all [OwnedBy, Unowned, own]
    | async =>
      refine ⟨.starts thread (.allocated .async), rfl, ⟨kind, pending, running kind, kept⟩,
        linked, posted, unnotified, ⟨unlisted, .inl waiting⟩, ?_⟩
      simp_all [OwnedBy, Unowned, own]
  | enroll kind owned =>
    obtain ⟨born, running, linked, posted, unnotified, staged, owner⟩ := fits.starts_of owned id
    cases kind with
    | sync => exact staged.elim
    | async =>
      refine ⟨.starts thread (.fresh .async), born, running, linked, posted, unnotified,
        ⟨?_, staged.2⟩, owner.own rfl⟩
      have unlisted := staged.1
      simp_all [Listed, Unlisted, own, listed]
  | enter kind owned waiting =>
    cases kind with
    | sync =>
      obtain ⟨born, sync, pending, posted, early, unlisted, kept, owner⟩ := fits.waits_of owned id
      exact ⟨.waits thread (.entering .sync), born, sync, pending, posted, early, unlisted, kept,
        owner.own rfl⟩
    | async =>
      obtain ⟨born, running, linked, posted, unnotified, ⟨listed, early⟩, owner⟩ :=
        fits.starts_of owned id
      exact ⟨.starts thread (.entering .async), born, running, linked, posted, unnotified,
        ⟨listed, early.resolve_right (waiting rfl)⟩, owner.own rfl⟩
  | observe owned cancelled =>
    obtain ⟨born, running, linked, posted, unnotified, ⟨listed, -⟩, owner⟩ :=
      fits.starts_of owned id
    exact ⟨.starts thread .settled, born, running, linked, posted, unnotified,
      ⟨listed, by simp [own, cancelled]⟩, owner.own rfl⟩
  | settle state slot chosen owned =>
    have owned : ∃ stage, p.owner thread = some stage ∧
        (stage = .entering .async ∨ stage = .fresh .async) := by
      rcases owned with owned | ⟨owned, -⟩
      · exact ⟨_, owned, .inl rfl⟩
      · exact ⟨_, owned, .inr rfl⟩
    obtain ⟨stage, owned, which⟩ := owned
    obtain ⟨born, running, linked, posted, unnotified, staged, owner⟩ :=
      fits.starts_of owned (by rcases which with rfl | rfl <;> exact id)
    have listed : p.Listed := by
      rcases which with rfl | rfl <;> exact staged.1
    exact ⟨.starts thread .settled, born, running, linked, posted, unnotified, ⟨listed, chosen⟩,
      owner.own rfl⟩
  | linkSync owned =>
    obtain ⟨born, sync, pending, posted, ⟨unlinked, waiting⟩, unlisted, kept, owner⟩ :=
      fits.waits_of owned id
    exact ⟨.waits thread .parked, born, sync, pending, posted,
      .inl ⟨by simp [own, unlinked], waiting⟩, unlisted, kept, owner.own rfl⟩
  | linkAsync armed owned =>
    obtain ⟨born, running, unlinked, posted, unnotified, ⟨listed, waiting⟩, owner⟩ :=
      fits.starts_of owned id
    exact ⟨.queued, born, running, by simp [own, unlinked], posted, unnotified, listed, waiting,
      owner.disown rfl⟩
  | linkFailed owned =>
    obtain ⟨born, running, linked, posted, unnotified, ⟨listed, -⟩, owner⟩ :=
      fits.starts_of owned id
    exact ⟨.starts thread .failed, born, running, linked, posted, unnotified, ⟨listed, rfl⟩,
      owner.own rfl⟩
  | expire owned waiting =>
    obtain ⟨born, sync, pending, posted, staged, unlisted, kept, owner⟩ := fits.waits_of owned id
    have linked : p.linked = 1 := by
      rcases staged with ⟨linked, -⟩ | ⟨-, left⟩
      · exact linked
      · exact absurd waiting left
    exact ⟨.waits thread .resumed, born, sync, pending, posted,
      ⟨by simp [own, select, linked], by simp [own, select]⟩, unlisted, kept, owner.own rfl⟩
  | wake owned chosen =>
    obtain ⟨born, sync, pending, posted, staged, unlisted, kept, owner⟩ := fits.waits_of owned id
    have unlinked : p.linked = 0 := by
      rcases staged with ⟨-, waiting⟩ | ⟨unlinked, -⟩
      · exact absurd waiting chosen
      · exact unlinked
    exact ⟨.waits thread .resumed, born, sync, pending, posted, ⟨unlinked, chosen⟩, unlisted, kept,
      owner.own rfl⟩
  | withdraw abandoned linked =>
    obtain rfl := fits.of_abandons abandoned
    obtain ⟨born, async, pending, stopped, unlisted, unowned, abandons, place⟩ := fits
    refine ⟨.abandoned thread, born, async, pending, stopped, unlisted, unowned, abandons,
      .inr ⟨?_, ?_⟩⟩
    · have : p.linked = 1 := by omega
      simp [select, this]
    · simp [select]
  | choose state slot notifier linked chosen =>
    rcases fits.of_linked linked with ⟨owner, rfl⟩ | rfl | ⟨owner, rfl⟩
    · obtain ⟨born, sync, pending, posted, staged, unlisted, kept, owned⟩ := fits
      refine ⟨.waits owner .parked, born, sync, pending, posted, .inr ⟨?_, chosen⟩, unlisted,
        kept, owned⟩
      have : p.linked = 1 := staged.elim And.left (fun other => absurd other.1 linked)
      simp [notify, select, callback, this]
    · obtain ⟨born, running, once, posted, unnotified, listed, -, unowned⟩ := fits
      refine ⟨.chosen thread, born, running, ?_, posted, ?_, listed, chosen, unowned⟩
      · simp [notify, select, callback, once]
      · simp_all [Unnotified, notify, select, callback]
    · obtain ⟨born, async, pending, stopped, unlisted, unowned, abandons, place⟩ := fits
      refine ⟨.abandoned owner, born, async, pending, stopped, unlisted, unowned, abandons,
        .inr ⟨?_, chosen⟩⟩
      have : p.linked = 1 := place.elim And.left (fun other => absurd other.1 linked)
      simp [notify, select, callback, this]
  | reject rejection selected waiting unlinked unlocked =>
    obtain ⟨async, early⟩ := callbacks.selecting thread rejection selected
    have cancelled : rejection = .cancelled := by
      by_contra other
      have := early other waiting
      omega
    subst cancelled
    cases phase with
    | starts owner stage =>
      obtain ⟨born, running, linked, posted, unnotified, staged, owned⟩ := fits
      refine ⟨.starts owner stage, born, running, linked, posted, unnotified, ?_, owned⟩
      have held : p.owner owner = some stage := by
        rw [OwnedBy] at owned
        simp [owned]
      rcases stage with kind | kind | kind | _ | _ | _ | _ <;> try cases kind
      all_goals simp_all [AsyncStage]
      · exact ⟨staged, .inr rfl⟩
      · exact ⟨staged, .inr rfl⟩
    | ended => exact ⟨.ended, fits⟩
    | _ => simp_all [Fits, Running]
  | unpin sync =>
    cases phase with
    | unborn =>
      refine ⟨.unborn, ?_⟩
      simp_all [Fits, Unnotified, notify, Unlisted, Unowned, Kept]
    | waits owner stage => exact ⟨.waits owner stage, fits⟩
    | ended =>
      obtain ⟨born, pending, linked, unlisted, unowned, kept, rest⟩ := fits
      exact ⟨.ended, born, pending, linked, unlisted, unowned, kept,
        .inr ⟨(rest.resolve_left (by simp [sync])).1, by simp [notify, sync]⟩⟩
    | _ => simp_all [Fits, Running]
  | postOwn owned =>
    obtain ⟨born, running, linked, posted, unnotified, ⟨listed, chosen⟩, owner⟩ :=
      fits.starts_of owned id
    exact ⟨.posted, born, running, linked, by simp [own, posted], unnotified, listed, chosen,
      owner.disown rfl⟩
  | postChosen chosen async running =>
    cases phase with
    | chosen owner =>
      obtain ⟨born, going, linked, posted, notifies, listed, left, unowned⟩ := fits
      have same : thread = owner := by
        by_contra differs
        simp_all
      subst same
      refine ⟨.posted, born, going, linked, ?_, ?_, listed, left, unowned⟩
      · simp [notify, posted]
      · simp_all [Unnotified, notify]
    | _ => simp_all [Fits, Unnotified]
  | dropOwn owned stopped =>
    have running := (fits.starts_of owned id).2.1
    simp_all [Running]
  | dropChosen async stopped =>
    cases phase with
    | ended =>
      obtain ⟨born, pending, linked, unlisted, unowned, kept, -⟩ := fits
      exact ⟨.ended, born, pending, linked, unlisted, unowned, kept, .inl ⟨async, stopped⟩⟩
    | abandoned owner => exact ⟨.abandoned owner, fits⟩
    | _ => simp_all [Fits, Running]
  | finishSync stage delivered owned last =>
    obtain ⟨born, sync, pending, posted, staged, unlisted, kept, owner⟩ :=
      fits.waits_of owned (by rcases last with ⟨-, rfl | rfl⟩ | ⟨rfl, -⟩ <;> exact id)
    have unlinked : p.linked = 0 := by
      rcases last with ⟨-, rfl | rfl⟩ | ⟨rfl, -⟩ <;> exact staged.1
    exact ⟨.ended, born, rfl, unlinked, unlisted, owner.disown rfl, kept,
      .inr ⟨posted, by simp [own, finish, sync]⟩⟩
  | finishAsync stage delivered owned last =>
    obtain ⟨born, running, linked, posted, unnotified, staged, owner⟩ :=
      fits.starts_of owned (by rcases last with ⟨-, rfl⟩ | ⟨rfl, -⟩ <;> exact id)
    have listed : p.Listed := by
      rcases last with ⟨-, rfl⟩ | ⟨rfl, -⟩ <;> exact staged.1
    exact ⟨.ended, born, rfl, linked, listed.unlist, owner.disown rfl, running.2.2.2,
      .inr ⟨posted, fun _ => unnotified⟩⟩
  | finishPosted delivered posted running outcome =>
    cases phase with
    | posted =>
      obtain ⟨born, going, linked, once, unnotified, listed, -, unowned⟩ := fits
      refine ⟨.ended, born, rfl, linked, listed.unlist, unowned, going.2.2.2,
        .inr ⟨?_, fun _ => unnotified⟩⟩
      simp [once]
    | _ => simp_all [Fits]
  | finishAbandoned delivered abandoned chosen outcome =>
    obtain rfl := fits.of_abandons abandoned
    obtain ⟨born, async, pending, stopped, unlisted, unowned, abandons, place⟩ := fits
    refine ⟨.ended, born, rfl, ?_, unlisted, unowned, ?_, .inl ⟨async, stopped⟩⟩
    · exact (place.resolve_left (fun other => chosen other.2)).1
    · simp_all [Kept]
  | disarm armed | cancel cancellable =>
    refine ⟨phase, ?_⟩
    cases phase with
    | unborn => simp_all [Fits]
    | _ => exact fits
  | selected =>
    refine ⟨phase, ?_⟩
    cases phase with
    | unborn => simp_all [Fits, callback, Unlisted, Unowned, Kept, Unnotified]
    | _ => exact fits
  | stop context quiet unowned =>
    by_cases absent : p.enrolled context = 0
    · have same : update p.enrolled context 0 = p.enrolled := by
        rw [← absent, update_eq_self]
      have kept : update p.abandons thread (p.enrolled context) = p.abandons := by
        rw [absent, ← quiet, update_eq_self]
      rw [Profile.stop, same, kept]
      exact ⟨phase, fits.stop_elsewhere absent unowned⟩
    · exact ⟨.abandoned thread, fits.stop_here absent unowned⟩

end

theorem Callbacks.mono {p q : Profile} (callbacks : p.Callbacks)
    (kind : q.node.kind = p.node.kind)
    (state : q.node.state = .queued → p.node.state = .queued ∧ (p.linked = 1 → q.linked = 1))
    (cancellable : q.node.cancellable = true → p.node.cancellable = true)
    (armed : q.node.timerArmed = true → p.node.timerArmed = true ∨
      p.node.kind = .async ∧ q.linked = 1)
    (selects : ∀ thread rejection, q.selects thread = some rejection →
      p.selects thread = some rejection ∨ p.node.kind = .async ∧
        (rejection = .cancelled ∨ p.node.timerArmed = true)) : q.Callbacks where
  selecting thread rejection selected := by
    rw [kind]
    rcases selects thread rejection selected with before | ⟨async, cause⟩
    · obtain ⟨async, early⟩ := callbacks.selecting thread rejection before
      exact ⟨async, fun other waiting =>
        (state waiting).2 (early other (state waiting).1)⟩
    · refine ⟨async, fun other waiting => ?_⟩
      have linked := (callbacks.armed (cause.resolve_left other)).2 (state waiting).1
      exact (state waiting).2 linked
  cancellable flagged := by
    rw [kind]
    exact callbacks.cancellable (cancellable flagged)
  armed flagged := by
    rw [kind]
    rcases armed flagged with before | ⟨async, linked⟩
    · obtain ⟨async, linked⟩ := callbacks.armed before
      exact ⟨async, fun waiting => (state waiting).2 (linked (state waiting).1)⟩
    · exact ⟨async, fun _ => linked⟩

theorem selects_of_ended {p : Profile} {thread other : Nat} {rejection : Rejection}
    (selected : (p.callback thread none).selects other = some rejection) :
    p.selects other = some rejection := by
  by_cases same : other = thread
  · simp [callback, same] at selected
  · simpa [callback, same] using selected

section

variable {p q : Profile}

theorem Callbacks.turn {phase : Phase} {thread : Nat} (callbacks : p.Callbacks)
    (fits : p.Fits phase) (turn : Turn p thread q) : q.Callbacks := by
  cases turn with
  | allocate node unborn waiting pending posted unarmed cancellable running stage staged =>
    have start : phase = .unborn := by
      cases phase <;> simp_all [Fits]
    subst start
    obtain ⟨-, -, -, -, -, -, -, unselected⟩ := fits
    exact ⟨fun other rejection selected => by simp_all [own], cancellable,
      fun armed => by simp_all [own]⟩
  | linkSync owned =>
    obtain ⟨-, unlinked, -⟩ := fits.entering owned
    refine callbacks.mono rfl (fun waiting => ⟨waiting, ?_⟩) id ?_ (fun _ _ => .inl)
    · intro linked
      omega
    · simp [own]
  | linkAsync armed owned =>
    obtain ⟨async, unlinked, -⟩ := fits.entering owned
    have linked : p.linked + 1 = 1 := by omega
    exact callbacks.mono rfl (fun waiting => ⟨waiting, fun _ => linked⟩) id
      (fun _ => .inr ⟨async, linked⟩) (fun _ _ => .inl)
  | disarm armed =>
    refine callbacks.mono rfl (fun waiting => ⟨waiting, id⟩) id (fun flagged => by cases flagged) ?_
    intro other rejection selected
    by_cases same : other = thread
    · exact .inr ⟨(callbacks.armed armed).1, .inr armed⟩
    · exact .inl (by simpa [callback, same] using selected)
  | cancel cancellable =>
    refine callbacks.mono rfl (fun waiting => ⟨waiting, id⟩) id .inl ?_
    intro other rejection selected
    by_cases same : other = thread
    · subst same
      simp only [callback, update_self, Option.some.injEq] at selected
      exact .inr ⟨callbacks.cancellable cancellable, .inl selected.symm⟩
    · exact .inl (by simpa [callback, same] using selected)
  | selected =>
    exact callbacks.mono rfl (fun waiting => ⟨waiting, id⟩) id .inl
      (fun _ _ selected => .inl (selects_of_ended selected))
  | reject rejection _ _ _ _ =>
    exact callbacks.mono rfl (fun waiting => absurd waiting rejection.state_ne_queued) id .inl
      (fun _ _ selected => .inl (selects_of_ended selected))
  | settle state slot chosen _ =>
    exact callbacks.mono rfl (fun waiting => absurd waiting chosen) id .inl (fun _ _ => .inl)
  | choose state slot notifier _ chosen =>
    exact callbacks.mono rfl (fun waiting => absurd waiting chosen) id .inl
      (fun _ _ selected => .inl (selects_of_ended selected))
  | linkFailed _ | expire _ _ | withdraw _ _ =>
    exact callbacks.mono rfl (fun waiting => nomatch waiting) id .inl (fun _ _ => .inl)
  | finishSync _ _ _ _ | finishAsync _ _ _ _ | finishPosted _ _ _ _ | finishAbandoned _ _ _ _ =>
    exact callbacks.mono rfl (fun waiting => ⟨waiting, id⟩) (fun flagged => nomatch flagged)
      (fun flagged => nomatch flagged) (fun _ _ => .inl)
  | _ => exact callbacks.mono rfl (fun waiting => ⟨waiting, id⟩) id .inl (fun _ _ => .inl)

theorem Counted.select (counted : p.Counted) (state : WaiterState)
    (waiting : p.node.state = .queued) (chosen : state ≠ .queued)
    (pending : state = .assigned → p.node.pending = true) (node : q.node.state = state)
    (call : q.node.pending = p.node.pending) (selections : q.selections = p.selections + 1)
    (deliveries : q.deliveries = p.deliveries) : q.Counted where
  selections := by
    rw [selections, counted.selections, if_pos waiting, if_neg (node ▸ chosen)]
  deliveries := by
    rw [deliveries, counted.deliveries, if_neg (by simp [waiting]), if_neg]
    rintro ⟨ended, assigned⟩
    rw [call, pending (node ▸ assigned)] at ended
    cases ended

theorem Counted.finish (counted : p.Counted) (pending : p.node.pending = true)
    (node : q.node.state = p.node.state) (call : q.node.pending = false)
    (selections : q.selections = p.selections)
    (deliveries : q.deliveries = p.deliveries + (decide (p.node.state = .assigned)).toNat) :
    q.Counted where
  selections := by rw [selections, counted.selections, node]
  deliveries := by
    rw [deliveries, counted.deliveries, node, call, pending]
    by_cases assigned : p.node.state = .assigned <;> simp [assigned]

theorem Counted.turn {phase : Phase} {thread : Nat} (counted : p.Counted) (fits : p.Fits phase)
    (turn : Turn p thread q) : q.Counted := by
  cases turn with
  | allocate node unborn waiting pending posted unarmed cancellable running stage staged =>
    have start : p.node = {} := by
      cases phase <;> simp_all [Fits]
    have selections := counted.selections
    have deliveries := counted.deliveries
    rw [start] at selections deliveries
    exact ⟨by simpa [own, waiting] using selections, by simpa [own, waiting] using deliveries⟩
  | settle state slot chosen owned =>
    have waiting : p.node.state = .queued := by
      rcases owned with owned | ⟨owned, left⟩
      · exact (fits.entering owned).2.2
      · exact (fits.fresh_async owned).resolve_right left
    have pending : p.node.pending = true := by
      rcases owned with owned | ⟨owned, -⟩ <;> exact fits.pending_of_owner owned
    exact counted.select state waiting chosen (fun _ => pending) rfl rfl rfl rfl
  | linkFailed owned =>
    exact counted.select .cancelled (fits.entering owned).2.2 (by decide)
      (fun other => nomatch other) rfl rfl rfl rfl
  | expire owned waiting =>
    exact counted.select .timeout waiting (by decide) (fun other => nomatch other) rfl rfl rfl rfl
  | withdraw abandoned linked =>
    exact counted.select .cancelled (fits.linked linked).2.2 (by decide)
      (fun other => nomatch other) rfl rfl rfl rfl
  | choose state slot notifier linked chosen =>
    exact counted.select state (fits.linked linked).2.2 chosen
      (fun _ => (fits.linked linked).2.1) rfl rfl rfl rfl
  | reject rejection selected waiting unlinked unlocked =>
    exact counted.select rejection.state waiting rejection.state_ne_queued
      (fun other => absurd other rejection.state_ne_assigned) rfl rfl rfl rfl
  | finishSync stage delivered owned last =>
    have outcome : delivered = decide (p.node.state = .assigned) := by
      rcases last with ⟨rfl, early⟩ | ⟨-, outcome⟩
      · have waiting : p.node.state = .queued := by
          rcases early with rfl | rfl
          · exact fits.fresh_sync owned
          · exact (fits.entering owned).2.2
        simp [waiting]
      · exact outcome
    exact counted.finish (fits.pending_of_owner owned) rfl rfl rfl (outcome ▸ rfl)
  | finishAsync stage delivered owned last =>
    have outcome : delivered = decide (p.node.state = .assigned) := by
      rcases last with ⟨rfl, rfl⟩ | ⟨-, outcome⟩
      · simp [fits.failed owned]
      · exact outcome
    exact counted.finish (fits.pending_of_owner owned) rfl rfl rfl (outcome ▸ rfl)
  | finishPosted delivered posted running outcome =>
    have pending : p.node.pending = true := by
      cases phase <;> simp_all [Fits, Running]
    exact counted.finish pending rfl rfl rfl (outcome ▸ rfl)
  | finishAbandoned delivered abandoned chosen outcome =>
    obtain rfl := fits.of_abandons abandoned
    exact counted.finish fits.2.2.1 rfl rfl rfl (outcome ▸ rfl)
  | _ => exact ⟨counted.selections, counted.deliveries⟩

theorem Sound.turn {thread : Nat} (sound : p.Sound) (turn : Turn p thread q) :
    q.Sound := by
  obtain ⟨⟨phase, fits⟩, callbacks, counted⟩ := sound
  exact ⟨fits.turn callbacks turn, callbacks.turn fits turn, counted.turn fits turn⟩

end

end Profile
end Menagerie.Starling.Pool
