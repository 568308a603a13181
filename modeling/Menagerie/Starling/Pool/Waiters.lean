import Menagerie.Starling.Pool.Lock
import Menagerie.Starling.Pool.WaiterProtocol

/-!
# The pool follows the waiter protocol

Every move of a thread is, for every waiter node, a turn of the node's protocol or leaves the
node alone. Hence every node of every reachable state is sound.
-/

namespace Menagerie.Starling.Pool

open Function State

/-- The value attached to one node. -/
def entryAt {α : Type} (entry : Option (Nat × α)) (waiter : Nat) : Option α :=
  entry.bind (fun named => if named.1 = waiter then some named.2 else none)

section

variable {α : Type}

@[simp] theorem entryAt_none (waiter : Nat) :
    entryAt (none : Option (Nat × α)) waiter = none := rfl

@[simp] theorem entryAt_self (waiter : Nat) (value : α) :
    entryAt (some (waiter, value)) waiter = some value := by
  simp [entryAt]

theorem entryAt_other {waiter other : Nat} (value : α) (differs : other ≠ waiter) :
    entryAt (some (waiter, value)) other = none := by
  simp [entryAt, Ne.symm differs]

theorem entryAt_map_self (waiter : Nat) (value : Option α) :
    entryAt (value.map (waiter, ·)) waiter = value := by
  cases value <;> simp

theorem entryAt_map_other {waiter other : Nat} (value : Option α) (differs : other ≠ waiter) :
    entryAt (value.map (waiter, ·)) other = none := by
  cases value with
  | none => rfl
  | some value => exact entryAt_other value differs

end

/-- What a program point says about waiter nodes. -/
structure View where
  stake : Option (Nat × Stage) := none
  notifies : Option Nat := none
  abandons : List Nat := []
  selects : Option (Nat × Rejection) := none
  initiating : Option Nat := none

/-- What the shutdown of a context still has to abandon. -/
def Return.abandons : Return → List Nat
  | .abandon _ rest => rest
  | _ => []

/-- The nodes that a thread abandons. -/
def Frame.abandons : Frame → List Nat
  | .unlinkAbandoned _ prepared todo => prepared ++ todo
  | .abandonAll _ rest => rest
  | frame => (frame.continuation.map Return.abandons).getD []

/-- The node that a thread notifies. -/
def Frame.notifies : Frame → Option Nat
  | .notify waiter _ => some waiter
  | _ => none

/-- The callback that a thread executes. -/
def Frame.selects : Frame → Option (Nat × Rejection)
  | .select waiter rejection => some (waiter, rejection)
  | _ => none

/-- What a program point says about waiter nodes. -/
def Frame.view (frame : Frame) : View where
  stake := frame.stake
  notifies := frame.notifies
  abandons := frame.abandons
  selects := frame.selects
  initiating := frame.initiating

/-- The effects that touch no waiter node. -/
def Effect.quiet : Effect → Bool
  | .link _ _ | .linkFailed _ | .unlink _ _ | .complete _ _ | .assign _ _ | .selfAssign _ _
  | .settle _ _ | .allocate _ _ | .enroll _ | .retire _ | .discard _ | .takeBack _ | .abandon _
  | .abandonSlot _ | .hand _ | .deliver _ | .unpin _ | .post _ | .disarm _ | .stopContext _ => false
  | _ => true

/-- What a move does to waiter nodes. -/
inductive NodeMove (s : State) (v : View) : Effect → View → Prop
  | quiet {effect : Effect} (silent : effect.quiet = true) : NodeMove s v effect v
  | begin (context : Nat) (outside : v = {})
      (running : (s.contexts context).stopping = false) :
      NodeMove s v .enter { v with initiating := some context }
  | finish {effect : Effect} (silent : effect.quiet = true) :
      NodeMove s v effect { v with initiating := none }
  | allocate (request : Request) (connected : Bool) (stage : Stage) (unowned : v.stake = none)
      (running : request.kind = .async → v.initiating = some request.context)
      (staged : stage = match request.kind with
        | .sync => .fresh .sync
        | .async => .allocated .async) :
      NodeMove s v (.allocate request connected)
        { v with stake := some (s.nodeCount, stage), initiating := none }
  | enroll (waiter : Nat) (kind : WaiterKind) (owned : v.stake = some (waiter, .allocated kind)) :
      NodeMove s v (.enroll waiter) { v with stake := some (waiter, .fresh kind) }
  | enter (waiter : Nat) (kind : WaiterKind) (owned : v.stake = some (waiter, .fresh kind))
      (waiting : kind = .async → (s.nodes waiter).state ≠ .cancelled) :
      NodeMove s v .skip { v with stake := some (waiter, .entering kind) }
  | observe (waiter : Nat) (owned : v.stake = some (waiter, .fresh .async))
      (cancelled : (s.nodes waiter).state = .cancelled) :
      NodeMove s v .skip { v with stake := some (waiter, .settled) }
  | settle (waiter : Nat) (rejection : Rejection)
      (owned : v.stake = some (waiter, .entering .async) ∨
        v.stake = some (waiter, .fresh .async) ∧ (s.nodes waiter).state ≠ .cancelled) :
      NodeMove s v (.settle waiter rejection) { v with stake := some (waiter, .settled) }
  | selfAssign (waiter index : Nat) (owned : v.stake = some (waiter, .entering .async)) :
      NodeMove s v (.selfAssign waiter index) { v with stake := some (waiter, .settled) }
  | linkSync (waiter : Nat) (owned : v.stake = some (waiter, .entering .sync)) :
      NodeMove s v (.link waiter false) { v with stake := some (waiter, .parked) }
  | linkAsync (waiter : Nat) (armed : Bool) (owned : v.stake = some (waiter, .entering .async)) :
      NodeMove s v (.link waiter armed) { v with stake := none }
  | linkFailed (waiter : Nat) (owned : v.stake = some (waiter, .entering .async)) :
      NodeMove s v (.linkFailed waiter) { v with stake := some (waiter, .failed) }
  | expire (waiter : Nat) (owned : v.stake = some (waiter, .parked))
      (waiting : (s.nodes waiter).state = .queued) :
      NodeMove s v (.unlink waiter .timeout) { v with stake := some (waiter, .resumed) }
  | wake (waiter : Nat) (owned : v.stake = some (waiter, .parked))
      (chosen : (s.nodes waiter).state ≠ .queued) :
      NodeMove s v .skip { v with stake := some (waiter, .resumed) }
  | withdraw (waiter : Nat) (abandoned : waiter ∈ v.abandons) (linked : waiter ∈ s.waiters) :
      NodeMove s v (.unlink waiter .cancelled) v
  | complete (waiter : Nat) (rejection : Rejection) (linked : waiter ∈ s.waiters)
      (idle : v.notifies = none)
      (own : ∀ other, other ≠ waiter → entryAt v.selects other = none) :
      NodeMove s v (.complete waiter rejection) { v with notifies := some waiter, selects := none }
  | assign (waiter index : Nat) (linked : waiter ∈ s.waiters) (idle : v.notifies = none)
      (own : v.selects = none) :
      NodeMove s v (.assign waiter index) { v with notifies := some waiter, selects := none }
  | reject (waiter : Nat) (rejection : Rejection) (selected : v.selects = some (waiter, rejection))
      (waiting : (s.nodes waiter).state = .queued) (unlinked : waiter ∉ s.waiters)
      (free : s.mutex = none) :
      NodeMove s v (.settle waiter rejection) { v with selects := none }
  | unpin (waiter : Nat) (chosen : v.notifies = some waiter)
      (sync : (s.nodes waiter).kind = .sync) :
      NodeMove s v (.unpin waiter) { v with notifies := none }
  | postOwn (waiter : Nat) (owned : v.stake = some (waiter, .settled)) :
      NodeMove s v (.post waiter) { v with stake := none }
  | postChosen (waiter : Nat) (chosen : v.notifies = some waiter)
      (async : (s.nodes waiter).kind = .async)
      (running : (s.contexts (s.nodes waiter).context).stopping = false) :
      NodeMove s v (.post waiter) { v with notifies := none }
  | dropOwn (waiter : Nat) (owned : v.stake = some (waiter, .settled))
      (stopped : (s.contexts (s.nodes waiter).context).stopping = true) :
      NodeMove s v .skip { v with stake := none }
  | dropChosen (waiter : Nat) (chosen : v.notifies = some waiter)
      (async : (s.nodes waiter).kind = .async)
      (stopped : (s.contexts (s.nodes waiter).context).stopping = true) :
      NodeMove s v .skip { v with notifies := none }
  | retire (waiter : Nat) (stage : Stage) (owned : v.stake = some (waiter, stage))
      (last : stage = .fresh .sync ∨ stage = .entering .sync ∨
        stage = .resumed ∧ (s.nodes waiter).state ≠ .assigned) :
      NodeMove s v (.retire waiter) { v with stake := none }
  | hand (waiter : Nat) (owned : v.stake = some (waiter, .resumed))
      (assigned : (s.nodes waiter).state = .assigned) :
      NodeMove s v (.hand waiter) { v with stake := none }
  | discard (waiter : Nat) (stage : Stage) (owned : v.stake = some (waiter, stage))
      (last : stage = .failed ∨ stage = .settled ∧ (s.nodes waiter).state ≠ .assigned) :
      NodeMove s v (.discard waiter) { v with stake := none }
  | takeBack (waiter : Nat) (owned : v.stake = some (waiter, .settled))
      (assigned : (s.nodes waiter).state = .assigned) :
      NodeMove s v (.takeBack waiter) { v with stake := none }
  | deliver (waiter : Nat) (posted : (s.nodes waiter).posted ≠ 0)
      (running : (s.contexts (s.nodes waiter).context).stopping = false) :
      NodeMove s v (.deliver waiter) v
  | abandon (waiter : Nat) (rest : List Nat) (abandoned : v.abandons = waiter :: rest)
      (chosen : (s.nodes waiter).state ≠ .queued)
      (rejected : (s.nodes waiter).state ≠ .assigned) :
      NodeMove s v (.abandon waiter) { v with abandons := rest }
  | abandonSlot (waiter : Nat) (rest : List Nat) (abandoned : v.abandons = waiter :: rest)
      (assigned : (s.nodes waiter).state = .assigned) :
      NodeMove s v (.abandonSlot waiter) { v with abandons := rest }
  | disarm (waiter : Nat) (idle : v.selects = none) (armed : (s.nodes waiter).timerArmed = true) :
      NodeMove s v (.disarm waiter) { v with selects := some (waiter, .timeout) }
  | cancel (waiter : Nat) (idle : v.selects = none)
      (cancellable : (s.nodes waiter).cancellable = true) :
      NodeMove s v .skip { v with selects := some (waiter, .cancelled) }
  | selected : NodeMove s v .skip { v with selects := none }
  | stop (context : Nat) (idle : v.abandons = [])
      (quiet : ∀ thread, thread < s.threadCount → s.runsOn context thread = false) :
      NodeMove s v (.stopContext context) { v with abandons := (s.contexts context).waiters }

theorem WaiterNode.result_ok {node : WaiterNode} {index : Nat}
    (outcome : node.result = some (.ok index)) :
    node.state = .assigned ∧ node.assignedSlot = index := by
  revert outcome
  fun_cases WaiterNode.result node <;> simp_all

theorem WaiterNode.result_error {node : WaiterNode} {error : AcquireError}
    (outcome : node.result = some (.error error)) :
    node.state ≠ .queued ∧ node.state ≠ .assigned := by
  revert outcome
  fun_cases WaiterNode.result node <;> simp_all

/-- What a scan says about waiter nodes, wherever it is. -/
def Scan.view (scan : Scan) : View := (Frame.claimLoad scan 0).view

theorem Scan.load_view (scan : Scan) (word : Nat) :
    (Frame.claimLoad scan word).view = scan.view := by
  cases scan <;> rfl

theorem Scan.swap_view (scan : Scan) (word : Nat) (bits : { bits : BitVec 64 // bits ≠ 0 }) :
    (Frame.claimSwap scan word bits).view = scan.view := by
  cases scan <;> rfl

theorem Scan.empty_view (scan : Scan) : scan.empty.view = scan.view := by
  cases scan <;> rfl

theorem Scan.found_view (scan : Scan) (index : Nat) : (scan.found index).view = scan.view := by
  cases scan <;> rfl

theorem Selected.resume_view (selected : Selected) (waiter : Nat) :
    selected.resume.view = { (Frame.notify waiter selected).view with notifies := none } := by
  fun_cases Selected.resume selected <;> rfl

theorem unlinkAbandoned_view (context waiter : Nat) (prepared todo : List Nat) :
    (Frame.unlinkAbandoned context (prepared ++ [waiter]) todo).view =
      (Frame.unlinkAbandoned context prepared (waiter :: todo)).view := by
  simp [Frame.view, Frame.abandons, Frame.stake, Frame.notifies, Frame.selects,
    Frame.initiating, Frame.continuation]

theorem abandonAll_view (context : Nat) (prepared : List Nat) :
    (Frame.abandonAll context prepared).view =
      (Frame.unlinkAbandoned context prepared []).view := by
  simp [Frame.view, Frame.abandons, Frame.stake, Frame.notifies, Frame.selects,
    Frame.initiating, Frame.continuation]

theorem Request.stage_cases {request : Request} {kind : WaiterKind} (same : request.kind = kind)
    (stage : WaiterKind → Stage) (waiter : Nat) :
    some (waiter, stage request.kind) = some (waiter, stage kind) := by
  rw [same]

theorem Moves.node {s : State} {frame after : Frame} {effect : Effect}
    (moves : Moves s frame effect after) : NodeMove s frame.view effect after.view := by
  cases moves with
  | began operation outside moved =>
    subst outside
    revert moved
    fun_cases start s operation
    all_goals rintro ⟨⟩
    all_goals first
      | exact .quiet rfl
      | exact .begin _ rfl (Bool.eq_false_iff.mpr ‹_›)
      | exact .disarm _ rfl (And.left ‹_ ∧ _›)
      | exact .cancel _ rfl ‹_›
      | exact .deliver _ (Nat.pos_iff_ne_zero.mp (And.left ‹_ ∧ _›)) (And.left (And.right ‹_ ∧ _›))
  | continued choice moved =>
    revert moved
    fun_cases next s choice frame
    all_goals rintro ⟨⟩
    all_goals first
      | exact .quiet rfl
      | exact .finish rfl
      | exact .enroll _ _ rfl
      | exact .wake _ rfl ‹_›
      | exact .expire _ rfl (not_not.mp ‹_›)
      | exact .hand _ rfl (WaiterNode.result_ok ‹_›).1
      | exact .retire _ _ rfl (.inr (.inr ⟨rfl, (WaiterNode.result_error ‹_›).2⟩))
      | exact .discard _ _ rfl (.inl rfl)
      | exact .discard _ _ rfl (.inr ⟨rfl, (WaiterNode.result_error ‹_›).2⟩)
      | exact .takeBack _ rfl (WaiterNode.result_ok ‹_›).1
      | exact .postOwn _ rfl
      | exact .dropOwn _ rfl ‹_›
      | exact .stop _ rfl (And.right ‹_ ∧ _›)
      | exact .abandon _ _ rfl (WaiterNode.result_error ‹_›).1 (WaiterNode.result_error ‹_›).2
      | exact .abandonSlot _ _ rfl (WaiterNode.result_ok ‹_›).1
      | exact .reject _ _ rfl (not_not.mp ‹_›) ‹_› ‹_›
      | exact .selected
      | exact .complete _ _ ‹_› rfl (fun _ => entryAt_other _)
      | exact .complete _ _ (by simp [*]) rfl (fun _ _ => rfl)
      | exact .assign _ _ (by simp [*]) rfl rfl
      | exact .linkFailed _ (Request.stage_cases ‹_› .entering _)
      | exact .linkSync _ (Request.stage_cases ‹_› .entering _)
      | exact .linkAsync _ _ (Request.stage_cases ‹_› .entering _)
      | exact .selfAssign _ _ (Request.stage_cases ‹_› .entering _)
      | exact .settle _ _ (.inl (Request.stage_cases ‹_› .entering _))
      | exact .settle _ _ (.inr ⟨Request.stage_cases ‹_› .fresh _, ‹_›⟩)
      | exact .observe _ (Request.stage_cases ‹_› .fresh _) ‹_›
      | exact .retire _ _ rfl (.inl (congrArg Stage.fresh ‹_›))
      | exact .retire _ _ rfl (.inr (.inl (congrArg Stage.entering ‹_›)))
      | exact .enter _ _ rfl (fun _ => ‹_›)
      | exact .enter _ _ rfl (by simp [*])
      | exact .allocate _ _ _ rfl (fun async => if_pos async) (by simp [*])
      | (simp only [Scan.load_view, Scan.swap_view, Scan.empty_view, Scan.found_view]
         exact .quiet rfl)
      | (rw [Selected.resume_view]; exact .unpin _ rfl ‹_›)
      | (rw [Selected.resume_view]; exact .dropChosen _ rfl ‹_› ‹_›)
      | (rw [Selected.resume_view]; exact .postChosen _ rfl ‹_› (Bool.eq_false_iff.mpr ‹_›))
      | (rw [unlinkAbandoned_view]; exact .quiet rfl)
      | (rw [unlinkAbandoned_view]; exact .withdraw _ (by simp [Frame.view, Frame.abandons]) ‹_›)
      | (rw [abandonAll_view]; exact .quiet rfl)

/-- Events by which a node leaves `queued`. -/
def Event.selects (waiter : Nat) : Event → Bool
  | .selected other _ => other = waiter
  | _ => false

/-- Events by which the slot of a node becomes a `Borrowed`. -/
def Event.delivers (waiter : Nat) : Event → Bool
  | .handed other _ | .givenBack other _ => other = waiter
  | _ => false

/-- One waiter node of the pool as all parties see it. -/
def State.profile (s : State) (waiter : Nat) : Profile where
  node := s.nodes waiter
  born := Nat.blt waiter s.nodeCount
  linked := s.waiters.count waiter
  enrolled context := (s.contexts context).waiters.count waiter
  stopping context := (s.contexts context).stopping
  owner thread := entryAt (s.threads thread).view.stake waiter
  notifies thread := (s.threads thread).view.notifies == some waiter
  abandons thread := (s.threads thread).view.abandons.count waiter
  selects thread := entryAt (s.threads thread).view.selects waiter
  selections := s.history.countP (Event.selects waiter)
  deliveries := s.history.countP (Event.delivers waiter)

attribute [local simp] State.profile

/-- A thread moves to a program point with another view. -/
def Profile.attend (p : Profile) (thread : Nat) (v : View) (waiter : Nat) : Profile :=
  { p with
    owner := Function.update p.owner thread (entryAt v.stake waiter)
    notifies := Function.update p.notifies thread (v.notifies == some waiter)
    abandons := Function.update p.abandons thread (v.abandons.count waiter)
    selects := Function.update p.selects thread (entryAt v.selects waiter) }

namespace State

section

variable (s : State)

include s

/-- A move is its effect and the new view of the thread. -/
theorem perform_profile (thread : Nat) (effect : Effect) (after : Frame) (waiter : Nat) :
    (s.perform thread (effect, after)).profile waiter =
      ((s.apply thread effect).profile waiter).attend thread after.view waiter := by
  simp only [profile, perform, goto, Profile.attend, apply_threads, Profile.mk.injEq, true_and,
    and_true]
  refine ⟨?_, ?_, ?_, ?_⟩
  all_goals
    funext other
    by_cases same : other = thread
    · simp [same]
    · simp [same]

theorem profile_attend (thread waiter : Nat) :
    (s.profile waiter).attend thread (s.threads thread).view waiter = s.profile waiter := by
  simp [Profile.attend]

theorem log_returned_profile (late : Bool) (outcome : Outcome) (waiter : Nat) :
    (s.log [.returned late outcome]).profile waiter = s.profile waiter := by
  simp [log, Event.selects, Event.delivers]

theorem setContext_profile (context : Nat) (change : Context → Context) (waiter : Nat) :
    (s.setContext context change).profile waiter =
      { s.profile waiter with
        enrolled := update (s.profile waiter).enrolled context
          ((change (s.contexts context)).waiters.count waiter)
        stopping := update (s.profile waiter).stopping context
          (change (s.contexts context)).stopping } := by
  simp only [profile, setContext, Profile.mk.injEq, true_and, and_true]
  refine ⟨?_, ?_⟩
  all_goals
    funext place
    by_cases same : place = context
    · simp [same]
    · simp [same]

theorem unlockContext_profile (thread context waiter : Nat) :
    (s.apply thread (.unlockContext context)).profile waiter = s.profile waiter := by
  rw [apply, setContext_profile]
  simp

theorem apply_profile_quiet (thread waiter : Nat) {effect : Effect} (silent : effect.quiet = true) :
    (s.apply thread effect).profile waiter = s.profile waiter := by
  revert silent
  fun_cases apply s thread effect
  all_goals intro silent
  all_goals first
    | rfl
    | cases silent; done
    | exact log_returned_profile _ _ _ _
    | exact unlockContext_profile _ thread _ _

end

section Target

variable (s : State) (thread waiter : Nat)

attribute [local simp] apply setNode log unlinkWaiter Event.selects Event.delivers Profile.select
  Profile.finish

theorem allocate_profile (request : Request) (connected : Bool) :
    (s.apply thread (.allocate request connected)).profile s.nodeCount =
      { s.profile s.nodeCount with
        born := true
        node :=
          { kind := request.kind
            deadline := request.deadline
            context := request.context
            pending := true
            cancellable := request.kind = .async ∧ connected
            late := s.late thread } } := by
  simp

theorem enroll_profile : (s.apply thread (.enroll waiter)).profile waiter =
    { s.profile waiter with
      enrolled := update (s.profile waiter).enrolled (s.nodes waiter).context
        ((s.profile waiter).listed + 1) } := by
  rw [apply, setContext_profile]
  simp [Profile.listed]

theorem link_profile (armed : Bool) : (s.apply thread (.link waiter armed)).profile waiter =
    { s.profile waiter with
      node := { s.nodes waiter with timerArmed := armed }
      linked := (s.profile waiter).linked + 1 } := by
  simp

theorem linkFailed_profile : (s.apply thread (.linkFailed waiter)).profile waiter =
    (s.profile waiter).select .cancelled := by
  simp

theorem unlink_profile (rejection : Rejection) :
    (s.apply thread (.unlink waiter rejection)).profile waiter =
      { s.profile waiter with linked := (s.profile waiter).linked - 1 }.select rejection.state := by
  simp

theorem complete_profile (rejection : Rejection) :
    ∃ notifier, (s.apply thread (.complete waiter rejection)).profile waiter =
      { s.profile waiter with
        node := { s.nodes waiter with notifier }
        linked := (s.profile waiter).linked - 1 }.select rejection.state := by
  simp [completeWaiter]

theorem assign_profile (index : Nat) :
    ∃ notifier, (s.apply thread (.assign waiter index)).profile waiter =
      { s.profile waiter with
        node := { s.nodes waiter with assignedSlot := index, notifier }
        linked := (s.profile waiter).linked - 1 }.select .assigned := by
  simp [completeWaiter]

theorem selfAssign_profile (index : Nat) :
    (s.apply thread (.selfAssign waiter index)).profile waiter =
      { s.profile waiter with
        node := { s.nodes waiter with assignedSlot := index } }.select .assigned := by
  simp

theorem settle_profile (rejection : Rejection) :
    (s.apply thread (.settle waiter rejection)).profile waiter =
      (s.profile waiter).select rejection.state := by
  simp

theorem retire_profile : (s.apply thread (.retire waiter)).profile waiter =
    (s.profile waiter).finish false := by
  simp [finishNode]

theorem hand_profile (assigned : (s.nodes waiter).state = .assigned) :
    (s.apply thread (.hand waiter)).profile waiter = (s.profile waiter).finish true := by
  simp [finishNode, addResult, addBorrowed, setBorrowed, completionEvents, WaiterNode.result,
    assigned]

theorem removeNode_profile : (s.removeNode waiter).profile waiter =
    (s.profile waiter).unlist := by
  rw [removeNode, setContext_profile]
  simp [Profile.unlist, Profile.listed]

theorem finishNode_profile : (s.finishNode waiter).profile waiter =
    (s.profile waiter).finish false := by
  simp [finishNode]

theorem discard_profile : (s.apply thread (.discard waiter)).profile waiter =
    (s.profile waiter).unlist.finish false := by
  rw [apply, finishNode_profile, removeNode_profile]

theorem takeBack_profile : (s.apply thread (.takeBack waiter)).profile waiter =
    (s.profile waiter).unlist.finish true := by
  have logged : (s.apply thread (.takeBack waiter)).profile waiter =
      { ((s.removeNode waiter).finishNode waiter).profile waiter with
        deliveries := (s.profile waiter).deliveries + 1 } := by
    simp [removeNode, finishNode, setContext]
  rw [logged, finishNode_profile, removeNode_profile]
  rfl

theorem abandon_profile : (s.apply thread (.abandon waiter)).profile waiter =
    (s.profile waiter).finish false :=
  finishNode_profile s waiter

theorem abandonSlot_profile : (s.apply thread (.abandonSlot waiter)).profile waiter =
    (s.profile waiter).finish true := by
  have logged : (s.apply thread (.abandonSlot waiter)).profile waiter =
      { (s.finishNode waiter).profile waiter with
        deliveries := (s.profile waiter).deliveries + 1 } := by
    simp [finishNode]
  rw [logged, finishNode_profile]
  rfl

theorem deliver_profile :
    (s.apply thread (.deliver waiter)).profile waiter =
      { (s.profile waiter).unlist.finish (decide ((s.nodes waiter).state = .assigned)) with
        node := { ((s.profile waiter).finish true).node with
          posted := (s.nodes waiter).posted - 1 } } := by
  have ended : ((s.removeNode waiter).finishNode waiter).profile waiter =
      (s.profile waiter).unlist.finish false := by
    rw [finishNode_profile, removeNode_profile]
  have logged : (s.apply thread (.deliver waiter)).profile waiter =
      { ((s.removeNode waiter).finishNode waiter).profile waiter with
        node := { ((s.profile waiter).finish true).node with
          posted := (s.nodes waiter).posted - 1 }
        deliveries := (s.profile waiter).deliveries +
          (decide ((s.nodes waiter).state = .assigned)).toNat } := by
    cases state : (s.nodes waiter).state
    all_goals simp [removeNode, finishNode, setContext, addResult, addBorrowed, setBorrowed,
      completionEvents, WaiterNode.result, state]
  rw [logged, ended]
  rfl

theorem unpin_profile : (s.apply thread (.unpin waiter)).profile waiter =
    { s.profile waiter with node := { s.nodes waiter with notifier := none } } := by
  simp

theorem post_profile : (s.apply thread (.post waiter)).profile waiter =
    { s.profile waiter with
      node := { s.nodes waiter with posted := (s.nodes waiter).posted + 1 } } := by
  simp

theorem disarm_profile : (s.apply thread (.disarm waiter)).profile waiter =
    { s.profile waiter with node := { s.nodes waiter with timerArmed := false } } := by
  simp

end Target

section Others

variable {s : State} {waiter other : Nat}

theorem setNode_profile_other (differs : other ≠ waiter) (change : WaiterNode → WaiterNode) :
    (s.setNode waiter change).profile other = s.profile other := by
  simp [setNode, differs]

theorem log_profile_other {event : Event} (unselected : event.selects other = false)
    (undelivered : event.delivers other = false) :
    (s.log [event]).profile other = s.profile other := by
  simp [log, unselected, undelivered]

theorem setContext_profile_other {context : Nat} {change : Context → Context}
    (listed : (change (s.contexts context)).waiters.count other =
      (s.contexts context).waiters.count other)
    (stopping : (change (s.contexts context)).stopping = (s.contexts context).stopping) :
    (s.setContext context change).profile other = s.profile other := by
  rw [setContext_profile, listed, stopping]
  simp

section

variable (differs : other ≠ waiter)

include differs

theorem unlinkWaiter_profile_other (state : WaiterState) :
    (s.unlinkWaiter waiter state).profile other = s.profile other := by
  rw [unlinkWaiter, log_profile_other (by simp [Event.selects, Ne.symm differs]) rfl,
    setNode_profile_other differs]
  simp [List.count_erase_of_ne differs]

theorem completeWaiter_profile_other (thread : Nat) (state : WaiterState) :
    (s.completeWaiter thread waiter state).profile other = s.profile other := by
  rw [completeWaiter, setNode_profile_other differs, unlinkWaiter_profile_other differs]

theorem finishNode_profile_other :
    (s.finishNode waiter).profile other = s.profile other :=
  setNode_profile_other differs _

theorem removeNode_profile_other :
    (s.removeNode waiter).profile other = s.profile other :=
  setContext_profile_other (List.count_erase_of_ne differs) rfl

end

theorem addResult_profile : (s.addResult waiter).profile other = s.profile other := by
  rw [addResult_eq]
  rfl

theorem completionEvents_profile (differs : other ≠ waiter) (later : State) :
    (later.log (s.completionEvents waiter)).profile other = later.profile other := by
  unfold completionEvents
  split <;> simp [log, Event.selects, Event.delivers, Ne.symm differs]

end Others

def target (s : State) : Effect → Option Nat
  | .link waiter _ | .linkFailed waiter | .unlink waiter _ | .complete waiter _
  | .assign waiter _ | .selfAssign waiter _ | .settle waiter _ | .enroll waiter | .retire waiter
  | .discard waiter | .takeBack waiter | .abandon waiter | .abandonSlot waiter | .hand waiter
  | .deliver waiter | .unpin waiter | .post waiter | .disarm waiter => some waiter
  | .allocate _ _ => some s.nodeCount
  | _ => none

theorem apply_profile_other (s : State) (thread : Nat) {effect : Effect} {waiter other : Nat}
    (named : s.target effect = some waiter) (differs : other ≠ waiter) :
    (s.apply thread effect).profile other = s.profile other := by
  have unnamed : ¬ waiter = other := Ne.symm differs
  cases effect with
  | link node armed =>
    cases named
    rw [apply, log_profile_other rfl rfl, setNode_profile_other differs]
    simp [unnamed]
  | linkFailed node =>
    cases named
    rw [apply, unlinkWaiter_profile_other differs, log_profile_other rfl rfl]
    simp [unnamed]
  | allocate request connected =>
    cases named
    have older : Nat.blt other (s.nodeCount + 1) = Nat.blt other s.nodeCount := by
      rw [Bool.eq_iff_iff, Nat.blt_eq, Nat.blt_eq]
      omega
    simp [apply, setNode, differs, older]
  | enroll node =>
    cases named
    exact setContext_profile_other (by simp [unnamed]) rfl
  | selfAssign node index | settle node rejection =>
    cases named
    rw [apply, log_profile_other (by simp [Event.selects, unnamed]) rfl,
      setNode_profile_other differs]
  | takeBack node | abandonSlot node =>
    cases named
    rw [apply, log_profile_other rfl (by simp [Event.delivers, unnamed])]
    simp only [finishNode_profile_other differs, removeNode_profile_other differs]
  | unlink node rejection | complete node rejection | assign node index | retire node
  | abandon node | discard node | hand node | deliver node | unpin node | post node
  | disarm node =>
    cases named
    simp only [apply, unlinkWaiter_profile_other differs, completeWaiter_profile_other differs,
      setNode_profile_other differs, finishNode_profile_other differs,
      removeNode_profile_other differs, completionEvents_profile differs, addResult_profile]
  | _ => cases named

/-- An effect that touches one node at most. -/
def Touches (s : State) (effect : Effect) (waiter : Nat) : Prop :=
  s.target effect = some waiter ∨ effect.quiet = true

theorem Touches.untouched {s : State} {effect : Effect} {waiter other : Nat}
    (touched : s.Touches effect waiter) (thread : Nat) (differs : other ≠ waiter) :
    (s.apply thread effect).profile other = s.profile other :=
  touched.elim (fun named => apply_profile_other s thread named differs)
    (apply_profile_quiet s thread other)

theorem stopContext_profile (s : State) (thread context waiter : Nat) :
    (s.apply thread (.stopContext context)).profile waiter =
      { s.profile waiter with
        enrolled := update (s.profile waiter).enrolled context 0
        stopping := update (s.profile waiter).stopping context true } := by
  rw [apply, setContext_profile]
  rfl

end State

section Turns

variable {s : State} {thread waiter : Nat} {v : View}

/-- Two views that say the same about a node. -/
structure View.Agrees (v after : View) (waiter : Nat) : Prop where
  stake : entryAt after.stake waiter = entryAt v.stake waiter
  notifies : (after.notifies == some waiter) = (v.notifies == some waiter)
  abandons : after.abandons.count waiter = v.abandons.count waiter
  selects : entryAt after.selects waiter = entryAt v.selects waiter

section Attend

variable {p : Profile} (seen : p.attend thread v waiter = p)

include seen

theorem attend_agrees {after : View} (agrees : v.Agrees after waiter) :
    p.attend thread after waiter = p := by
  rw [Profile.attend, agrees.stake, agrees.notifies, agrees.abandons, agrees.selects]
  exact seen

theorem attend_own (stake : Option (Nat × Stage)) (initiating : Option Nat) :
    p.attend thread ⟨stake, v.notifies, v.abandons, v.selects, initiating⟩ waiter =
      p.own thread (entryAt stake waiter) := by
  conv_rhs => rw [← seen]
  simp [Profile.attend, Profile.own]

theorem attend_choose (notifies : Option Nat) (selects : Option (Nat × Rejection)) :
    p.attend thread ⟨v.stake, notifies, v.abandons, selects, v.initiating⟩ waiter =
      (p.notify thread (notifies == some waiter)).callback thread (entryAt selects waiter) := by
  conv_rhs => rw [← seen]
  simp [Profile.attend, Profile.notify, Profile.callback]

theorem attend_notify (notifies : Option Nat) :
    p.attend thread ⟨v.stake, notifies, v.abandons, v.selects, v.initiating⟩ waiter =
      p.notify thread (notifies == some waiter) := by
  conv_rhs => rw [← seen]
  simp [Profile.attend, Profile.notify]

theorem attend_callback (selects : Option (Nat × Rejection)) :
    p.attend thread ⟨v.stake, v.notifies, v.abandons, selects, v.initiating⟩ waiter =
      p.callback thread (entryAt selects waiter) := by
  conv_rhs => rw [← seen]
  simp [Profile.attend, Profile.callback]

theorem attend_abandons (abandons : List Nat) :
    p.attend thread ⟨v.stake, v.notifies, abandons, v.selects, v.initiating⟩ waiter =
      { p with abandons := update p.abandons thread (abandons.count waiter) } := by
  conv_rhs => rw [← seen]
  simp [Profile.attend]

end Attend

theorem apply_attend (s : State) (thread waiter : Nat) (effect : Effect) :
    ((s.apply thread effect).profile waiter).attend thread (s.threads thread).view waiter =
      (s.apply thread effect).profile waiter := by
  have seen := profile_attend (s.apply thread effect) thread waiter
  rwa [apply_threads] at seen

/-- Initiations run on contexts that have not stopped, and only known threads are inside the pool.
-/
structure Surroundings (s : State) : Prop where
  locked : Locked s
  running : ∀ thread context, (s.threads thread).view.initiating = some context →
    (s.contexts context).stopping = false
  outside : ∀ thread, s.threadCount ≤ thread → s.threads thread = .ready

theorem held_of_entering {other : Nat} {kind : WaiterKind}
    (entering : (s.profile waiter).owner other = some (.entering kind)) :
    (s.threads other).held = true := by
  have staked : (s.threads other).stake = some (waiter, .entering kind) := by
    simp only [profile, entryAt, Option.bind_eq_some_iff, Option.ite_none_right_eq_some,
      Option.some.injEq] at entering
    obtain ⟨⟨node, stage⟩, staked, rfl, rfl⟩ := entering
    exact staked
  revert staked
  generalize s.threads other = frame
  fun_cases Frame.stake frame
  all_goals intro staked
  all_goals first | rfl | cases staked | skip
  simp only [Option.bind_eq_some_iff] at staked
  obtain ⟨after, -, staked⟩ := staked
  cases after <;> cases staked

theorem Surroundings.unowned_of_quiet {context : Nat} (surroundings : Surroundings s)
    (quiet : ∀ thread, thread < s.threadCount → s.runsOn context thread = false)
    (async : (s.nodes waiter).kind = .async) (here : (s.nodes waiter).context = context)
    (other : Nat) : (s.profile waiter).owner other = none := by
  by_cases known : other < s.threadCount
  · have away := quiet other known
    simp only [profile, entryAt, Option.bind_eq_none_iff]
    rintro ⟨node, stage⟩ staked
    have staked : (s.threads other).stake = some (node, stage) := staked
    simp only [runsOn, staked, Bool.or_eq_false_iff, decide_eq_false_iff_not] at away
    split
    · rename_i same
      subst same
      exact absurd ⟨async, here⟩ away.2
    · rfl
  · simp [surroundings.outside other (Nat.le_of_not_lt known), Frame.view, Frame.stake,
      Frame.continuation]

theorem State.profile_linked (linked : waiter ∈ s.waiters) : (s.profile waiter).linked ≠ 0 := by
  exact Nat.pos_iff_ne_zero.mp (List.count_pos_iff.mpr linked)

/-- The effect and the new view are a turn of every node they change. -/
def Follows (s : State) (thread : Nat) (effect : Effect) (after : View) : Prop :=
  ∀ waiter, ((s.apply thread effect).profile waiter).attend thread after waiter =
      s.profile waiter ∨
    Turn (s.profile waiter) thread
      (((s.apply thread effect).profile waiter).attend thread after waiter)

theorem stake_elsewhere {node : Nat} {stage : Stage} (owned : v.stake = some (node, stage)) :
    ∀ waiter, waiter ≠ node → entryAt v.stake waiter = none := by
  intro waiter differs
  rw [owned]
  exact entryAt_other stage differs

section Cases

variable {effect : Effect} {node : Nat} {stage : Stage} (viewed : (s.threads thread).view = v)

include viewed

/-- The mover sees every node as before its effect. -/
theorem seen_of_view (effect : Effect) (waiter : Nat) :
    ((s.apply thread effect).profile waiter).attend thread v waiter =
      (s.apply thread effect).profile waiter := by
  rw [← viewed]
  exact apply_attend s thread waiter effect

theorem owner_of_view (owned : v.stake = some (node, stage)) :
    (s.profile node).owner thread = some stage := by
  simp [viewed, owned]

/-- No node is changed, and the view says the same of every node. -/
theorem follows_quiet {after : View} (silent : effect.quiet = true)
    (agrees : ∀ waiter, v.Agrees after waiter) : Follows s thread effect after := by
  intro waiter
  left
  rw [attend_agrees (seen_of_view viewed effect waiter) (agrees waiter),
    apply_profile_quiet s thread waiter silent]

theorem follows_at {after : View}
    (touched : s.Touches effect node)
    (elsewhere : ∀ waiter, waiter ≠ node → v.Agrees after waiter)
    (turn : Turn (s.profile node) thread
      (((s.apply thread effect).profile node).attend thread after node)) :
    Follows s thread effect after := by
  intro waiter
  by_cases same : waiter = node
  · subst same
    exact .inr turn
  · left
    rw [attend_agrees (seen_of_view viewed effect waiter) (elsewhere waiter same),
      touched.untouched thread same]

theorem follows_own (later : Option Stage) {initiating : Option Nat}
    (touched : s.Touches effect node)
    (owned : ∀ waiter, waiter ≠ node → entryAt v.stake waiter = none)
    (turn : Turn (s.profile node) thread
      (((s.apply thread effect).profile node).own thread later)) :
    Follows s thread effect
      ⟨later.map (node, ·), v.notifies, v.abandons, v.selects, initiating⟩ := by
  refine follows_at viewed touched (fun waiter same => ⟨?_, rfl, rfl, rfl⟩) ?_
  · rw [owned waiter same, entryAt_map_other later same]
  · rwa [attend_own (seen_of_view viewed effect node), entryAt_map_self]

theorem follows_owned (later : Option Stage) {q : Profile} (owned : v.stake = some (node, stage))
    (touched : s.Touches effect node) (profile : (s.apply thread effect).profile node = q)
    (turn : (s.profile node).owner thread = some stage →
      Turn (s.profile node) thread (q.own thread later)) :
    Follows s thread effect
      ⟨later.map (node, ·), v.notifies, v.abandons, v.selects, v.initiating⟩ := by
  refine follows_own viewed later touched (stake_elsewhere owned) ?_
  rw [profile]
  exact turn (owner_of_view viewed owned)

theorem follows_choose {notifies : Option Nat} {selects : Option (Nat × Rejection)}
    (touched : s.Touches effect node)
    (unnotified : ∀ waiter, waiter ≠ node →
      (notifies == some waiter) = (v.notifies == some waiter))
    (unselected : ∀ waiter, waiter ≠ node → entryAt selects waiter = entryAt v.selects waiter)
    (turn : Turn (s.profile node) thread
      ((((s.apply thread effect).profile node).notify thread (notifies == some node)).callback
        thread (entryAt selects node))) :
    Follows s thread effect ⟨v.stake, notifies, v.abandons, selects, v.initiating⟩ := by
  refine follows_at viewed touched (fun waiter same =>
    ⟨rfl, unnotified waiter same, rfl, unselected waiter same⟩) ?_
  rwa [attend_choose (seen_of_view viewed effect node)]

theorem follows_notify
    (touched : s.Touches effect node)
    (chosen : v.notifies = some node)
    (turn : Turn (s.profile node) thread
      (((s.apply thread effect).profile node).notify thread false)) :
    Follows s thread effect ⟨v.stake, none, v.abandons, v.selects, v.initiating⟩ := by
  refine follows_at viewed touched (fun waiter same => ⟨rfl, ?_, rfl, rfl⟩) ?_
  · simp [chosen, Ne.symm same]
  · rwa [attend_notify (seen_of_view viewed effect node)]

theorem follows_callback (later : Option Rejection)
    (touched : s.Touches effect node)
    (unselected : ∀ waiter, waiter ≠ node → entryAt v.selects waiter = none)
    (turn : Turn (s.profile node) thread
      (((s.apply thread effect).profile node).callback thread later)) :
    Follows s thread effect
      ⟨v.stake, v.notifies, v.abandons, later.map (node, ·), v.initiating⟩ := by
  refine follows_at viewed touched (fun waiter same => ⟨rfl, rfl, rfl, ?_⟩) ?_
  · rw [unselected waiter same, entryAt_map_other later same]
  · rwa [attend_callback (seen_of_view viewed effect node), entryAt_map_self]

theorem follows_abandon {rest : List Nat} (abandoned : v.abandons = node :: rest)
    (touched : s.Touches effect node)
    (turn : Turn (s.profile node) thread
      { (s.apply thread effect).profile node with
        abandons := update ((s.apply thread effect).profile node).abandons thread
          ((s.profile node).abandons thread - 1) }) :
    Follows s thread effect ⟨v.stake, v.notifies, rest, v.selects, v.initiating⟩ := by
  refine follows_at viewed touched
    (fun waiter same => ⟨rfl, rfl, ?_, rfl⟩) ?_
  · simp [abandoned, Ne.symm same]
  · have fewer : rest.count node = (s.profile node).abandons thread - 1 := by
      simp [viewed, abandoned]
    rwa [attend_abandons (seen_of_view viewed effect node), fewer]

theorem follows_same {q : Profile} (touched : s.Touches effect node)
    (profile : (s.apply thread effect).profile node = q) (turn : Turn (s.profile node) thread q) :
    Follows s thread effect v := by
  refine follows_at viewed touched
    (fun _ _ => ⟨rfl, rfl, rfl, rfl⟩) ?_
  rwa [seen_of_view viewed effect node, profile]

end Cases

theorem NodeMove.follows {effect : Effect} {after : View} (surroundings : Surroundings s)
    (viewed : (s.threads thread).view = v) (move : NodeMove s v effect after) :
    Follows s thread effect after := by
  cases move with
  | quiet silent | finish silent =>
    exact follows_quiet viewed silent (fun _ => ⟨rfl, rfl, rfl, rfl⟩)
  | begin context outside running =>
    exact follows_quiet viewed rfl (fun _ => ⟨rfl, rfl, rfl, rfl⟩)
  | allocate request connected stage unowned running staged =>
    refine follows_own viewed (some stage) (.inl rfl)
      (fun _ _ => by rw [unowned]; rfl) ?_
    rw [allocate_profile]
    refine .allocate _ ?_ rfl rfl rfl rfl ?_ ?_ stage staged
    · exact Bool.eq_false_iff.mpr (fun early => Nat.lt_irrefl _ (Nat.blt_eq.mp early))
    · intro connected
      exact (of_decide_eq_true connected).1
    · intro async
      exact surroundings.running thread request.context (viewed ▸ running async)
  | enroll node kind owned =>
    exact follows_owned viewed (some (.fresh kind)) owned (.inl rfl) (enroll_profile ..)
      (.enroll kind)
  | enter node kind owned waiting =>
    exact follows_owned viewed (some (.entering kind)) owned (.inr rfl) rfl
      (fun owner => .enter kind owner waiting)
  | observe node owned cancelled =>
    exact follows_owned viewed (some .settled) owned (.inr rfl) rfl
      (fun owner => .observe owner cancelled)
  | settle node rejection owned =>
    have elsewhere : ∀ waiter, waiter ≠ node → entryAt v.stake waiter = none := by
      rcases owned with owned | ⟨owned, -⟩ <;> exact stake_elsewhere owned
    refine follows_own viewed (some .settled) (.inl rfl) elsewhere ?_
    rw [settle_profile]
    exact .settle rejection.state (s.nodes node).assignedSlot rejection.state_ne_queued
      (owned.imp (owner_of_view viewed) (fun early => ⟨owner_of_view viewed early.1, early.2⟩))
  | selfAssign node index owned =>
    exact follows_owned viewed (some .settled) owned (.inl rfl) (selfAssign_profile ..)
      (fun owner => .settle .assigned index (by decide) (.inl owner))
  | linkSync node owned =>
    exact follows_owned viewed (some .parked) owned (.inl rfl) (link_profile ..) .linkSync
  | linkAsync node armed owned =>
    exact follows_owned viewed none owned (.inl rfl) (link_profile ..) (.linkAsync armed)
  | linkFailed node owned =>
    exact follows_owned viewed (some .failed) owned (.inl rfl) (linkFailed_profile ..)
      .linkFailed
  | expire node owned waiting =>
    exact follows_owned viewed (some .resumed) owned (.inl rfl) (unlink_profile ..)
      (fun owner => .expire owner waiting)
  | wake node owned chosen =>
    exact follows_owned viewed (some .resumed) owned (.inr rfl) rfl
      (fun owner => .wake owner chosen)
  | withdraw node abandoned linked =>
    refine follows_same viewed (.inl rfl) (unlink_profile s thread node _) ?_
    refine .withdraw ?_ (profile_linked linked)
    rw [← viewed] at abandoned
    exact Nat.pos_iff_ne_zero.mp (List.count_pos_iff.mpr abandoned)
  | complete node rejection linked idle own =>
    refine follows_choose viewed (.inl rfl)
      (fun _ differs => by simp [idle, Ne.symm differs]) (fun _ differs => (own _ differs).symm) ?_
    obtain ⟨notifier, profile⟩ := complete_profile s thread node rejection
    rw [profile, beq_self_eq_true]
    exact .choose rejection.state (s.nodes node).assignedSlot notifier
      (profile_linked linked) rejection.state_ne_queued
  | assign node index linked idle own =>
    refine follows_choose viewed (.inl rfl)
      (fun _ differs => by simp [idle, Ne.symm differs]) (fun _ _ => by rw [own]) ?_
    obtain ⟨notifier, profile⟩ := assign_profile s thread node index
    rw [profile, beq_self_eq_true]
    exact .choose .assigned index notifier (profile_linked linked) (by decide)
  | reject node rejection selected waiting unlinked free =>
    refine follows_callback viewed none (.inl rfl)
      (fun _ differs => by rw [selected]; exact entryAt_other _ differs) ?_
    rw [settle_profile]
    refine .reject rejection ?_ waiting ?_ ?_
    · simp [viewed, selected]
    · exact List.count_eq_zero_of_not_mem unlinked
    · intro other kind entering
      have held := held_of_entering entering
      rw [← surroundings.locked other, free] at held
      cases held
  | unpin node chosen sync =>
    refine follows_notify viewed (.inl rfl) chosen ?_
    rw [unpin_profile]
    exact .unpin sync
  | postOwn node owned =>
    exact follows_owned viewed none owned (.inl rfl) (post_profile ..) .postOwn
  | postChosen node chosen async running =>
    refine follows_notify viewed (.inl rfl) chosen ?_
    rw [post_profile]
    refine .postChosen ?_ async running
    simp [viewed, chosen]
  | dropOwn node owned stopped =>
    exact follows_owned viewed none owned (.inr rfl) rfl (fun owner => .dropOwn owner stopped)
  | dropChosen node chosen async stopped =>
    exact follows_notify viewed (.inr rfl) chosen (.dropChosen async stopped)
  | retire node stage owned last =>
    refine follows_owned viewed none owned (.inl rfl) (retire_profile ..) (fun owner =>
      .finishSync stage false owner ?_)
    rcases last with early | early | ⟨resumed, rejected⟩
    · exact .inl ⟨rfl, .inl early⟩
    · exact .inl ⟨rfl, .inr early⟩
    · exact .inr ⟨resumed, (decide_eq_false rejected).symm⟩
  | hand node owned assigned =>
    exact follows_owned viewed none owned (.inl rfl) (hand_profile s thread node assigned)
      (fun owner => .finishSync .resumed true owner (.inr ⟨rfl, (decide_eq_true assigned).symm⟩))
  | discard node stage owned last =>
    refine follows_owned viewed none owned (.inl rfl) (discard_profile ..) (fun owner =>
      .finishAsync stage false owner ?_)
    rcases last with failed | ⟨settled, rejected⟩
    · exact .inl ⟨rfl, failed⟩
    · exact .inr ⟨settled, (decide_eq_false rejected).symm⟩
  | takeBack node owned assigned =>
    exact follows_owned viewed none owned (.inl rfl) (takeBack_profile ..)
      (fun owner => .finishAsync .settled true owner (.inr ⟨rfl, (decide_eq_true assigned).symm⟩))
  | deliver node posted running =>
    refine follows_same viewed (.inl rfl) (deliver_profile s thread node) ?_
    exact Turn.finishPosted (p := s.profile node) _ posted running rfl
  | abandon node rest abandoned chosen rejected =>
    refine follows_abandon viewed abandoned (.inl rfl) ?_
    rw [abandon_profile]
    refine .finishAbandoned false ?_ chosen (decide_eq_false rejected).symm
    simp [viewed, abandoned]
  | abandonSlot node rest abandoned assigned =>
    refine follows_abandon viewed abandoned (.inl rfl) ?_
    rw [abandonSlot_profile]
    refine .finishAbandoned true ?_ ?_ (decide_eq_true assigned).symm
    · simp [viewed, abandoned]
    · simp [assigned]
  | disarm node idle armed =>
    refine follows_callback viewed (some .timeout) (.inl rfl) (fun _ _ => by rw [idle]; rfl) ?_
    rw [disarm_profile]
    exact .disarm armed
  | cancel node idle cancellable =>
    exact follows_callback viewed (some .cancelled) (.inr rfl)
      (fun _ _ => by rw [idle]; rfl) (.cancel cancellable)
  | selected =>
    intro waiter
    rw [attend_callback (seen_of_view viewed _ _)]
    exact .inr .selected
  | stop context idle quiet =>
    intro waiter
    rw [attend_abandons (seen_of_view viewed _ _), stopContext_profile]
    refine .inr (.stop context ?_ ?_)
    · simp [viewed, idle]
    · intro async here other
      exact surroundings.unowned_of_quiet quiet async here other

/-- A move is, for every node, a turn or leaves it alone. -/
theorem Moves.turn {effect : Effect} {after : Frame} (surroundings : Surroundings s)
    (moves : Moves s (s.threads thread) effect after) (waiter : Nat) :
    (s.perform thread (effect, after)).profile waiter = s.profile waiter ∨
      Turn (s.profile waiter) thread ((s.perform thread (effect, after)).profile waiter) := by
  rw [perform_profile]
  exact NodeMove.follows surroundings rfl moves.node waiter

end Turns

section

variable {s : State} {context : Nat}

/-- Only `AsyncWaiterContext::shutdown` changes `stopping_`. -/
theorem apply_stopping {thread : Nat} {effect : Effect} (other : effect ≠ .stopContext context) :
    ((s.apply thread effect).contexts context).stopping = (s.contexts context).stopping := by
  by_cases silent : effect.quiet = true
  · have same := apply_profile_quiet s thread 0 silent
    exact congrFun (congrArg Profile.stopping same) context
  · cases named : s.target effect with
    | none =>
      cases effect with
      | stopContext stopped =>
        have differs : context ≠ stopped := by
          rintro rfl
          exact other rfl
        simp [apply, setContext, differs]
      | _ => simp_all [target, Effect.quiet]
    | some waiter =>
      have same := apply_profile_other s thread named (Nat.succ_ne_self waiter)
      exact congrFun (congrArg Profile.stopping same) context

/-- An initiation starts on a running context and stays on it. -/
theorem NodeMove.initiating {v after : View} {effect : Effect} (move : NodeMove s v effect after)
    (later : after.initiating = some context) :
    v.initiating = some context ∨ (s.contexts context).stopping = false := by
  cases move with
  | begin started outside running =>
    cases later
    exact .inr running
  | finish _ | allocate _ _ _ _ _ _ => cases later
  | _ => exact .inl later

/-- A context shuts down only when no initiation runs on it. -/
theorem NodeMove.stop_quiet {v after : View} (move : NodeMove s v (.stopContext context) after) :
    after.initiating = v.initiating ∧
      ∀ thread, thread < s.threadCount → s.runsOn context thread = false := by
  cases move with
  | quiet silent | finish silent => cases silent
  | stop _ _ quiet => exact ⟨rfl, quiet⟩

end

theorem Surroundings.running_move {s : State} {thread : Nat} {effect : Effect} {after : Frame}
    (surroundings : Surroundings s) (moves : Moves s (s.threads thread) effect after)
    (other context : Nat)
    (named : ((s.perform thread (effect, after)).threads other).view.initiating = some context) :
    ((s.perform thread (effect, after)).contexts context).stopping = false := by
  have before : (s.threads other).view.initiating = some context ∨
      other = thread ∧ after.view.initiating = some context ∧
        (s.contexts context).stopping = false := by
    by_cases same : other = thread
    · subst same
      rw [perform_threads_self] at named
      exact (moves.node.initiating named).imp_right (fun running => ⟨rfl, named, running⟩)
    · rw [perform_threads_other s thread effect after same] at named
      exact .inl named
  have running : (s.contexts context).stopping = false :=
    before.elim (surroundings.running other context) (fun late => late.2.2)
  by_cases stops : effect = .stopContext context
  · -- The shutdown waits until no thread initiates on the context.
    subst stops
    obtain ⟨kept, quiet⟩ := moves.node.stop_quiet
    have initiating : (s.threads other).view.initiating = some context := by
      rcases before with before | ⟨rfl, later, -⟩
      · exact before
      · rwa [← kept]
    have known : other < s.threadCount := by
      by_contra late
      rw [surroundings.outside other (Nat.le_of_not_lt late)] at initiating
      cases initiating
    have away := quiet other known
    simp [runsOn, show (s.threads other).initiating = some context from initiating] at away
  · have unchanged : ((s.perform thread (effect, after)).contexts context).stopping =
        (s.contexts context).stopping := apply_stopping stops
    rw [unchanged]
    exact running

section

variable {capacity : Nat} {s : State} (reached : (system capacity).Reachable s)

include reached

theorem reachable_surroundings : Surroundings s := by
  refine invariant_of_moves Surroundings reached ?_ (fun _ _ held => ⟨held.1, held.2, held.3⟩) ?_
  · intro threadCount
    refine ⟨?_, ?_, fun _ _ => rfl⟩
    · intro thread
      simp [initial, Frame.held]
    · intro thread context named
      cases named
  · intro s thread effect after _ surroundings known moves
    refine ⟨surroundings.locked.move moves, surroundings.running_move moves, ?_⟩
    intro other late
    have late : s.threadCount ≤ other := by simpa [perform, goto] using late
    rw [perform_threads_other s thread effect after (by omega)]
    exact surroundings.outside other late

theorem reachable_sound (waiter : Nat) : (s.profile waiter).Sound := by
  refine invariant_of_moves (fun s => (s.profile waiter).Sound) reached ?_
    (fun _ _ sound => sound) ?_
  · intro threadCount
    refine ⟨⟨.unborn, ?_⟩, ⟨?_, ?_, ?_⟩, ?_, ?_⟩
    · exact ⟨rfl, rfl, rfl, rfl, rfl, rfl, rfl, rfl⟩
    · intro thread rejection selected
      cases selected
    · intro cancellable
      cases cancellable
    · intro armed
      cases armed
    · rfl
    · rfl
  · intro s thread effect after before sound _ moves
    rcases moves.turn (reachable_surroundings before) waiter with same | turn
    · rw [same]
      exact sound
    · exact sound.turn turn

end

end Menagerie.Starling.Pool
