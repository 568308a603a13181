import Menagerie.Library.ServiceOrder
import Menagerie.Starling.Pool.Gate
import Menagerie.Starling.Pool.History
import Menagerie.Starling.Pool.Ownership

/-!
# Waiters are served in order and once

The history records who registered, who was selected and what became of assigned slots. The
queue is served from its front, every waiter leaves `queued` once, and the slot of an assigned
waiter becomes one `Borrowed`.
-/

namespace Menagerie.Starling.Pool

open Function State List

theorem State.apply_node_state (s : State) (thread : Nat) {effect : Effect}
    (prior : Prior s effect) (waiter : Nat) :
    ((s.apply thread effect).nodes waiter).state = match effect.selection with
      | some (node, state) => if waiter = node then state else (s.nodes waiter).state
      | none => (s.nodes waiter).state := by
  by_cases allocates : ∃ request connected, effect = .allocate request connected
  · obtain ⟨request, connected, rfl⟩ := allocates
    change (update s.nodes s.nodeCount _ waiter).state = (s.nodes waiter).state
    by_cases same : waiter = s.nodeCount
    · rw [same, update_self, show s.nodes s.nodeCount = {} from prior]
    · rw [update_of_ne same]
  clear prior
  fun_cases apply s thread effect
  all_goals first
    | exact absurd ⟨_, _, rfl⟩ allocates
    | (rw [addResult_eq]
       simp only [log, finishNode, removeNode, setNode, setContext,
        update_apply, apply_ite WaiterNode.state, Effect.selection])
    | rfl
    | simp only [log, unlinkWaiter, completeWaiter, finishNode,
        removeNode, setNode, setContext, update_apply,
        apply_ite WaiterNode.state, Effect.selection]
  all_goals
    split_ifs with same
    all_goals simp_all

/-- The queue serves in order and the history records it. -/
structure Served (s : State) : Prop where
  order : ServiceOrder.InOrder (registrants s.history) (assignees s.history) s.waiters
  passed : ∀ waiter ∈ registrants s.history, waiter ∈ s.waiters ∨ selections s.history waiter ≠ []
  recorded : ∀ waiter, selections s.history waiter =
    if (s.nodes waiter).state = .queued then [] else [(s.nodes waiter).state]
  fifo : ∀ earlier later waiter, s.history = earlier ++ .selected waiter .assigned :: later →
    waiter ∈ registrants earlier → ∀ other, [other, waiter].Sublist (registrants earlier) →
    selections earlier other ≠ []

section Served

variable {s : State} {thread : Nat} {effect : Effect} {after : Frame}

theorem Moves.assign_front {waiter index : Nat} {frame : Frame}
    (moves : Moves s frame (.assign waiter index) after) :
    ∃ rest, s.waiters = waiter :: rest := by
  cases moves with
  | began operation outside moved =>
    revert moved
    fun_cases start s operation
    all_goals rintro ⟨⟩
  | continued choice moved =>
    revert moved
    fun_cases next s choice frame
    all_goals rintro ⟨⟩
    exact ⟨_, ‹_›⟩

theorem NodeMove.entering {v later : View} {waiter : Nat}
    (sound : ∀ waiter, (s.profile waiter).Sound) (viewed : (s.threads thread).view = v)
    (move : NodeMove s v effect later)
    (enters : (∃ armed, effect = .link waiter armed) ∨ effect = .linkFailed waiter ∨
      ∃ index, effect = .selfAssign waiter index) :
    (s.nodes waiter).state = .queued ∧ waiter ∉ s.waiters := by
  have owner : ∀ kind, v.stake = some (waiter, .entering kind) →
      (s.nodes waiter).state = .queued ∧ waiter ∉ s.waiters := by
    intro kind owned
    obtain ⟨phase, fits⟩ := (sound waiter).fits
    obtain ⟨-, unlinked, queued⟩ := fits.entering (owner_of_view viewed owned)
    exact ⟨queued, count_eq_zero.mp unlinked⟩
  cases move with
  | quiet silent | finish silent =>
    rcases enters with ⟨_, rfl⟩ | rfl | ⟨_, rfl⟩
    all_goals cases silent
  | linkSync node owned =>
    rcases enters with ⟨_, same⟩ | same | ⟨_, same⟩ <;> cases same
    exact owner .sync owned
  | linkAsync node armed owned | linkFailed node owned | selfAssign node index owned =>
    rcases enters with ⟨_, same⟩ | same | ⟨_, same⟩ <;> cases same
    exact owner .async owned
  | _ => rcases enters with ⟨_, same⟩ | same | ⟨_, same⟩ <;> cases same

theorem Prior.selects {node : Nat} {state : WaiterState} (prior : Prior s effect)
    (selects : effect.selection = some (node, state)) :
    (s.nodes node).state = .queued ∧ state ≠ .queued := by
  cases effect with
  | linkFailed waiter =>
    cases selects
    exact ⟨prior, by decide⟩
  | unlink waiter rejection | complete waiter rejection | settle waiter rejection =>
    cases selects
    exact ⟨prior, rejection.state_ne_queued⟩
  | assign waiter index | selfAssign waiter index =>
    cases selects
    exact ⟨prior.2, by decide⟩
  | _ => cases selects

theorem Served.recorded_move (served : Served s) (prior : Prior s effect) (waiter : Nat) :
    selections (s.apply thread effect).history waiter =
      if ((s.apply thread effect).nodes waiter).state = .queued then []
      else [((s.apply thread effect).nodes waiter).state] := by
  rw [s.apply_history, selections_append, s.emits_selections, s.apply_node_state thread prior,
    served.recorded waiter]
  cases selects : effect.selection with
  | none => simp
  | some named =>
    obtain ⟨node, state⟩ := named
    obtain ⟨queued, chosen⟩ := prior.selects selects
    by_cases same : waiter = node
    · subst same
      simp [queued, chosen]
    · simp [same, Ne.symm same]

section

variable {waiter : Nat}

/-- Whoever leaves the queue was selected. -/
theorem State.waiters_of_apply (s : State) (thread : Nat) (effect : Effect)
    (linked : waiter ∈ s.waiters) :
    waiter ∈ (s.apply thread effect).waiters ∨
      ∃ state, effect.selection = some (waiter, state) := by
  by_cases touched : effect.onQueue = false
  · rw [(s.apply_queue thread touched).1]
    exact .inl linked
  have leaves : ∀ node state, effect.selection = some (node, state) →
      (waiter ≠ node → waiter ∈ (s.apply thread effect).waiters) →
      waiter ∈ (s.apply thread effect).waiters ∨
        ∃ state, effect.selection = some (waiter, state) := by
    intro node state selects stays
    by_cases same : waiter = node
    · exact .inr ⟨state, by rw [same]; exact selects⟩
    · exact .inl (stays same)
  cases effect with
  | raiseGate | lowerGate => exact .inl linked
  | link node armed => exact .inl (mem_append_left _ linked)
  | linkFailed node =>
    refine leaves node .cancelled rfl fun differs => ?_
    exact (mem_erase_of_ne differs).mpr (mem_append_left _ linked)
  | unlink node _ | complete node _ | assign node _ =>
    exact leaves node _ rfl fun differs => (mem_erase_of_ne differs).mpr linked
  | _ => exact absurd rfl touched

theorem State.selections_of_selects {state : WaiterState}
    (selects : effect.selection = some (waiter, state)) :
    selections (s.apply thread effect).history waiter ≠ [] := by
  rw [s.apply_history, selections_append, s.emits_selections, selects]
  simp

theorem Served.passed_move (served : Served s)
    (registered : waiter ∈ registrants (s.apply thread effect).history) :
    waiter ∈ (s.apply thread effect).waiters ∨
      selections (s.apply thread effect).history waiter ≠ [] := by
  rw [s.apply_history, registrants_append, mem_append] at registered
  rcases registered with before | now
  · rcases served.passed waiter before with linked | chosen
    · rcases s.waiters_of_apply thread effect linked with still | ⟨state, selects⟩
      · exact .inl still
      · exact .inr (selections_of_selects selects)
    · right
      rw [s.apply_history, selections_append]
      simp [chosen]
  · rw [s.emits_registrants] at now
    cases effect with
    | link node armed =>
      rw [mem_singleton.mp now]
      exact .inl (mem_append_right s.waiters (mem_singleton_self node))
    | linkFailed node =>
      rw [mem_singleton.mp now]
      exact .inr (selections_of_selects rfl)
    | _ => cases now

theorem Served.unregistered (served : Served s)
    (waiting : (s.nodes waiter).state = .queued ∧ waiter ∉ s.waiters) :
    waiter ∉ registrants s.history ∧ selections s.history waiter = [] := by
  have unselected : selections s.history waiter = [] := by
    rw [served.recorded waiter, if_pos waiting.1]
  refine ⟨?_, unselected⟩
  intro registered
  exact (served.passed waiter registered).elim waiting.2 (fun chosen => chosen unselected)

end

theorem Served.order_move (served : Served s) (sound : ∀ waiter, (s.profile waiter).Sound)
    (moves : Moves s (s.threads thread) effect after) :
    ServiceOrder.InOrder (registrants (s.apply thread effect).history)
      (assignees (s.apply thread effect).history) (s.apply thread effect).waiters := by
  have node := moves.node
  have registered := s.emits_registrants thread effect
  have assigned := s.emits_assignees thread effect
  rw [s.apply_history, registrants_append, registered]
  -- An effect that registers and assigns nobody.
  have plain : (s.emits thread effect).filterMap Event.assignee = [] →
      registrants (s.emits thread effect) = [] →
      assignees (s.history ++ s.emits thread effect) = assignees s.history := by
    intro none unregistered
    rw [assignees_append unregistered, none]
    simp
  cases effect with
  | link waiter armed =>
    obtain ⟨fresh, unselected⟩ :=
      served.unregistered (node.entering sound rfl (.inl ⟨armed, rfl⟩))
    rw [assignees_register unselected registered assigned]
    exact served.order.arrive fresh
  | linkFailed waiter =>
    have waiting := node.entering sound rfl (.inr (.inl rfl))
    obtain ⟨fresh, unselected⟩ := served.unregistered waiting
    have queue : (s.apply thread (.linkFailed waiter)).waiters = s.waiters := by
      change (s.waiters ++ [waiter]).erase waiter = s.waiters
      rw [erase_append_right _ waiting.2]
      simp
    rw [assignees_register unselected registered assigned, queue]
    exact served.order.pass fresh
  | unlink waiter rejection | complete waiter rejection =>
    rw [plain assigned registered, append_nil]
    exact served.order.leave waiter
  | assign waiter index =>
    obtain ⟨rest, front⟩ := moves.assign_front
    have order := served.order
    rw [front] at order
    have queue : (s.apply thread (.assign waiter index)).waiters = rest := by
      change s.waiters.erase waiter = rest
      rw [front, erase_cons_head]
    have known : waiter ∈ registrants s.history :=
      order.ordered.subset (mem_append_right _ (mem_cons_self ..))
    rw [assignees_append registered, assigned, append_nil, queue]
    simp only [filter_singleton, known, decide_true, cond_true]
    exact order.serve
  | selfAssign waiter index =>
    obtain ⟨fresh, -⟩ := served.unregistered (node.entering sound rfl (.inr (.inr ⟨index, rfl⟩)))
    rw [assignees_append registered, assigned, append_nil]
    simp only [filter_singleton, fresh, decide_false, cond_false, append_nil]
    exact served.order
  | raiseGate | lowerGate =>
    rw [plain assigned registered, append_nil]
    exact served.order
  | _ =>
    rw [plain assigned registered, append_nil, (s.apply_queue thread ?_).1]
    · exact served.order
    · rfl

theorem State.emits_assigned {earlier later : List Event} {waiter : Nat}
    (split : s.emits thread effect = earlier ++ .selected waiter .assigned :: later) :
    earlier = [] ∧ ((∃ index, effect = .assign waiter index) ∨
      ∃ index, effect = .selfAssign waiter index) := by
  have named := s.emits_assignees thread effect
  have count : waiter ∈ (s.emits thread effect).filterMap Event.assignee := by
    rw [split]
    simp [Event.assignee]
  rw [named] at count
  cases effect with
  | assign node index | selfAssign node index =>
    rw [mem_singleton.mp count]
    refine ⟨?_, by simp⟩
    have length := congrArg length split
    simp only [emits, length_append, length_cons, length_nil] at length
    exact length_eq_zero_iff.mp (by omega)
  | _ => cases count

theorem Served.fifo_move (served : Served s) (sound : ∀ waiter, (s.profile waiter).Sound)
    (moves : Moves s (s.threads thread) effect after) {earlier later : List Event} {waiter : Nat}
    (split : (s.apply thread effect).history = earlier ++ .selected waiter .assigned :: later)
    (registered : waiter ∈ registrants earlier) {other : Nat}
    (before : [other, waiter].Sublist (registrants earlier)) : selections earlier other ≠ [] := by
  have now : ∀ rest, s.emits thread effect = .selected waiter .assigned :: rest →
      earlier = s.history → selections earlier other ≠ [] := by
    rintro rest emitted rfl
    have front : s.emits thread effect = [] ++ .selected waiter .assigned :: rest := emitted
    obtain ⟨-, ⟨index, rfl⟩ | ⟨index, rfl⟩⟩ := emits_assigned front
    · obtain ⟨rest, front⟩ := moves.assign_front
      have order := served.order
      rw [front] at order
      have gone := order.passed before
      rw [← front] at gone
      exact (served.passed other (before.subset (mem_cons_self ..))).resolve_left gone
    · have waiting := moves.node.entering sound rfl (.inr (.inr ⟨index, rfl⟩))
      exact absurd registered (served.unregistered waiting).1
  rw [s.apply_history] at split
  rcases append_eq_append_iff.mp split with ⟨middle, here, emitted⟩ | ⟨middle, here, there⟩
  · obtain ⟨rfl, -⟩ := emits_assigned emitted
    exact now later emitted (by rw [here, append_nil])
  · cases middle with
    | nil => exact now later there.symm (by rw [here, append_nil])
    | cons event middle =>
      obtain ⟨rfl, -⟩ := cons.inj there
      exact served.fifo earlier middle waiter here registered other before

theorem Served.move (served : Served s) (sound : ∀ waiter, (s.profile waiter).Sound)
    (moves : Moves s (s.threads thread) effect after) :
    Served (s.perform thread (effect, after)) where
  order := served.order_move sound moves
  passed _ registered := served.passed_move registered
  recorded := served.recorded_move (moves.node.prior sound rfl)
  fifo _ _ _ split registered _ before := served.fifo_move sound moves split registered before

end Served

theorem reachable_served {capacity : Nat} {s : State} (reached : (system capacity).Reachable s) :
    Served s := by
  refine invariant_of_moves Served reached ?_
    (fun _ _ served => ⟨served.order, served.passed, served.recorded, served.fifo⟩) ?_
  · intro threadCount
    refine ⟨ServiceOrder.InOrder.empty, nofun, fun _ => rfl, ?_⟩
    intro earlier later waiter split
    have length := congrArg length split
    simp [initial] at length
  · intro s thread effect after before served _ moves
    exact served.move (reachable_sound before) moves

section Completion

variable {capacity : Nat} {s s' : State}

theorem front_of_assigned (reached : (system capacity).Reachable s) {action : Action}
    (stepped : step s action = some s') {waiter : Nat} (linked : waiter ∈ s.waiters)
    (assigned : (s'.nodes waiter).state = .assigned) : s.waiters.head? = some waiter := by
  have sound := reachable_sound reached
  have queued := (queued_of_linked sound linked).2
  obtain ⟨now, -, rfl⟩ | ⟨thread, effect, after, -, moves, rfl⟩ := step_cases stepped
  · have still : (s.nodes waiter).state = .assigned := assigned
    rw [queued] at still
    cases still
  · have state := s.apply_node_state thread (moves.node.prior sound rfl) waiter
    have after : ((s.apply thread effect).nodes waiter).state = .assigned := assigned
    rw [after, queued] at state
    have selects : effect.selection = some (waiter, .assigned) := by
      split at state
      · rename_i node chosen named
        split_ifs at state with same
        rw [named, same, state]
      · cases state
    cases effect with
    | assign node index =>
      cases selects
      obtain ⟨rest, front⟩ := moves.assign_front
      rw [front]
      rfl
    | selfAssign node index =>
      cases selects
      exact absurd linked (moves.node.entering sound rfl (.inr (.inr ⟨index, rfl⟩))).2
    | unlink node rejection | complete node rejection | settle node rejection =>
      exact absurd (Prod.mk.inj (Option.some.inj selects)).2 rejection.state_ne_assigned
    | _ => cases selects

/-- What an event about an assigned slot means: the slot becomes a `Borrowed`, or the thread is
about to return it. -/
def Event.Disposes (s s' : State) : Event → Prop
  | .handed waiter token => (s.nodes waiter).state = .assigned ∧ s.borrowed token = .absent ∧
      s'.borrowed token = .live (s.nodes waiter).assignedSlot
  | .givenBack waiter index => (s.nodes waiter).state = .assigned ∧
      index = (s.nodes waiter).assignedSlot ∧
      ∃ thread after, s'.threads thread = .giveBack index after
  | _ => True

theorem State.completion_disposes {waiter thread : Nat} {effect : Effect} {after : Frame}
    (completes : effect = .hand waiter ∨ effect = .deliver waiter)
    (tokens : s.BorrowedTokens) {event : Event} (emitted : event ∈ s.completionEvents waiter) :
    event.Disposes s (s.perform thread (effect, after)) := by
  have created : (s.perform thread (effect, after)).borrowed = (s.addResult waiter).borrowed := by
    rcases completes with rfl | rfl
    · exact (s.hand_borrowed thread waiter).1
    · exact (s.deliver_borrowed thread waiter).1
  unfold completionEvents at emitted
  cases outcome : (s.nodes waiter).result with
  | none =>
    rw [outcome] at emitted
    cases emitted
  | some result =>
    rw [outcome] at emitted
    cases result with
    | error error =>
      rw [mem_singleton.mp emitted]
      trivial
    | ok index =>
      obtain ⟨assigned, here⟩ := WaiterNode.result_ok outcome
      rcases mem_cons.mp emitted with rfl | returned
      · refine ⟨assigned, tokens.fresh _ le_rfl, ?_⟩
        rw [created, addResult, outcome, here]
        exact update_self ..
      · rw [mem_singleton.mp returned]
        trivial

theorem Moves.returns_slot {frame after : Frame} {effect : Effect} {waiter : Nat}
    (moves : Moves s frame effect after)
    (returns : effect = .takeBack waiter ∨ effect = .abandonSlot waiter) :
    (s.nodes waiter).state = .assigned ∧
      ∃ next, after = .giveBack (s.nodes waiter).assignedSlot next := by
  cases moves with
  | began operation outside moved =>
    revert moved
    fun_cases start s operation
    all_goals rintro ⟨⟩
    all_goals rcases returns with other | other <;> cases other
  | continued choice moved =>
    revert moved
    fun_cases next s choice frame
    all_goals rintro ⟨⟩
    all_goals rcases returns with other | other <;> cases other
    all_goals
      obtain ⟨assigned, here⟩ := WaiterNode.result_ok ‹_›
      exact ⟨assigned, _, by rw [here]⟩

/-- Every step records what it does with assigned slots. -/
theorem step_disposes (reached : (system capacity).Reachable s) {action : Action}
    (stepped : step s action = some s') :
    ∃ events, s'.history = s.history ++ events ∧ ∀ event ∈ events, event.Disposes s s' := by
  obtain ⟨now, -, rfl⟩ | ⟨thread, effect, after, -, moves, rfl⟩ := step_cases stepped
  · exact ⟨[], (append_nil _).symm, nofun⟩
  refine ⟨s.emits thread effect, s.apply_history thread effect, ?_⟩
  intro event emitted
  have returned : ∀ waiter, effect = .takeBack waiter ∨ effect = .abandonSlot waiter →
      event = .givenBack waiter (s.nodes waiter).assignedSlot →
      event.Disposes s (s.perform thread (effect, after)) := by
    rintro waiter returns rfl
    obtain ⟨assigned, next, rfl⟩ := moves.returns_slot returns
    exact ⟨assigned, rfl, thread, next, s.perform_threads_self thread effect _⟩
  have tokens := (reachable_tokens reached).1
  cases effect with
  | hand waiter => exact completion_disposes (.inl rfl) tokens emitted
  | deliver waiter => exact completion_disposes (.inr rfl) tokens emitted
  | takeBack waiter => exact returned waiter (.inl rfl) (mem_singleton.mp emitted)
  | abandonSlot waiter => exact returned waiter (.inr rfl) (mem_singleton.mp emitted)
  | linkFailed waiter =>
    rcases mem_cons.mp emitted with rfl | settled
    · trivial
    · rw [mem_singleton.mp settled]
      trivial
  | reserveVacant | reserveQuarantined =>
    simp only [emits] at emitted
    split at emitted
    · cases emitted
    · rw [mem_singleton.mp emitted]
      trivial
  | give | reserveIdle | link | unlink | complete | settle | assign | selfAssign | newBorrowed
  | endPublish =>
    rw [mem_singleton.mp emitted]
    trivial
  | _ => cases emitted

/-- At rest, an assigned waiter that is still pending has its completion posted on a running
executor. -/
theorem posted_at_rest (reached : (system capacity).Reachable s)
    (rest : ∀ thread, s.threads thread = .ready) {waiter : Nat}
    (pending : (s.nodes waiter).pending = true) (assigned : (s.nodes waiter).state = .assigned) :
    (s.nodes waiter).posted = 1 ∧
      (s.contexts (s.nodes waiter).context).stopping = false := by
  obtain ⟨phase, fits⟩ := (reachable_sound reached waiter).fits
  have unowned : ∀ thread, (s.profile waiter).owner thread = none := by
    intro thread
    simp [profile, rest thread, Frame.view, Frame.stake, Frame.continuation]
  have unnotified : ∀ thread, (s.profile waiter).notifies thread = false := by
    intro thread
    simp [profile, rest thread, Frame.view, Frame.notifies]
  have kept : ∀ thread, (s.profile waiter).abandons thread = 0 := by
    intro thread
    simp [profile, rest thread, Frame.view, Frame.abandons, Frame.continuation]
  have owned : ∀ thread stage, (s.profile waiter).OwnedBy thread stage → False := by
    intro thread stage owned
    have none := unowned thread
    rw [owned, update_self] at none
    cases none
  cases phase with
  | unborn =>
    have fresh : s.nodes waiter = {} := fits.2.1
    rw [fresh] at pending
    cases pending
  | waits thread stage => exact (owned thread stage fits.2.2.2.2.2.2.2).elim
  | starts thread stage => exact (owned thread stage fits.2.2.2.2.2.2).elim
  | queued =>
    have queued : (s.nodes waiter).state = .queued := fits.2.2.2.2.2.2.1
    rw [queued] at assigned
    cases assigned
  | chosen thread =>
    have none := unnotified thread
    rw [fits.2.2.2.2.1, update_self] at none
    cases none
  | posted => exact ⟨fits.2.2.2.1, fits.2.1.2.2.1⟩
  | ended =>
    have ended : (s.nodes waiter).pending = false := fits.2.1
    rw [ended] at pending
    cases pending
  | abandoned thread =>
    have none := kept thread
    rw [fits.2.2.2.2.2.2.1, update_self] at none
    cases none

theorem Served.skipped (served : Served s) {earlier later : List Event} {waiter other : Nat}
    (split : s.history = earlier ++ .selected waiter .assigned :: later)
    (registered : waiter ∈ registrants earlier)
    (before : [other, waiter].Sublist (registrants earlier)) :
    .selected other .assigned ∈ earlier ∨
      ∃ rejection : Rejection, .selected other rejection.state ∈ earlier := by
  have chosen := served.fifo earlier later waiter split registered other before
  obtain ⟨state, selected⟩ := exists_mem_of_ne_nil _ chosen
  have recorded : state ∈ selections s.history other := by
    rw [split, selections_append]
    exact mem_append_left _ selected
  have decided : state ≠ .queued := by
    rintro rfl
    rw [served.recorded other] at recorded
    split_ifs at recorded with waiting
    · cases recorded
    · exact waiting (mem_singleton.mp recorded).symm
  have event := event_of_selection selected
  rcases WaiterState.selected_cases decided with rfl | ⟨rejection, rfl⟩
  · exact .inl event
  · exact .inr ⟨rejection, event⟩

/-- A parked waiter is assigned a slot only at the head of the list, so everyone registered before
had been assigned or rejected by then. Every waiter leaves `queued` once, and its slot becomes
exactly one `Borrowed`; at rest, only a completion that waits for its executor is outstanding. -/
theorem waiters_completed_in_order_once (reached : (system capacity).Reachable s) :
    (∀ action s', step s action = some s' → ∀ waiter ∈ s.waiters,
      (s'.nodes waiter).state = .assigned → s.waiters.head? = some waiter) ∧
    (registrants s.history).Nodup ∧ (assignees s.history).Sublist (registrants s.history) ∧
    (∀ earlier later waiter, s.history = earlier ++ .selected waiter .assigned :: later →
      waiter ∈ registrants earlier → ∀ other, [other, waiter].Sublist (registrants earlier) →
      .selected other .assigned ∈ earlier ∨
        ∃ rejection : Rejection, .selected other rejection.state ∈ earlier) ∧
    (∀ waiter, selections s.history waiter =
      if (s.nodes waiter).state = .queued then [] else [(s.nodes waiter).state]) ∧
    (∀ waiter, s.history.countP (Event.delivers waiter) =
      if (s.nodes waiter).pending = false ∧ (s.nodes waiter).state = .assigned then 1 else 0) ∧
    (∀ action s', step s action = some s' →
      ∃ events, s'.history = s.history ++ events ∧ ∀ event ∈ events, event.Disposes s s') ∧
    ((∀ thread, s.threads thread = .ready) → ∀ waiter, (s.nodes waiter).pending = true →
      (s.nodes waiter).state = .assigned → (s.nodes waiter).posted = 1 ∧
        (s.contexts (s.nodes waiter).context).stopping = false) := by
  have served := reachable_served reached
  refine ⟨?_, served.order.once, ?_, ?_, served.recorded, ?_, ?_, ?_⟩
  · intro action s' stepped waiter linked assigned
    exact front_of_assigned reached stepped linked assigned
  · exact (sublist_append_left _ _).trans served.order.ordered
  · intro earlier later waiter split registered other before
    exact served.skipped split registered before
  · intro waiter
    exact (reachable_sound reached waiter).counted.deliveries
  · intro action s' stepped
    exact step_disposes reached stepped
  · intro rest waiter pending assigned
    exact posted_at_rest reached rest pending assigned

set_option maxRecDepth 4000 in
/-- A parked thread is handed the slot that another one releases. -/
theorem parked_thread_completed_once : ∃ s, (system 1).Reachable s ∧
    assignees s.history = [0] ∧ s.borrowed 1 = .live 0 ∧
    s.history.countP (Event.delivers 0) = 1 ∧ selections s.history 0 = [.assigned] := by
  refine (system 1).exists_reachable ⟨2, rfl⟩ (publishing ++ turns 0 .tryAcquire 5 ++
    turns 1 .acquire 10 ++ turns 0 (.release 0) 5 ++ [.step 1 {}, .step 1 {}])
    ⟨_, rfl, fun reached => ?_⟩
  obtain ⟨-, -, -, -, recorded, counted, -⟩ := waiters_completed_in_order_once reached
  exact ⟨rfl, rfl, counted 0, recorded 0⟩

end Completion

end Menagerie.Starling.Pool
