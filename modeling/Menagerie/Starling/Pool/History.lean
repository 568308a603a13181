import Menagerie.Starling.Pool.Program

/-!
# What callers observe

The history of a pool grows by the events of each effect. `State.emits` lists them, so that a
statement about everything that callers have seen is proved one step at a time.
-/

namespace Menagerie.Starling.Pool

open List

namespace State

/-- The events of an effect. -/
def emits (s : State) (thread : Nat) : Effect → List Event
  | .give outcome => [.returned (s.late thread) outcome]
  | .reserveVacant =>
    match s.vacant.getLast? with
    | none => []
    | some _ => [.returned (s.late thread) (.reserved s.reservedTokens)]
  | .reserveQuarantined =>
    match s.quarantined.getLast? with
    | none => []
    | some _ => [.returned (s.late thread) (.reserved s.reservedTokens)]
  | .reserveIdle _ => [.returned (s.late thread) (.reserved s.reservedTokens)]
  | .link waiter _ => [.registered waiter]
  | .linkFailed waiter => [.registered waiter, .selected waiter .cancelled]
  | .unlink waiter rejection | .complete waiter rejection | .settle waiter rejection =>
    [.selected waiter rejection.state]
  | .assign waiter _ | .selfAssign waiter _ => [.selected waiter .assigned]
  | .takeBack waiter | .abandonSlot waiter =>
    [.givenBack waiter (s.nodes waiter).assignedSlot]
  | .hand waiter | .deliver waiter => s.completionEvents waiter
  | .newBorrowed _ => [.returned (s.late thread) (.borrowed s.borrowedCount)]
  | .endPublish _ => [.returned (s.late thread) (.published true)]
  | _ => []

theorem apply_history (s : State) (thread : Nat) (effect : Effect) :
    (s.apply thread effect).history = s.history ++ s.emits thread effect := by
  fun_cases apply s thread effect
  all_goals first
    | (rw [addResult_eq]
       simp only [emits, log, finishNode, removeNode, setNode, setContext])
    | (simp only [emits, log, unlinkWaiter, completeWaiter, setNode, append_assoc,
        cons_append, nil_append]; done)
    | exact (append_nil _).symm
    | rfl
    | simp [emits, log, addReserved, setReserved, setSlot, *]

/-- The flags of a pool and of its callers. -/
structure Marks where
  closed : Bool
  late : Nat → Bool
  shutdownReturned : Bool

/-- The flags in a state. -/
def marks (s : State) : Marks where
  closed := s.closed
  late := s.late
  shutdownReturned := s.shutdownReturned

end State

/-- The effects on the flags. -/
def Effect.onMarks : Effect → Bool
  | .enter | .close | .closeDone => true
  | _ => false

namespace State

variable {s : State} {thread : Nat} {effect : Effect}

theorem apply_marks (s : State) (thread : Nat) {effect : Effect}
    (other : effect.onMarks = false) : (s.apply thread effect).marks = s.marks := by
  revert other
  fun_cases apply s thread effect
  all_goals intro other
  all_goals first
    | (rw [addResult_eq]
       simp only [marks, log, finishNode, removeNode, setNode, setContext])
    | (simp only [marks, log, unlinkWaiter, completeWaiter, setNode]; done)
    | cases other; done
    | rfl

theorem apply_closed (other : effect ≠ .close) : (s.apply thread effect).closed = s.closed := by
  by_cases touched : effect.onMarks = false
  · exact congrArg Marks.closed (s.apply_marks thread touched)
  cases effect with
  | close => exact absurd rfl other
  | enter | closeDone => rfl
  | _ => exact absurd rfl touched

theorem closed_of_apply (still : (s.apply thread effect).closed = false) : s.closed = false := by
  by_cases closes : effect = .close
  · subst closes
    cases still
  · rw [← apply_closed closes]
    exact still

/-- Only the start of a call changes when it began. -/
theorem apply_late (other : effect ≠ .enter) : (s.apply thread effect).late = s.late := by
  by_cases touched : effect.onMarks = false
  · exact congrArg Marks.late (s.apply_marks thread touched)
  cases effect with
  | enter => exact absurd rfl other
  | close | closeDone => rfl
  | _ => exact absurd rfl touched

theorem apply_shutdownReturned (other : effect ≠ .closeDone) :
    (s.apply thread effect).shutdownReturned = s.shutdownReturned := by
  by_cases touched : effect.onMarks = false
  · exact congrArg Marks.shutdownReturned (s.apply_marks thread touched)
  cases effect with
  | closeDone => exact absurd rfl other
  | close | enter => rfl
  | _ => exact absurd rfl touched

end State

def Event.registrant : Event → Option Nat
  | .registered waiter => some waiter
  | _ => none

def Event.assignee : Event → Option Nat
  | .selected waiter .assigned => some waiter
  | _ => none

/-- The state for which a waiter leaves `queued`. -/
def Event.selection (waiter : Nat) : Event → Option WaiterState
  | .selected other state => if other = waiter then some state else none
  | _ => none

/-- The registered waiters of a history, in order. -/
def registrants (history : List Event) : List Nat := history.filterMap Event.registrant

/-- The registered waiters that were assigned a slot, in order. -/
def assignees (history : List Event) : List Nat :=
  (history.filterMap Event.assignee).filter (· ∈ registrants history)

/-- The states for which a waiter has left `queued`. -/
def selections (history : List Event) (waiter : Nat) : List WaiterState :=
  history.filterMap (Event.selection waiter)

/-- What an effect selects. -/
def Effect.selection : Effect → Option (Nat × WaiterState)
  | .linkFailed waiter => some (waiter, .cancelled)
  | .unlink waiter rejection | .complete waiter rejection | .settle waiter rejection =>
    some (waiter, rejection.state)
  | .assign waiter _ | .selfAssign waiter _ => some (waiter, .assigned)
  | _ => none

theorem State.completion_selections (s : State) (node waiter : Nat) :
    selections (s.completionEvents node) waiter = [] ∧
      registrants (s.completionEvents node) = [] ∧
      (s.completionEvents node).filterMap Event.assignee = [] := by
  unfold State.completionEvents
  split
  all_goals exact ⟨rfl, rfl, rfl⟩

theorem selections_selected (node waiter : Nat) (state : WaiterState) :
    selections [.selected node state] waiter = if node = waiter then [state] else [] := by
  by_cases same : node = waiter
  · simp [selections, Event.selection, same]
  · simp [selections, Event.selection, same]

section

variable (s : State) (thread : Nat) (effect : Effect)

include s thread effect

theorem State.emits_selections (waiter : Nat) :
    selections (s.emits thread effect) waiter = match effect.selection with
      | some (node, state) => if node = waiter then [state] else []
      | none => [] := by
  fun_cases State.emits s thread effect
  all_goals first
    | exact (s.completion_selections _ waiter).1
    | exact selections_selected _ waiter _
    | rfl
    | (cases effect <;> first | rfl | simp_all)

theorem State.emits_registrants :
    registrants (s.emits thread effect) = match effect with
      | .link waiter _ | .linkFailed waiter => [waiter]
      | _ => [] := by
  fun_cases State.emits s thread effect
  all_goals first
    | exact (s.completion_selections _ 0).2.1
    | rfl
    | (cases effect <;> first | rfl | simp_all)

theorem State.emits_assignees :
    (s.emits thread effect).filterMap Event.assignee = match effect with
      | .assign waiter _ | .selfAssign waiter _ => [waiter]
      | _ => [] := by
  fun_cases State.emits s thread effect
  all_goals first
    | exact (s.completion_selections _ 0).2.2
    | rfl
    | (cases ‹Rejection› <;> rfl)
    | (cases effect <;> first | rfl | simp_all)

end

theorem WaiterState.selected_cases {state : WaiterState} (chosen : state ≠ .queued) :
    state = .assigned ∨ ∃ rejection : Rejection, state = rejection.state := by
  cases state with
  | queued => exact absurd rfl chosen
  | assigned => exact .inl rfl
  | timeout => exact .inr ⟨.timeout, rfl⟩
  | cancelled => exact .inr ⟨.cancelled, rfl⟩
  | shutdown => exact .inr ⟨.shutdown, rfl⟩

section Histories

variable {history events : List Event} {waiter : Nat}

theorem registrants_append : registrants (history ++ events) =
    registrants history ++ registrants events :=
  filterMap_append

theorem selections_append : selections (history ++ events) waiter =
    selections history waiter ++ selections events waiter :=
  filterMap_append

theorem selections_of_assigned (assigned : waiter ∈ history.filterMap Event.assignee) :
    selections history waiter ≠ [] := by
  obtain ⟨event, member, named⟩ := mem_filterMap.mp assigned
  have chosen : .assigned ∈ selections history waiter := by
    refine mem_filterMap.mpr ⟨event, member, ?_⟩
    revert named
    fun_cases Event.assignee event
    · intro named
      simp [Event.selection, Option.some.inj named]
    · intro named
      cases named
  exact ne_nil_of_mem chosen

theorem event_of_selection {state : WaiterState}
    (chosen : state ∈ selections history waiter) : .selected waiter state ∈ history := by
  obtain ⟨event, member, named⟩ := mem_filterMap.mp chosen
  revert named
  fun_cases Event.selection waiter event
  · rintro ⟨⟩
    exact member
  · exact nofun
  · exact nofun

/-- Someone who was never selected changes no assignment. -/
theorem assignees_register (fresh : selections history waiter = [])
    (registered : registrants events = [waiter])
    (unassigned : events.filterMap Event.assignee = []) :
    assignees (history ++ events) = assignees history := by
  rw [assignees, assignees, filterMap_append, unassigned, append_nil, registrants_append,
    registered]
  refine filter_congr ?_
  intro other assigned
  have differs : other ≠ waiter := by
    rintro rfl
    exact selections_of_assigned assigned fresh
  simp [differs]

theorem assignees_append (unregistered : registrants events = []) :
    assignees (history ++ events) = assignees history ++
      (events.filterMap Event.assignee).filter (· ∈ registrants history) := by
  rw [assignees, assignees, filterMap_append, filter_append, registrants_append,
    unregistered, append_nil]

end Histories

end Menagerie.Starling.Pool
