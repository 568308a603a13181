import Menagerie.Starling.Pool.Lock

/-!
# Token objects

A `Borrowed` or `ReservedSlot` is used by at most one thread at a time: while a member
function runs on it the object is busy, and only the thread inside that function ends the use.
-/

namespace Menagerie.Starling.Pool

open Function State

/-- A table of token objects and the objects that threads are using. -/
structure Tokens {α : Type} (table : Nat → Handle α) (count : Nat) (user : Nat → Option Nat) :
    Prop where
  busy : ∀ thread token, user thread = some token → table token = .busy
  alone : ∀ left right token, user left = some token → user right = some token → left = right
  fresh : ∀ token, count ≤ token → table token = .absent

namespace Tokens

variable {α : Type} {table : Nat → Handle α} {count : Nat} {user : Nat → Option Nat}
  {token thread : Nat}

section

variable (tokens : Tokens table count user)

include tokens

theorem known (settled : (table token).settled = true) :
    token < count := by
  by_contra late
  rw [tokens.fresh token (by omega)] at settled
  cases settled

theorem unused (settled : (table token).settled = true) :
    ∀ thread, user thread ≠ some token := by
  intro thread used
  rw [tokens.busy thread token used] at settled
  cases settled

theorem keep {later : Nat} {user' : Nat → Option Nat} (grown : count ≤ later)
    (known : token < later)
    (used : ∀ other named, user' other = some named → user other = some named ∧ named ≠ token)
    (handle : Handle α) : Tokens (update table token handle) later user' where
  busy other named now := by
    obtain ⟨before, differs⟩ := used other named now
    rw [update_of_ne differs]
    exact tokens.busy other named before
  alone left right named first second :=
    tokens.alone left right named (used left named first).1 (used right named second).1
  fresh named late := by
    rw [update_of_ne (by omega)]
    exact tokens.fresh named (by omega)

theorem set (settled : (table token).settled = true) (handle : Handle α) :
    Tokens (update table token handle) count user := by
  refine tokens.keep (Nat.le_refl count) (tokens.known settled) ?_ handle
  intro other named used
  refine ⟨used, ?_⟩
  rintro rfl
  exact tokens.unused settled other used

theorem take (thread : Nat) (settled : (table token).settled = true) :
    Tokens (update table token .busy) count
      (update user thread (some token)) where
  busy other named used := by
    rcases update_apply_eq.mp used with ⟨-, ⟨⟩⟩ | ⟨-, used⟩
    · rw [update_self]
    · exact (tokens.set settled .busy).busy other named used
  alone left right named first second := by
    rcases update_apply_eq.mp first with ⟨here, ⟨⟩⟩ | ⟨-, first⟩
    · rcases update_apply_eq.mp second with ⟨there, -⟩ | ⟨-, second⟩
      · rw [here, there]
      · exact absurd second (tokens.unused settled right)
    · rcases update_apply_eq.mp second with ⟨-, ⟨⟩⟩ | ⟨-, second⟩
      · exact absurd first (tokens.unused settled left)
      · exact tokens.alone left right named first second
  fresh := (tokens.set settled .busy).fresh

theorem release (used : user thread = some token) (handle : Handle α) :
    Tokens (update table token handle) count
      (update user thread none) := by
  have known : token < count := by
    by_contra unknown
    have absent := tokens.fresh token (by omega)
    rw [tokens.busy thread token used] at absent
    cases absent
  refine tokens.keep (Nat.le_refl count) known ?_ handle
  intro other named later
  rcases update_apply_eq.mp later with ⟨-, ⟨⟩⟩ | ⟨elsewhere, before⟩
  refine ⟨before, ?_⟩
  rintro rfl
  exact elsewhere (tokens.alone other thread named before used)

theorem add (handle : Handle α) :
    Tokens (update table count handle) (count + 1) user := by
  refine tokens.keep (Nat.le_succ count) (Nat.lt_succ_self count) ?_ handle
  intro other named used
  refine ⟨used, ?_⟩
  rintro rfl
  have busy := tokens.busy other named used
  rw [tokens.fresh named (Nat.le_refl named)] at busy
  cases busy

end

end Tokens

/-- The `Borrowed` that a routine was called on. -/
def Return.borrowedToken : Return → Option Nat
  | .released token | .moveAssigned token _ => some token
  | _ => none

/-- The `ReservedSlot` that a routine was called on. -/
def Return.reservedToken : Return → Option Nat
  | .published token => some token
  | _ => none

/-- The `Borrowed` that a thread uses. -/
def Frame.borrowedToken (frame : Frame) : Option Nat :=
  frame.continuation.bind Return.borrowedToken

/-- The `ReservedSlot` that a thread uses. -/
def Frame.reservedToken (frame : Frame) : Option Nat :=
  frame.continuation.bind Return.reservedToken

/-- How an effect changes the use of a `Borrowed`. -/
def BorrowedFlow (s : State) (before after : Option Nat) : Effect → Prop
  | .takeToken token => (∃ index, s.borrowed token = .live index) ∧ before = none ∧
      after = some token
  | .clearToken token => before = some token ∧ after = none
  | .assignToken token source => (before = some token ∨ before = none ∧
      s.borrowed token = .empty) ∧ (s.borrowed source).settled = true ∧ after = none
  | .moveToken source => (s.borrowed source).settled = true ∧ after = before
  | _ => after = before

/-- How an effect changes the use of a `ReservedSlot`. -/
def ReservedFlow (s : State) (before after : Option Nat) : Effect → Prop
  | .startPublish token => (∃ slot, s.reserved token = .live slot) ∧ before = none ∧
      after = some token
  | .endPublish token => before = some token ∧ after = none
  | .rollback token | .construct token | .destroy token =>
    (∃ slot, s.reserved token = .live slot) ∧ after = before
  | .assignReserved token source => s.reserved token = .empty ∧
      (s.reserved source).settled = true ∧ after = before
  | .moveReserved source => (s.reserved source).settled = true ∧ after = before
  | _ => after = before

section

variable {s : State} {before after : Option Nat} {effect : Effect}

theorem BorrowedFlow.of_untouched (flow : BorrowedFlow s before after effect)
    (other : effect.onBorrowed = false) :
    after = before := by
  cases effect with
  | takeToken _ | clearToken _ | assignToken _ _ | moveToken _ => cases other
  | _ => exact flow

theorem ReservedFlow.of_untouched (flow : ReservedFlow s before after effect)
    (other : effect.onReserved = false) :
    after = before := by
  cases effect with
  | startPublish _ | endPublish _ | rollback _ | assignReserved _ _ | moveReserved _
  | construct _ | destroy _ => cases other
  | _ => exact flow

end

/-- The notification does not change where the selector returns. -/
theorem Selected.resume_continuation (selected : Selected) :
    selected.resume.continuation = selected.continuation := by
  fun_cases Selected.resume selected <;> rfl

/-- A `Borrowed` is used inside its member functions, a `ReservedSlot` inside `publish`. -/
theorem Moves.tokens {s : State} {frame after : Frame} {effect : Effect}
    (moves : Moves s frame effect after) :
    BorrowedFlow s frame.borrowedToken after.borrowedToken effect ∧
      ReservedFlow s frame.reservedToken after.reservedToken effect := by
  cases moves with
  | began operation outside moved =>
    subst outside
    revert moved
    fun_cases start s operation
    all_goals rintro ⟨⟩
    all_goals constructor
    all_goals first
      | rfl
      | exact ⟨⟨_, ‹_›⟩, rfl, rfl⟩
      | exact ⟨⟨_, ‹_›⟩, rfl⟩
      | exact ⟨‹_›, rfl⟩
      | exact ⟨.inr ⟨rfl, ‹_›⟩, ‹_›, rfl⟩
  | continued choice moved =>
    revert moved
    fun_cases next s choice frame
    all_goals rintro ⟨⟩
    all_goals constructor
    all_goals first
      | rfl
      | exact ⟨rfl, rfl⟩
      | exact ⟨.inl rfl, ‹_›, rfl⟩
      | exact ⟨⟨_, ‹_›⟩, rfl, rfl⟩
      | exact ⟨⟨_, ‹_›⟩, rfl⟩
      | exact ⟨And.left ‹_ ∧ _›, And.right ‹_ ∧ _›, rfl⟩
      | exact congrArg (Option.bind · _) (Selected.resume_continuation _)
      | (cases ‹Scan› <;> rfl)

/-- The use of `Borrowed` objects in a state. -/
def State.BorrowedTokens (s : State) : Prop :=
  Tokens s.borrowed s.borrowedCount (fun thread => (s.threads thread).borrowedToken)

/-- The use of `ReservedSlot` objects in a state. -/
def State.ReservedTokens (s : State) : Prop :=
  Tokens s.reserved s.reservedTokens (fun thread => (s.threads thread).reservedToken)

theorem State.perform_feature {β : Type} (feature : Frame → β) (s : State) (thread : Nat)
    (effect : Effect) (after : Frame) :
    (fun other => feature ((s.perform thread (effect, after)).threads other)) =
      update (fun other => feature (s.threads other)) thread (feature after) := by
  funext other
  by_cases same : other = thread
  · subst same
    simp
  · rw [perform_threads_other s thread effect after same, update_of_ne same]

section

variable {α : Type} {handle : Handle α}

theorem Handle.settled_of_live {value : α} (live : handle = .live value) :
    handle.settled = true := by
  rw [live]
  rfl

theorem Handle.settled_of_empty (empty : handle = .empty) :
    handle.settled = true := by
  rw [empty]
  rfl

/-- Changing an object to what it may become keeps another one settled. -/
theorem settled_update {table : Nat → Handle α} {token source : Nat}
    (settled : (table source).settled = true) (later : handle.settled = true) :
    (update table token handle source).settled = true := by
  rw [update_apply]
  split_ifs
  · exact later
  · exact settled

end

theorem State.BorrowedTokens.addResult {s : State} {user : Nat → Option Nat}
    (tokens : Tokens s.borrowed s.borrowedCount user) (waiter : Nat) :
    Tokens (s.addResult waiter).borrowed (s.addResult waiter).borrowedCount user := by
  unfold State.addResult
  split
  · exact tokens.add _
  · exact tokens

section

variable {s : State} {thread : Nat} {effect : Effect} {after : Frame}

theorem State.BorrowedTokens.move (tokens : s.BorrowedTokens)
    (moves : Moves s (s.threads thread) effect after) :
    (s.perform thread (effect, after)).BorrowedTokens := by
  have flow := moves.tokens.1
  rw [BorrowedTokens, perform_feature]
  change Tokens (s.apply thread effect).borrowed (s.apply thread effect).borrowedCount _
  by_cases touched : effect.onBorrowed = false
  · rw [flow.of_untouched touched, update_eq_self]
    obtain ⟨table, count⟩ := s.apply_borrowed thread effect touched
    rw [table, count]
    exact tokens
  cases effect with
  | takeToken token =>
    obtain ⟨⟨index, live⟩, -, used⟩ := flow
    rw [used]
    exact tokens.take thread (Handle.settled_of_live live)
  | clearToken token =>
    obtain ⟨used, ended⟩ := flow
    rw [ended]
    exact tokens.release used .empty
  | assignToken token source =>
    obtain ⟨start, settled, ended⟩ := flow
    rw [ended]
    rcases start with used | ⟨unused, empty⟩
    · have released := tokens.release used (s.borrowed source)
      exact released.set (settled_update settled settled) .empty
    · have assigned := (tokens.set (Handle.settled_of_empty empty) (s.borrowed source)).set
        (settled_update settled settled) .empty
      rw [← unused, update_eq_self]
      exact assigned
  | moveToken source =>
    obtain ⟨settled, same⟩ := flow
    rw [same, update_eq_self]
    exact (tokens.add (s.borrowed source)).set (settled_update settled settled) .empty
  | newBorrowed index =>
    rw [show after.borrowedToken = _ from flow, update_eq_self]
    exact tokens.add (.live index)
  | hand waiter =>
    obtain ⟨table, count⟩ := s.hand_borrowed thread waiter
    rw [show after.borrowedToken = _ from flow, update_eq_self, table, count]
    exact BorrowedTokens.addResult tokens waiter
  | deliver waiter =>
    obtain ⟨table, count⟩ := s.deliver_borrowed thread waiter
    rw [show after.borrowedToken = _ from flow, update_eq_self, table, count]
    exact BorrowedTokens.addResult tokens waiter
  | _ => exact absurd rfl touched

theorem State.ReservedTokens.move (tokens : s.ReservedTokens)
    (moves : Moves s (s.threads thread) effect after) :
    (s.perform thread (effect, after)).ReservedTokens := by
  have flow := moves.tokens.2
  rw [ReservedTokens, perform_feature]
  change Tokens (s.apply thread effect).reserved (s.apply thread effect).reservedTokens _
  by_cases touched : effect.onReserved = false
  · rw [flow.of_untouched touched, update_eq_self]
    obtain ⟨table, count⟩ := s.apply_reserved thread effect touched
    rw [table, count]
    exact tokens
  cases effect with
  | startPublish token =>
    obtain ⟨⟨slot, live⟩, -, used⟩ := flow
    rw [used]
    simp only [apply, live, setReserved, setSlot]
    exact tokens.take thread (Handle.settled_of_live live)
  | endPublish token =>
    obtain ⟨used, ended⟩ := flow
    rw [ended]
    exact tokens.release used .empty
  | assignReserved token source =>
    obtain ⟨empty, settled, same⟩ := flow
    rw [same, update_eq_self]
    exact (tokens.set (Handle.settled_of_empty empty) (s.reserved source)).set
      (settled_update settled settled) .empty
  | moveReserved source =>
    obtain ⟨settled, same⟩ := flow
    rw [same, update_eq_self]
    exact (tokens.add (s.reserved source)).set (settled_update settled settled) .empty
  | rollback token | construct token | destroy token =>
    obtain ⟨⟨slot, live⟩, same⟩ := flow
    rw [same, update_eq_self]
    simp only [apply, live, setReserved, setSlot]
    exact tokens.set (Handle.settled_of_live live) _
  | reserveIdle index =>
    rw [show after.reservedToken = _ from flow, update_eq_self]
    exact tokens.add (.live ⟨index, true⟩)
  | reserveVacant | reserveQuarantined =>
    rw [show after.reservedToken = _ from flow, update_eq_self]
    simp only [apply]
    split
    · exact tokens
    · exact tokens.add _
  | _ => exact absurd rfl touched

end

theorem reachable_tokens {capacity : Nat} {s : State} (reached : (system capacity).Reachable s) :
    s.BorrowedTokens ∧ s.ReservedTokens := by
  refine invariant_of_moves (fun s => s.BorrowedTokens ∧ s.ReservedTokens) reached ?_
    (fun _ _ tokens => tokens) ?_
  · intro threadCount
    exact ⟨⟨nofun, nofun, fun _ _ => rfl⟩, ⟨nofun, nofun, fun _ _ => rfl⟩⟩
  · intro s thread effect after _ tokens _ moves
    exact ⟨tokens.1.move moves, tokens.2.move moves⟩

end Menagerie.Starling.Pool
