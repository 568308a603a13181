import Menagerie.Starling.Pool.Program

/-!
# The pool mutex

`mutex_` is owned exactly by the thread whose program point lies in a critical section.
-/

namespace Menagerie.Starling.Pool

namespace State

variable (s : State) (thread : Nat) (effect : Effect) (after : Frame)

@[simp] theorem perform_threads_self :
    (s.perform thread (effect, after)).threads thread = after := by
  simp [perform, goto]

theorem perform_threads_other {other : Nat} (differs : other ≠ thread) :
    (s.perform thread (effect, after)).threads other = s.threads other := by
  simp [perform, goto, differs]

theorem perform_mutex :
    (s.perform thread (effect, after)).mutex =
      if after.held then some thread
      else if (s.threads thread).held then none else s.mutex := by
  simp [perform, goto]

end State

theorem Scan.held_of_empty {scan : Scan} (inside : scan.empty.held = true) :
    scan.held = true := by
  cases scan <;> first | rfl | cases inside

theorem Scan.held_of_found {scan : Scan} {index : Nat} (inside : (scan.found index).held = true) :
    scan.held = true := by
  cases scan <;> first | rfl | cases inside

@[simp] theorem Selected.resume_held (selected : Selected) : selected.resume.held = false := by
  fun_cases Selected.resume selected <;> rfl

/-- A critical section is entered only when the mutex is free. -/
theorem Moves.held {s : State} {frame after : Frame} {effect : Effect}
    (moves : Moves s frame effect after) (inside : after.held = true) :
    frame.held = true ∨ s.mutex = none := by
  cases moves with
  | began operation outside moved =>
    revert moved
    fun_cases start s operation
    all_goals rintro ⟨⟩
    all_goals cases inside
  | continued choice moved =>
    revert moved
    fun_cases next s choice frame
    all_goals rintro ⟨⟩
    all_goals first
      | cases inside; done
      | exact .inl rfl
      | exact .inl inside
      | exact .inl (Scan.held_of_empty inside)
      | exact .inl (Scan.held_of_found inside)
      | exact .inr ‹_›
      | assumption
      | simp at inside

/-- The owner of the mutex is the thread in a critical section. -/
def Locked (s : State) : Prop :=
  ∀ thread, s.mutex = some thread ↔ (s.threads thread).held = true

theorem Locked.move {s : State} {thread : Nat} {effect : Effect} {after : Frame}
    (locked : Locked s) (moves : Moves s (s.threads thread) effect after) :
    Locked (s.perform thread (effect, after)) := by
  intro other
  rw [State.perform_mutex]
  by_cases same : other = thread
  · subst same
    rw [State.perform_threads_self]
    by_cases inside : after.held = true
    · simp [inside]
    · by_cases before : (s.threads other).held = true
      · simp [inside, before]
      · have free := mt (locked other).mp before
        simp [inside, before, free]
  · rw [State.perform_threads_other s thread effect after same, ← locked other]
    by_cases inside : after.held = true
    · rcases moves.held inside with before | free
      · have owner := (locked thread).mpr before
        simp [inside, owner]
      · simp [inside, free, Ne.symm same]
    · by_cases before : (s.threads thread).held = true
      · have owner := (locked thread).mpr before
        simp [inside, before, owner, Ne.symm same]
      · simp [inside, before]

/-- In every reachable state the owner is in a critical section. -/
theorem reachable_locked {capacity : Nat} {s : State}
    (reached : (system capacity).Reachable s) : Locked s := by
  refine invariant_of_moves Locked reached ?_ (fun _ _ locked => locked) ?_
  · intro threadCount thread
    simp [State.initial, Frame.held]
  · intro s thread effect after _ locked _ moves
    exact locked.move moves

end Menagerie.Starling.Pool
