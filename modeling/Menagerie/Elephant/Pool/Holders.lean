import Menagerie.Library.Placement
import Menagerie.Elephant.Pool.Program

/-!
# Exclusive holders

A holder is in `free_`, carried by a thread in the middle of a region, assigned to a ready sync
waiter, part of a posted completion or lent to a caller. No holder is at two of these places.
-/

namespace Menagerie.Elephant.Pool

open Function State List

/-- The holder that a completion passes on. -/
def Outcome.given : Outcome → Option Nat
  | .holder lent => some lent
  | .empty | .timedOut | .aborted => none

def Frame.carried : Frame → Option Nat
  | .relock _ holder => holder
  | .post _ outcome => outcome.given
  | .returnHolder holder | .dropDead holder => some holder
  | .ready | .enter _ | .locked _ | .create _ | .waiting _ | .timeout _ | .shutdown | .drain
  | .abort _ => none

/-- Where a holder can be. -/
inductive Place
  | free
  | thread (thread : Nat)
  | waiter (call : Nat)
  | posted (call : Nat)
  | borrower (call : Nat)
  deriving DecidableEq, Repr

/-- A holder is at a place. -/
def State.At (s : State) : Place → Nat → Prop
  | .free, holder => holder ∈ s.free
  | .thread thread, holder => (s.threads thread).carried = some holder
  | .waiter call, holder => (s.calls call).ready = true ∧ (s.calls call).assigned = some holder
  | .posted call, holder => (s.executor call).bind Outcome.given = some holder
  | .borrower call, holder => s.borrows call = some holder

/-- The place to which an effect gives a holder. -/
def Effect.gives (s : State) : Effect → Option (Place × Nat)
  | .lend call holder | .adoptLend call holder | .resume call holder =>
    some (.borrower call, holder)
  | .post call outcome => outcome.given.map (Place.posted call, ·)
  | .park holder => some (.free, holder)
  | .serve call _ holder =>
    if (s.calls call).mode.isAsync then none else some (.waiter call, holder)
  | .deliver call => ((s.executor call).bind Outcome.given).map (Place.borrower call, ·)
  | .skip | .enter _ | .answer _ | .take _ _ | .make | .adopt _ _ | .enqueue _ | .withdraw _
  | .drop _ | .expire _ | .close | .drain | .disarm _ | .reclaim _ => none

section Origin

variable {s : State} {thread : Nat} {effect : Effect} {after : Frame} {place : Place}
  {holder : Nat}

theorem State.apply_free (free : holder ∈ (s.apply effect).free) :
    holder ∈ s.free ∨ effect.gives s = some (.free, holder) := by
  cases effect with
  | lend | take => exact .inl (mem_of_mem_tail free)
  | park parked =>
    rcases mem_append.mp free with before | last
    · exact .inl before
    · rw [mem_singleton.mp last]
      exact .inr rfl
  | drain => cases free
  | _ => exact .inl free

theorem State.apply_waiter {call : Nat}
    (ready : ((s.apply effect).calls call).ready = true)
    (assigned : ((s.apply effect).calls call).assigned = some holder) :
    s.At (.waiter call) holder ∨ effect.gives s = some (.waiter call, holder) := by
  have marked := s.apply_marked effect call
  generalize (s.apply effect).calls call = waiter at marked ready assigned
  cases marked with
  | enter | resume => cases ready
  | assign rest given sync =>
    rw [← Option.some.inj assigned]
    exact .inr (if_neg (Bool.eq_false_iff.mp sync))
  | _ => exact .inl ⟨ready, assigned⟩

theorem State.apply_posted {call : Nat}
    (posted : ((s.apply effect).executor call).bind Outcome.given = some holder) :
    s.At (.posted call) holder ∨ effect.gives s = some (.posted call, holder) := by
  cases effect with
  | post target outcome =>
    by_cases same : call = target
    · subst same
      simp only [apply, log, update_self, Option.bind_some] at posted
      rw [Effect.gives, posted]
      exact .inr rfl
    · simp only [apply, log, update_of_ne same] at posted
      exact .inl posted
  | deliver target =>
    by_cases same : call = target
    · subst same
      simp [apply] at posted
    · simp only [apply, update_of_ne same] at posted
      exact .inl posted
  | _ => exact .inl posted

theorem State.apply_borrower {call : Nat}
    (borrowed : (s.apply effect).borrows call = some holder) :
    s.At (.borrower call) holder ∨ effect.gives s = some (.borrower call, holder) := by
  -- A loan to one call.
  have lent : ∀ target given, update s.borrows target (some given) call = some holder →
      s.At (.borrower call) holder ∨ some (Place.borrower target, given) =
        some (.borrower call, holder) := by
    intro target given borrowed
    rcases update_apply_eq.mp borrowed with ⟨rfl, ⟨⟩⟩ | ⟨-, borrowed⟩
    · exact .inr rfl
    · exact .inl borrowed
  cases effect with
  | lend | adoptLend | resume => exact lent _ _ borrowed
  | deliver target =>
    rw [Effect.gives]
    rcases posted : s.executor target with _ | outcome
    · simp only [apply, posted] at borrowed
      exact .inl borrowed
    · cases outcome with
      | holder given =>
        simp only [apply, posted] at borrowed
        exact lent target given borrowed
      | _ =>
        simp only [apply, posted] at borrowed
        exact .inl borrowed
  | reclaim target =>
    rcases update_apply_eq.mp borrowed with ⟨-, ⟨⟩⟩ | ⟨-, borrowed⟩
    exact .inl borrowed
  | _ => exact .inl borrowed

theorem State.At.origin (held : (s.perform thread (effect, after)).At place holder) :
    s.At place holder ∧ place ≠ .thread thread ∨
      place = .thread thread ∧ after.carried = some holder ∨
      effect.gives s = some (place, holder) := by
  cases place with
  | free =>
    rcases apply_free held with before | given
    · exact .inl ⟨before, nofun⟩
    · exact .inr (.inr given)
  | waiter call =>
    rcases apply_waiter held.1 held.2 with before | given
    · exact .inl ⟨before, nofun⟩
    · exact .inr (.inr given)
  | posted call =>
    rcases apply_posted held with before | given
    · exact .inl ⟨before, nofun⟩
    · exact .inr (.inr given)
  | borrower call =>
    rcases apply_borrower held with before | given
    · exact .inl ⟨before, nofun⟩
    · exact .inr (.inr given)
  | thread other =>
    change (update s.threads thread after other).carried = some holder at held
    rw [update_apply] at held
    split_ifs at held with same
    · exact .inr (.inl ⟨congrArg _ same, held⟩)
    · exact .inl ⟨held, fun equal => same (Place.thread.inj equal)⟩

end Origin

/-- Where a holder comes from that a step passes on. -/
inductive Supply (s : State) (thread : Nat) (effect : Effect) (after : Frame) (holder : Nat) : Prop
  /-- A place outside the threads; the borrower's only for `reset()`. -/
  | taken (place : Place) (present : s.At place holder) (other : ∀ thread, place ≠ .thread thread)
      (lent : ∀ call, place = .borrower call → effect = .reclaim call)
  | carried (present : s.At (.thread thread) holder)
      (live : ∀ dead, s.threads thread ≠ .dropDead dead)
      (added : ∀ call, s.threads thread = .relock call (some holder) →
        holder ∈ (s.apply effect).holders)
  | made (call : Nat) (creates : effect = .make) (new : holder = s.holderCount)
      (adds : after = .relock call (some holder))

section Supply

variable {s : State} {thread : Nat} {effect : Effect} {after : Frame} {holder : Nat}

/-- A holder that is passed on has a source, and `holders_` stays. -/
theorem Flow.supply (flow : Flow s (s.threads thread) effect after)
    (passed : after.carried = some holder ∨ ∃ place, effect.gives s = some (place, holder)) :
    Supply s thread effect after holder ∧
      ∀ other ∈ s.holders, other ∈ (s.apply effect).holders := by
  have front : ∀ first rest, s.free = first :: rest → s.At .free first := by
    intro first rest free
    change first ∈ s.free
    rw [free]
    exact mem_cons_self
  have mine : ∀ held, (s.threads thread).carried = some held →
      (∀ dead, s.threads thread ≠ .dropDead dead) →
      (∀ call, s.threads thread = .relock call (some held) → held ∈ (s.apply effect).holders) →
      Supply s thread effect after held :=
    fun _ present live added => .carried present live added
  generalize s.threads thread = frame at flow mine
  cases flow with
  | returned call lent borrowed | dropped call lent borrowed =>
    rcases passed with carried | ⟨_, given⟩
    · cases carried
      refine ⟨.taken (.borrower call) borrowed nofun ?_, fun _ => id⟩
      rintro _ ⟨⟩
      rfl
    · cases given
  | deliver call outcome posted =>
    rcases passed with carried | ⟨_, given⟩
    · cases carried
    · obtain ⟨lent, held, same⟩ := Option.map_eq_some_iff.mp given
      cases same
      exact ⟨.taken (.posted call) held nofun nofun, fun _ => id⟩
  | take call taken rest _ free =>
    rcases passed with carried | ⟨_, given⟩
    · cases carried
      exact ⟨.taken .free (front _ rest free) nofun nofun, fun _ => id⟩
    · cases given
  | lend call taken rest _ free =>
    rcases passed with carried | ⟨_, given⟩
    · cases carried
    · cases given
      exact ⟨.taken .free (front _ rest free) nofun nofun, fun _ => id⟩
  | make call =>
    rcases passed with carried | ⟨_, given⟩
    · cases carried
      exact ⟨.made call rfl rfl rfl, fun _ => id⟩
    · cases given
  | adopt call added =>
    rcases passed with carried | ⟨_, given⟩
    · cases carried
      exact ⟨mine _ rfl nofun fun _ _ => mem_append_right _ (mem_singleton_self _),
        fun _ => mem_append_left _⟩
    · cases given
  | adoptLend call added =>
    rcases passed with carried | ⟨_, given⟩
    · cases carried
    · cases given
      exact ⟨mine _ rfl nofun fun _ _ => mem_append_right _ (mem_singleton_self _),
        fun _ => mem_append_left _⟩
  | resume call held ready assigned =>
    rcases passed with carried | ⟨_, given⟩
    · cases carried
    · cases given
      exact ⟨.taken (.waiter call) ⟨ready, assigned⟩ nofun nofun, fun _ => id⟩
  | post call outcome =>
    rcases passed with carried | ⟨_, given⟩
    · cases carried
    · obtain ⟨lent, held, same⟩ := Option.map_eq_some_iff.mp given
      cases same
      exact ⟨mine _ held nofun nofun, fun _ => id⟩
  | park held =>
    rcases passed with carried | ⟨_, given⟩
    · cases carried
    · cases given
      exact ⟨mine _ rfl nofun nofun, fun _ => id⟩
  | serveAsync held call rest _ _ async =>
    rcases passed with carried | ⟨_, given⟩
    · cases carried
      exact ⟨mine _ rfl nofun nofun, fun _ => id⟩
    · rw [Effect.gives, if_pos async] at given
      cases given
  | serveSync held call rest _ _ sync =>
    rcases passed with carried | ⟨_, given⟩
    · cases carried
    · rw [Effect.gives, if_neg (Bool.eq_false_iff.mp sync)] at given
      cases given
      exact ⟨mine _ rfl nofun nofun, fun _ => id⟩
  | _ =>
    rcases passed with carried | ⟨_, given⟩
    · cases carried
    · cases given

end Supply

/-- What one step does to the places of holders. -/
inductive Passage (s s' : State) : Prop
  | keep (kept : ∀ place other, s'.At place other → s.At place other)
  | pass (source target : Place) (holder : Nat) (present : s.At source holder)
      (gone : ¬ s'.At source holder)
      (kept : ∀ place other, s'.At place other →
        s.At place other ∨ place = target ∧ other = holder)
  | make (target : Place)
      (kept : ∀ place other, s'.At place other →
        s.At place other ∨ place = target ∧ other = s.holderCount)
      (grown : s'.holderCount = s.holderCount + 1)

section Passage

variable {s : State} {thread : Nat} {effect : Effect} {after : Frame} {holder : Nat}

/-- A step that puts no holder anywhere but in its thread. -/
theorem Passage.of_none
    (same : ∀ other, after.carried = some other → s.At (.thread thread) other)
    (none : effect.gives s = none) : Passage s (s.perform thread (effect, after)) := by
  refine .keep fun place other held => ?_
  rcases held.origin with ⟨before, -⟩ | ⟨rfl, carried⟩ | given
  · exact before
  · exact same other carried
  · rw [none] at given
    cases given

theorem Passage.of_gives (source target : Place) (present : s.At source holder)
    (gone : ¬ (s.perform thread (effect, after)).At source holder) (empty : after.carried = none)
    (given : effect.gives s = some (target, holder)) :
    Passage s (s.perform thread (effect, after)) := by
  refine .pass source target holder present gone fun place other held => ?_
  rcases held.origin with ⟨before, -⟩ | ⟨-, carried⟩ | put
  · exact .inl before
  · rw [empty] at carried
    cases carried
  · rw [given] at put
    cases put
    exact .inr ⟨rfl, rfl⟩

theorem Passage.of_carried (source : Place) (present : s.At source holder)
    (gone : ¬ (s.perform thread (effect, after)).At source holder)
    (carried : after.carried = some holder) (none : effect.gives s = none) :
    Passage s (s.perform thread (effect, after)) := by
  refine .pass source (.thread thread) holder present gone fun place other held => ?_
  rcases held.origin with ⟨before, -⟩ | ⟨rfl, taken⟩ | given
  · exact .inl before
  · rw [carried] at taken
    exact .inr ⟨rfl, (Option.some.inj taken).symm⟩
  · rw [none] at given
    cases given

theorem State.perform_gone (empty : after.carried = none) :
    ¬ (s.perform thread (effect, after)).At (.thread thread) holder := by
  change (update s.threads thread after thread).carried ≠ some holder
  rw [update_self, empty]
  exact nofun

/-- Every step keeps, passes or makes at most one holder. -/
theorem Flow.passage (once : s.free.Nodup) (flow : Flow s (s.threads thread) effect after) :
    Passage s (s.perform thread (effect, after)) := by
  have carries : ∀ other, (s.threads thread).carried = some other → s.At (.thread thread) other :=
    fun _ carried => carried
  have tail : ∀ first rest, s.free = first :: rest → first ∉ s.free.tail := by
    intro first rest free
    rw [free] at once ⊢
    exact (nodup_cons.mp once).1
  have front : ∀ first rest, s.free = first :: rest → s.At .free first := by
    intro first rest free
    change first ∈ s.free
    rw [free]
    exact mem_cons_self
  generalize s.threads thread = frame at flow carries
  cases flow with
  | returned call lent given | dropped call lent given =>
    have gone : (s.apply (.reclaim call)).borrows call ≠ some lent := by simp [apply]
    exact .of_carried (.borrower call) given gone rfl rfl
  | deliver call outcome posted =>
    cases outcome with
    | holder given =>
      have present : s.At (.posted call) given := by simp [At, posted, Outcome.given]
      have gone : ((s.apply (.deliver call)).executor call).bind Outcome.given ≠ some given := by
        simp [apply]
      have put : (Effect.deliver call).gives s = some (.borrower call, given) := by
        rw [Effect.gives, posted]
        rfl
      exact .of_gives (.posted call) (.borrower call) present gone rfl put
    | _ => exact .of_none (by simp [Frame.carried]) (by rw [Effect.gives, posted]; rfl)
  | take call taken rest _ free =>
    exact .of_carried .free (front taken rest free) (tail taken rest free) rfl rfl
  | lend call taken rest _ free =>
    exact .of_gives .free (.borrower call) (front taken rest free) (tail taken rest free) rfl rfl
  | make call =>
    refine .make (.thread thread) (fun place other held => ?_) rfl
    rcases held.origin with ⟨before, -⟩ | ⟨rfl, taken⟩ | given
    · exact .inl before
    · exact .inr ⟨rfl, (Option.some.inj taken).symm⟩
    · cases given
  | adopt => exact .of_none carries rfl
  | adoptLend | park =>
    exact .of_gives (.thread thread) _ (carries _ rfl) (perform_gone rfl) rfl rfl
  | resume call held ready assigned =>
    have gone : ((s.apply (.resume call held)).calls call).ready ≠ true := by
      simp [apply, setCall, lendTo, log]
    exact .of_gives (.waiter call) (.borrower call) ⟨ready, assigned⟩ (fun later => gone later.1)
      rfl rfl
  | post call outcome =>
    cases outcome with
    | holder given =>
      exact .of_gives (.thread thread) _ (carries _ rfl) (perform_gone rfl) rfl rfl
    | _ => exact .of_none (by simp [Frame.carried]) rfl
  | serveAsync held call rest _ first async => exact .of_none carries (if_pos async)
  | serveSync held call rest _ first sync =>
    exact .of_gives (.thread thread) _ (carries _ rfl) (perform_gone rfl) rfl
      (if_neg (Bool.eq_false_iff.mp sync))
  | _ => exact .of_none (by simp [Frame.carried, Outcome.given]) rfl

end Passage

/-- No holder is at two places or twice in `free_`, and all were constructed. -/
structure Exclusive (s : State) : Prop where
  unshared : Placement.Unshared s.At
  known : ∀ place holder, s.At place holder → holder < s.holderCount
  once : s.free.Nodup

theorem State.holderCount_le_apply (s : State) (effect : Effect) :
    s.holderCount ≤ (s.apply effect).holderCount := by
  cases effect with
  | make => exact Nat.le_succ _
  | _ => exact le_rfl

theorem Exclusive.move {s : State} {thread : Nat} {effect : Effect} {after : Frame}
    (exclusive : Exclusive s) (flow : Flow s (s.threads thread) effect after) :
    Exclusive (s.perform thread (effect, after)) where
  unshared := by
    cases flow.passage exclusive.once with
    | keep kept => exact exclusive.unshared.keep kept
    | pass source target holder present gone kept =>
      exact exclusive.unshared.handOver present gone kept
    | make target kept =>
      refine exclusive.unshared.arrive ?_ kept
      intro place held
      exact absurd (exclusive.known place _ held) (lt_irrefl _)
  known place holder held := by
    have grown : s.holderCount ≤ (s.perform thread (effect, after)).holderCount :=
      s.holderCount_le_apply effect
    cases flow.passage exclusive.once with
    | keep kept =>
      exact lt_of_lt_of_le (exclusive.known place holder (kept place holder held)) grown
    | pass source target passed present gone kept =>
      rcases kept place holder held with before | ⟨-, rfl⟩
      · exact lt_of_lt_of_le (exclusive.known place holder before) grown
      · exact lt_of_lt_of_le (exclusive.known source holder present) grown
    | make target kept more =>
      rcases kept place holder held with before | ⟨-, rfl⟩
      · exact lt_of_lt_of_le (exclusive.known place holder before) grown
      · omega
  once := by
    have once := exclusive.once
    have apart : ∀ holder, (s.threads thread).carried = some holder → holder ∉ s.free :=
      fun holder carried free =>
        nomatch exclusive.unshared holder .free (.thread thread) free carried
    generalize s.threads thread = frame at flow apart
    cases flow with
    | take | lend => exact once.sublist (tail_sublist _)
    | park holder =>
      refine once.append (nodup_singleton holder) ?_
      rw [disjoint_singleton]
      exact apart holder rfl
    | drain => exact nodup_nil
    | _ => exact once

theorem reachable_exclusive {config : PoolConfig}
    {condition : State → Frame → Effect → Frame → Prop} {s : State}
    (reached : (system config).ReachableBy (within condition) s) : Exclusive s := by
  refine invariant_of_moves Exclusive reached ?_ (fun _ _ _ _ _ exclusive _ flow _ =>
    exclusive.move flow)
  intro created threadCount _
  have free : ∀ place holder, (stocked config created threadCount).At place holder →
      place = .free ∧ holder < created := by
    intro place holder held
    cases place with
    | free => exact ⟨rfl, mem_range.mp held⟩
    | waiter => exact absurd held.1 Bool.false_ne_true
    | _ => cases held
  refine ⟨?_, fun place holder held => (free place holder held).2, nodup_range⟩
  intro holder left right first second
  rw [(free left holder first).1, (free right holder second).1]

end Menagerie.Elephant.Pool
