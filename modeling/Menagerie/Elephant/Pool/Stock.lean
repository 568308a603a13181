import Menagerie.Elephant.Pool.Handoff

/-!
# The stock of connections

Until `shutdown` every connection that `created_` counts is in `holders_`, and every holder there is
at some place: in `free_`, on its way or lent to a caller. So `active_count()` counts the holders
outside `free_`.
-/

namespace Menagerie.Elephant.Pool

open Function State List

/-- `active_count()`; negative where `size_t` wraps. -/
def State.activeCount (s : State) : Int := s.created - s.free.length

section Kept

variable {s : State} {thread : Nat} {effect : Effect} {after : Frame} {call holder : Nat}

theorem Explained.borrow_kept (explained : Explained s) (tracked : Tracked s)
    (flow : Flow s (s.threads thread) effect after) (other : ∀ target, effect ≠ .reclaim target)
    (lent : s.borrows call = some holder) : (s.apply effect).borrows call = some holder := by
  have completed := explained.given call holder (.inr lent)
  have done : s.owns .done call := mem_filterMap.mpr ⟨_, completed, rfl⟩
  -- A loan to a call that a thread has still to complete is a loan to another call.
  have apart : ∀ target given, target ∈ (s.threads thread).calls →
      update s.borrows target (some given) call = some holder := by
    intro target given owner
    have different : call ≠ target := by
      rintro rfl
      exact nomatch tracked.owned.unshared call (.thread thread) .done owner done
    rw [update_of_ne different]
    exact lent
  generalize s.threads thread = frame at flow apart
  cases flow with
  | returned target | dropped target => exact absurd rfl (other target)
  | lend target given | adoptLend target given | resume target given =>
    exact apart target given (mem_singleton_self target)
  | deliver target outcome posted =>
    cases outcome with
    | holder given =>
      simp only [apply, posted]
      by_cases same : call = target
      · subst same
        have event := explained.given call given (.inl (by rw [At, posted]; rfl))
        rw [Outcome.holder.inj (tracked.outcome_unique event completed), update_self]
      · rw [update_of_ne same]
        exact lent
    | _ =>
      simp only [apply, posted]
      exact lent
  | _ => exact lent

/-- A completed call whose caller has no holder, and none to come. -/
def State.Spent (s : State) (call : Nat) : Prop :=
  s.owns .done call ∧ ∀ holder, ¬ s.At (.posted call) holder ∧ ¬ s.At (.borrower call) holder

/-- A caller that has given its holder back is given no other. -/
theorem Tracked.spent_move (tracked : Tracked s) (flow : Flow s (s.threads thread) effect after)
    (spent : s.Spent call) : (s.perform thread (effect, after)).Spent call := by
  obtain ⟨done, nothing⟩ := spent
  have later : call ∈ (s.apply effect).completions := by
    rw [s.apply_completions]
    exact mem_append_left _ done
  have again : ∀ outcome, .completed call outcome ∉ effect.events s := by
    intro outcome event
    have member : call ∈ (effect.events s).filterMap Event.completion :=
      mem_filterMap.mpr ⟨_, event, rfl⟩
    rcases flow.completes with none | ⟨target, owner, one⟩
    · rw [none] at member
      cases member
    · rw [one, mem_singleton] at member
      subst member
      exact nomatch tracked.owned.unshared call (.thread thread) .done owner done
  refine ⟨later, fun holder => ⟨fun held => ?_, fun held => ?_⟩⟩
  · rcases apply_posted held with before | given
    · exact (nothing holder).1 before
    · exact again _ (Effect.completed_of_posts given)
  · rcases apply_borrower held with before | given
    · exact (nothing holder).2 before
    · rcases Effect.completed_of_lends given with posted | event
      · exact (nothing holder).1 posted
      · exact again _ event

theorem Explained.reclaim_spent (explained : Explained s) (tracked : Tracked s)
    (exclusive : Exclusive s) (lent : s.borrows call = some holder) :
    (s.perform thread (.reclaim call, after)).Spent call := by
  have completed := explained.given call holder (.inr lent)
  refine ⟨mem_filterMap.mpr ⟨_, completed, rfl⟩, fun other => ⟨fun posted => ?_, ?_⟩⟩
  · have before : s.At (.posted call) other := posted
    have event := explained.given call other (.inl before)
    have same := Outcome.holder.inj (tracked.outcome_unique event completed)
    subst same
    exact nomatch exclusive.unshared other (.posted call) (.borrower call) before lent
  · change update s.borrows call none call ≠ some other
    rw [update_self]
    exact nofun

theorem State.at_self (carried : after.carried = some holder) :
    (s.perform thread (effect, after)).At (.thread thread) holder := by
  change (update s.threads thread after thread).carried = some holder
  rw [update_self]
  exact carried

/-- A free holder stays free or is taken. -/
theorem State.free_kept (flow : Flow s (s.threads thread) effect after)
    (running : effect ≠ .drain) (held : s.At .free holder) :
    ∃ place, (s.perform thread (effect, after)).At place holder := by
  have split : ∀ first rest, s.free = first :: rest → holder = first ∨ holder ∈ s.free.tail := by
    intro first rest free
    change holder ∈ s.free at held
    rw [free] at held ⊢
    exact mem_cons.mp held
  generalize s.threads thread = frame at flow
  cases flow with
  | take target taken rest _ free =>
    rcases split taken rest free with rfl | later
    · exact ⟨.thread thread, at_self rfl⟩
    · exact ⟨.free, later⟩
  | lend target taken rest _ free =>
    rcases split taken rest free with rfl | later
    · exact ⟨.borrower target, update_self _ _ _⟩
    · exact ⟨.free, later⟩
  | park => exact ⟨.free, mem_append_left _ held⟩
  | drain => exact absurd rfl running
  | _ => exact ⟨.free, held⟩

theorem Tracked.assigned_kept (tracked : Tracked s) (flow : Flow s (s.threads thread) effect after)
    (held : s.At (.waiter call) holder) :
    ∃ place, (s.perform thread (effect, after)).At place holder := by
  obtain ⟨ready, assigned⟩ := held
  have stays : ((s.apply effect).calls call).ready = true ∧
      ((s.apply effect).calls call).assigned = some holder →
      ∃ place, (s.perform thread (effect, after)).At place holder :=
        fun held => ⟨.waiter call, held⟩
  have marked := s.apply_marked effect call
  generalize (s.apply effect).calls call = waiter at marked stays
  cases marked with
  | enter mode new =>
    have arrived := tracked.marked call (.inr (.inl ready))
    have known := tracked.arrived call arrived
    omega
  | resume taken =>
    have same : taken = holder := by
      generalize s.threads thread = frame at flow
      cases flow with
      | resume _ _ _ given =>
        rw [assigned] at given
        exact (Option.some.inj given).symm
    subst same
    exact ⟨.borrower call, update_self _ _ _⟩
  | assign rest given sync =>
    have queued : call ∈ s.waiters := by
      rw [tracked.served_front flow]
      exact mem_cons_self
    rw [(tracked.parked call queued sync).1] at ready
    cases ready
  | _ => exact stays ⟨ready, assigned⟩

section

variable (explained : Explained s) (tracked : Tracked s)
  (flow : Flow s (s.threads thread) effect after)

include explained tracked flow

theorem Explained.posted_kept (held : s.At (.posted call) holder) :
    ∃ place, (s.perform thread (effect, after)).At place holder := by
  have completed := explained.given call holder (.inl held)
  have done : s.owns .done call := mem_filterMap.mpr ⟨_, completed, rfl⟩
  have apart : ∀ target, target ∈ (s.threads thread).calls → call ≠ target := by
    rintro target owner rfl
    exact nomatch tracked.owned.unshared call (.thread thread) .done owner done
  have stays : (s.apply effect).executor call = s.executor call →
      ∃ place, (s.perform thread (effect, after)).At place holder := by
    intro same
    refine ⟨.posted call, ?_⟩
    change ((s.apply effect).executor call).bind Outcome.given = some holder
    rw [same]
    exact held
  generalize s.threads thread = frame at flow apart
  cases flow with
  | deliver target outcome posted =>
    by_cases same : call = target
    · subst same
      rw [At, posted] at held
      cases outcome with
      | holder given =>
        cases held
        refine ⟨.borrower call, ?_⟩
        change (s.apply (.deliver call)).borrows call = some holder
        simp only [apply, posted, update_self]
      | _ => cases held
    · exact stays (update_of_ne same _ _)
  | post target outcome =>
    exact stays (update_of_ne (apart target (mem_singleton_self target)) _ _)
  | abort target rest =>
    exact stays (update_of_ne (apart target mem_cons_self) _ _)
  | _ => exact stays rfl

theorem Explained.lent_kept (held : s.At (.borrower call) holder) :
    ∃ place, (s.perform thread (effect, after)).At place holder := by
  by_cases reclaims : ∃ target, effect = .reclaim target
  · obtain ⟨target, rfl⟩ := reclaims
    by_cases same : call = target
    · subst same
      refine ⟨.thread thread, at_self ?_⟩
      change s.borrows call = some holder at held
      generalize s.threads thread = frame at flow
      cases flow with
      | returned _ given lent | dropped _ given lent =>
        rw [lent] at held
        exact held
    · exact ⟨.borrower call, (update_of_ne same _ _).trans held⟩
  · have other : ∀ target, effect ≠ .reclaim target := fun target same => reclaims ⟨target, same⟩
    exact ⟨.borrower call, explained.borrow_kept tracked flow other held⟩

end

theorem State.carried_kept (flow : Flow s (s.threads thread) effect after)
    (running : s.shutdown = false) (carried : s.At (.thread thread) holder) :
    (∃ place, (s.perform thread (effect, after)).At place holder) ∨
      effect = .drop holder ∨ holder ∉ s.holders := by
  have given : ∀ place, (s.apply effect).At place holder → (∀ thread, place ≠ .thread thread) →
      ∃ place, (s.perform thread (effect, after)).At place holder := by
    intro place held other
    refine ⟨place, ?_⟩
    cases place with
    | thread thread => exact absurd rfl (other thread)
    | _ => exact held
  have stays : after.carried = some holder →
      ∃ place, (s.perform thread (effect, after)).At place holder :=
    fun same => ⟨.thread thread, at_self same⟩
  change (s.threads thread).carried = some holder at carried
  generalize s.threads thread = frame at flow carried
  cases flow with
  | refuseSync _ _ entering closed | refuseAsync _ _ entering closed
  | lose _ _ _ closed | ignoreReturn _ closed =>
    rw [running] at closed
    cases closed
  | exhausted _ _ joins | queueSync _ _ joins | queueAsync _ _ joins =>
    rcases joins with ⟨rfl, -⟩ | ⟨rfl, -⟩
    · cases carried
    · cases carried
  | adopt | serveAsync => exact .inl (stays carried)
  | adoptLend target =>
    cases carried
    exact .inl (given (.borrower target) (update_self _ _ _) nofun)
  | post target outcome =>
    refine .inl (given (.posted target) ?_ nofun)
    change (update s.executor target (some outcome) target).bind Outcome.given = some holder
    rw [update_self]
    exact carried
  | park =>
    cases carried
    exact .inl (given .free (mem_append_right _ (mem_singleton_self _)) nofun)
  | serveSync served target rest _ first sync =>
    cases carried
    refine .inl (given (.waiter target) ?_ nofun)
    simp [At, apply, setCall, log, sync]
  | ignoreDrop dead reason =>
    cases carried
    rcases reason with closed | unknown
    · rw [running] at closed
      cases closed
    · exact .inr (.inr unknown)
  | drop =>
    cases carried
    exact .inr (.inl rfl)
  | _ => cases carried

theorem Explained.place_kept (explained : Explained s) (tracked : Tracked s) (closing : Closing s)
    (flow : Flow s (s.threads thread) effect after) (running : s.shutdown = false) {place : Place}
    (held : s.At place holder) (listed : holder ∈ s.holders) (kept : effect ≠ .drop holder) :
    ∃ place, (s.perform thread (effect, after)).At place holder := by
  cases place with
  | free =>
    refine free_kept flow ?_ held
    rintro rfl
    have closed : s.shutdown = true := by
      generalize at_ : s.threads thread = frame at flow
      cases flow with
      | drain => exact closing.opened thread at_
    rw [running] at closed
    cases closed
  | thread other =>
    by_cases same : other = thread
    · subst same
      rcases carried_kept flow running held with placed | dropped | unknown
      · exact placed
      · exact absurd dropped kept
      · exact absurd listed unknown
    · refine ⟨.thread other, ?_⟩
      change (update s.threads thread after other).carried = some holder
      rw [update_of_ne same]
      exact held
  | waiter call => exact tracked.assigned_kept flow held
  | posted call => exact explained.posted_kept tracked flow held
  | borrower call => exact explained.lent_kept tracked flow held

end Kept

/-- What holds of `holders_`. -/
structure Stocked (s : State) : Prop where
  once : s.holders.Nodup
  known : ∀ holder ∈ s.holders, holder < s.holderCount
  unlisted : ∀ thread call holder, s.threads thread = .relock call (some holder) →
    holder ∉ s.holders
  /-- Until the region of `shutdown` the counter is the size of `holders_`. -/
  counted : s.drained = false → s.created = s.holders.length
  placed : s.shutdown = false → ∀ holder ∈ s.holders, ∃ place, s.At place holder

section Stocked

variable {s : State} {thread : Nat} {effect : Effect} {after : Frame} {holder : Nat}

/-- Who adds a holder to `holders_` has created it and passes it on. -/
theorem Flow.listed (flow : Flow s (s.threads thread) effect after)
    (listed : holder ∈ (s.apply effect).holders) :
    holder ∈ s.holders ∨ (∃ call, s.threads thread = .relock call (some holder)) ∧
      ∃ place, (s.perform thread (effect, after)).At place holder := by
  generalize at_ : s.threads thread = frame at flow
  cases flow with
  | adopt call added =>
    rcases mem_append.mp listed with before | last
    · exact .inl before
    · rw [mem_singleton] at last
      subst last
      exact .inr ⟨⟨call, rfl⟩, .thread thread, at_self rfl⟩
  | adoptLend call added =>
    rcases mem_append.mp listed with before | last
    · exact .inl before
    · rw [mem_singleton] at last
      subst last
      exact .inr ⟨⟨call, rfl⟩, .borrower call, update_self _ _ _⟩
  | drop => exact .inl (mem_of_mem_erase listed)
  | drain => cases listed
  | _ => exact .inl listed

section

variable (stocked : Stocked s) (flow : Flow s (s.threads thread) effect after)

include stocked flow

theorem Stocked.once_move :
    (s.apply effect).holders.Nodup := by
  have once := stocked.once
  have added : ∀ call new, s.threads thread = .relock call (some new) →
      (s.holders ++ [new]).Nodup := by
    intro call new at_
    refine once.append (nodup_singleton new) ?_
    rw [disjoint_singleton]
    exact stocked.unlisted thread call new at_
  generalize s.threads thread = frame at flow added
  cases flow with
  | adopt call new | adoptLend call new => exact added call new rfl
  | drop => exact once.erase _
  | drain => exact nodup_nil
  | _ => exact once

theorem Stocked.counted_move (running : (s.apply effect).drained = false) :
    (s.apply effect).created = (s.apply effect).holders.length := by
  have counted := stocked.counted
  generalize s.threads thread = frame at flow
  cases flow with
  | adopt call new | adoptLend call new =>
    have before := counted running
    change s.created + 1 = (s.holders ++ [new]).length
    rw [length_append, length_singleton, before]
  | drop dead _ listed =>
    have before := counted running
    change s.created - 1 = (s.holders.erase dead).length
    rw [length_erase_of_mem listed, before]
  | drain => cases running
  | _ => exact counted running

end

theorem Stocked.move (stocked : Stocked s) (exclusive : Exclusive s) (tracked : Tracked s)
    (explained : Explained s) (closing : Closing s)
    (flow : Flow s (s.threads thread) effect after) :
    Stocked (s.perform thread (effect, after)) where
  once := stocked.once_move flow
  known holder listed := by
    have grown : s.holderCount ≤ (s.apply effect).holderCount := s.holderCount_le_apply effect
    rcases flow.listed listed with before | ⟨⟨call, at_⟩, -⟩
    · exact lt_of_lt_of_le (stocked.known holder before) grown
    · have carried : s.At (.thread thread) holder := by rw [At, at_]; rfl
      exact lt_of_lt_of_le (exclusive.known _ holder carried) grown
  unlisted other call holder waits listed := by
    rcases update_apply_eq.mp waits with ⟨rfl, rfl⟩ | ⟨same, waits⟩
    · have before := stocked.known
      generalize s.threads other = frame at flow
      cases flow with
      | make => exact absurd (before _ listed) (lt_irrefl _)
    · rcases flow.listed listed with before | ⟨⟨target, at_⟩, -⟩
      · exact stocked.unlisted other call holder waits before
      · have first : s.At (.thread other) holder := by rw [At, waits]; rfl
        have second : s.At (.thread thread) holder := by rw [At, at_]; rfl
        exact same (Place.thread.inj (exclusive.unshared holder _ _ first second))
  counted running := stocked.counted_move flow running
  placed running holder listed := by
    change (s.apply effect).shutdown = false at running
    have before : s.shutdown = false := by
      by_contra closed
      rw [Bool.not_eq_false] at closed
      rw [shutdown_apply closed] at running
      cases running
    rcases flow.listed listed with member | ⟨-, placed⟩
    · obtain ⟨place, held⟩ := stocked.placed before holder member
      refine explained.place_kept tracked closing flow before held member ?_
      rintro rfl
      exact absurd listed (stocked.once.not_mem_erase)
    · exact placed

theorem reachable_stocked {config : PoolConfig}
    {condition : State → Frame → Effect → Frame → Prop} {s : State}
    (reached : (system config).ReachableBy (within condition) s) : Stocked s := by
  refine invariant_of_moves Stocked reached ?_ ?_
  · intro created threadCount _
    exact ⟨nodup_range, fun _ => mem_range.mp, nofun, fun _ => length_range.symm,
      fun _ holder listed => ⟨.free, listed⟩⟩
  · intro s thread effect after before stocked _ flow _
    exact stocked.move (reachable_exclusive before) (reachable_tracked before)
      (reachable_explained before) (reachable_closing before) flow

theorem activeCount_zero {config : PoolConfig} (reached : (system config).Reachable s)
    (running : s.shutdown = false) (free : ∀ place holder, s.At place holder → place = .free) :
    s.activeCount = 0 := by
  have within := reachable_within reached
  have stocked := reachable_stocked within
  have exclusive := reachable_exclusive within
  have before : s.drained = false := by
    by_contra drained
    rw [Bool.not_eq_false] at drained
    rw [(reachable_closing within).closed drained] at running
    cases running
  have inside : s.holders ⊆ s.free := by
    intro holder listed
    obtain ⟨place, held⟩ := stocked.placed running holder listed
    have same := free place holder held
    subst same
    exact held
  have outside : s.free ⊆ s.holders := by
    intro holder listed
    have held : s.At .free holder := listed
    exact (reachable_enrolled within).stored before held nofun
  have most := (stocked.once.subperm inside).length_le
  have least := (exclusive.once.subperm outside).length_le
  have counted := stocked.counted before
  unfold activeCount
  omega

end Stocked

end Menagerie.Elephant.Pool
