import Menagerie.Elephant.Session.Ownership

/-!
# Borrowed connections come back

A borrow that has been passed to a constructor has an owner until `reset()` has been called for it,
as long as every constructor succeeds that has taken a holder.
-/

namespace Menagerie.Elephant.Session

open Elephant

/-- Async executors are constructed over connections that can be set up. -/
def Usable (s : State) : Action → Prop
  | .construct .asyncExecutor call usable =>
    (s.pool.borrows call).all (fun holder => (s.backends holder).alive && usable) = true
  | _ => True

instance (s : State) (action : Action) : Decidable (Usable s action) := by
  unfold Usable
  split <;> infer_instance

/-- Until the region of `shutdown`, a borrow that was passed on has an owner or was given back. -/
def Kept (s : State) : Prop :=
  s.pool.drained = false → ∀ call, s.passed call = true → s.resets call = 0 →
    s.Has fun object => object.call = some call

section Kept

variable {s s' : State} {action : Action}

theorem State.reset_resets {thread call holder other : Nat} {reply : Reply}
    (none : (s.reset thread call holder reply).resets other = 0) :
    other ≠ call ∧ s.resets other = 0 := by
  rcases update_apply_eq.mp none with ⟨rfl, none⟩ | ⟨same, none⟩
  · omega
  · exact ⟨same, none⟩

/-- Until the region of `shutdown` releasing a holder calls `reset()`. -/
theorem Kept.released (kept : Kept s) (linked : Linked s) (enrolled : Pool.Enrolled s.pool)
    {thread index call : Nat} {object : Object} {reply : Reply} {status : TransactionStatus}
    {safety : Reply} {released : State} (found : s.objects index = some object)
    (done : (s.safetyNet object status safety).release thread object reply = some released)
    (running : released.pool.drained = false) (passed : released.passed call = true)
    (none : released.resets call = 0) :
    (released.Has fun owner => owner.call = some call) ∧ object.call ≠ some call := by
  rcases net_release_cases done with ⟨unlocked, rfl⟩ | ⟨target, holder, _, locked, -, -, -, rfl⟩
  · refine ⟨kept running call passed none, fun owned => ?_⟩
    obtain ⟨-, -, holder, -, lent⟩ := linked.owner index object call found owned
    have held : released.pool.At (.borrower call) holder := lent
    have listed := enrolled.stored running held nofun
    rw [State.lock_eq_some.mpr ⟨owned, lent, listed⟩] at unlocked
    cases unlocked
  · obtain ⟨apart, before⟩ := State.reset_resets none
    refine ⟨kept running call passed before, fun owned => ?_⟩
    have mine := (State.lock_eq_some.mp locked).1
    rw [mine] at owned
    exact apart (Option.some.inj owned).symm

theorem drained_perform {pool : Pool.State} {thread : Nat} {effect : Pool.Effect}
    {after : Pool.Frame} (running : (pool.perform thread (effect, after)).drained = false) :
    pool.drained = false := by
  cases effect with
  | drain => cases running
  | _ => exact running

/-- Every borrow keeps an owner while constructors succeed. -/
theorem Kept.change (kept : Kept s) (linked : Linked s) (enrolled : Pool.Enrolled s.pool)
    (usable : Usable s action) (change : Change s action s') : Kept s' := by
  intro running call passed none
  cases change with
  | quiet quiet =>
    rw [quiet.pool] at running
    rw [quiet.passed] at passed
    rw [quiet.resets] at none
    refine quiet.has ?_ (kept running call passed none)
    intro object owned
    rw [owned]
    exact nofun
  | pool label pool other stepped =>
    obtain ⟨thread, effect, after, -, -, rfl⟩ := pool_step_cases other stepped
    exact kept (drained_perform running) call passed none
  | forget kind target holder can borrowed fresh reason =>
    rcases update_apply_eq.mp passed with ⟨rfl, -⟩ | ⟨-, passed⟩
    · rcases reason with unlisted | ⟨rfl, unusable⟩
      · have held : s.pool.At (.borrower call) holder := borrowed
        exact absurd (enrolled.stored running held nofun) unlisted
      · simp only [Usable, borrowed, Option.all_some] at usable
        rw [usable] at unusable
        cases unusable
    · exact kept running call passed none
  | construct kind target holder can borrowed fresh new =>
    rcases update_apply_eq.mp passed with ⟨rfl, -⟩ | ⟨-, passed⟩
    · exact ⟨s.objectCount, _, Function.update_self _ _ _, rfl⟩
    · exact State.Has.addObject (linked.pass target).formed (kept running call passed none)
  | moveConstruct source object found =>
    exact (kept running call passed none).moveConstruct linked.formed found
  | moveAssign thread target source reply old new released found given apart _ done =>
    have net : s.safetyNet old .idle {} = s := State.safetyNet_inactive nofun
    rw [← net] at done
    obtain ⟨has, other⟩ := kept.released linked enrolled found done running passed none
    rw [← (release_frame done).1] at found given
    exact has.take found given apart other
  | destroy thread index safety reply object status released found _ done =>
    obtain ⟨has, other⟩ := kept.released linked enrolled found done running passed none
    rw [← (release_frame done).1] at found
    exact has.setObject found other
  | @transact _ index _ _ command reply _ object found =>
    obtain ⟨backends, same⟩ := control_cases s object command reply
    rw [same] at running passed none ⊢
    obtain ⟨place, owner, here, owns⟩ := kept running call passed none
    by_cases changed : place = index
    · subst changed
      rw [found] at here
      cases here
      exact ⟨place, _, Function.update_self _ _ _, owns⟩
    · refine ⟨place, owner, ?_, owns⟩
      rw [State.setObject_of_ne changed]
      exact here

/-- Borrows have an owner until they are given back, while constructors succeed. -/
theorem reachable_kept {config : Pool.PoolConfig} {fallback : Option Cleanup}
    (reached : (system config fallback).ReachableBy Usable s) : Kept s := by
  refine reached.invariant ?_ ?_
  · rintro _ ⟨pool, initial, rfl⟩ _ call passed
    cases passed
  · intro s label s' before kept usable stepped
    have hosted := reachable_hosted before
    have enrolled := Pool.reachable_enrolled (Pool.reachable_within hosted.pool)
    exact kept.change hosted.linked enrolled usable (step_change hosted.linked.formed stepped)

end Kept

/-- Where the constructors of async executors over borrowed holders succeed, `reset()` is called at
most once for a borrow; before `shutdown` it was called for a passed borrow exactly when no object
refers to the holder; and when no object is alive and nothing is pending, `active_count()` is
zero. -/
theorem borrows_come_back {config : Pool.PoolConfig} {fallback : Option Cleanup} {s : State}
    (reached : (system config fallback).ReachableBy Usable s) :
    (∀ call, s.resets call ≤ 1) ∧
    (s.pool.drained = false → ∀ call, s.passed call = true →
      (s.resets call = 1 ↔
        ∀ index object, s.objects index = some object → object.call ≠ some call)) ∧
    (s.pool.shutdown = false → (∀ index, s.objects index = none) →
      (∀ call holder, s.pool.borrows call = some holder → s.passed call = true) →
      (∀ call, s.pool.executor call = none) → (∀ call, (s.pool.calls call).ready = false) →
      (∀ thread, (s.pool.threads thread).carried = none) → s.pool.activeCount = 0) := by
  have hosted := reachable_hosted reached
  have linked := hosted.linked
  have kept := reachable_kept reached
  have most : ∀ call, s.resets call = 0 ∨ s.resets call = 1 := by
    intro call
    by_cases none : s.resets call = 0
    · exact .inl none
    · exact .inr (linked.gone call none).1
  refine ⟨?_, ?_, ?_⟩
  · intro call
    rcases most call with none | one
    · omega
    · omega
  · intro running call passed
    constructor
    · intro one index object found owned
      have none := (linked.owner index object call found owned).2.1
      omega
    · intro nobody
      rcases most call with none | one
      · obtain ⟨index, object, found, owned⟩ := kept running call passed none
        exact absurd owned (nobody index object found)
      · exact one
  · intro running nothing passed undelivered unready idle
    have before : s.pool.drained = false := by
      by_contra drained
      rw [Bool.not_eq_false] at drained
      have closing := Pool.reachable_closing (Pool.reachable_within hosted.pool)
      rw [closing.closed drained] at running
      cases running
    refine Pool.activeCount_zero hosted.pool running ?_
    intro place holder held
    cases place with
    | free => rfl
    | thread thread => simp [Pool.State.At, idle thread] at held
    | waiter call => simp [Pool.State.At, unready call] at held
    | posted call => simp [Pool.State.At, undelivered call] at held
    | borrower call =>
      by_cases none : s.resets call = 0
      · obtain ⟨index, object, found, -⟩ := kept before call (passed call holder held) none
        rw [nothing index] at found
        cases found
      · exact absurd held ((linked.gone call none).2.2.2 holder).2

/-- An executor is moved and destroyed, and its connection is free again. -/
theorem borrows_come_back_single : ∃ s,
    (system Pool.single none).ReachableBy Usable s ∧ s.passed 0 = true ∧ s.resets 0 = 1 ∧
      s.pool.created = 1 ∧ s.pool.activeCount = 0 := by
  refine (system Pool.single none).exists_reachableBy Usable ⟨_, ⟨[], 1, rfl, rfl⟩, rfl⟩
    (borrowing ++ [.construct .asyncExecutor 0 true, .moveConstruct 0, .destroy 0 0 {} {},
      .destroy 0 1 {} {}, .pool (.step 0 {})]) ⟨_, rfl, fun reached => ?_⟩
  have back := borrows_come_back reached
  refine ⟨rfl, (back.2.1 rfl 0 rfl).mpr ?_, rfl, back.2.2 rfl ?_ ?_ ?_ ?_ ?_⟩
  · rintro (_ | _ | index) object ⟨⟩
  · rintro (_ | _ | index) <;> rfl
  · rintro (_ | call) holder ⟨⟩
  · exact fun _ => rfl
  · rintro (_ | call) <;> rfl
  · rintro (_ | thread) <;> rfl

/-- `with_async` obtains a dead connection; its constructor throws after it took the holder, so
`reset()` is never called and the connection counts as active. -/
theorem borrow_lost : ∃ s, (system Pool.single none).Reachable s ∧
    s.passed 0 = true ∧ (∀ index, s.objects index = none) ∧ s.resets 0 = 0 ∧
    s.pool.shutdown = false ∧ (∀ call, s.pool.executor call = none) ∧
    (∀ thread, s.pool.threads thread = .ready) ∧ s.pool.activeCount = 1 := by
  refine (system Pool.single none).exists_reachable ⟨_, ⟨[], 1, rfl, rfl⟩, rfl⟩
    ((Pool.turns 0 (.acquire (.async false)) 5).map .pool ++ [.pool (.begin 0 (.deliver 0)), .die 0,
      .construct .asyncExecutor 0 true]) ⟨_, rfl, fun _ => ?_⟩
  refine ⟨rfl, fun _ => rfl, rfl, rfl, ?_, ?_, rfl⟩
  · rintro (_ | call) <;> rfl
  · rintro (_ | thread) <;> rfl

end Menagerie.Elephant.Session
