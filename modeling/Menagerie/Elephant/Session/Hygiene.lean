import Menagerie.Elephant.Session.Ownership

/-!
# Clean connections in the pool

While every step is tidy, a borrowed connection is clean or belongs to an active transaction, and a
connection that the pool keeps or hands to a waiter is clean.
-/

namespace Menagerie.Elephant.Session

open Elephant Function State

/-- An active transaction owns the borrow of the call. -/
def State.Active (s : State) (call : Nat) : Prop :=
  s.Has fun object => object.call = some call ∧ object.kind = .transaction .active

/-- What holds of the connections in runs of tidy steps. -/
structure Hygienic (s : State) : Prop where
  clean : ∀ place holder, s.pool.At place holder → (∀ call, place ≠ .borrower call) →
    (∀ thread dead, place = .thread thread → s.pool.threads thread ≠ .dropDead dead) →
    (s.backends holder).Clean
  fresh : ∀ holder, s.pool.holderCount ≤ holder → (s.backends holder).Clean
  lent : ∀ call holder, s.pool.borrows call = some holder → holder ∈ s.pool.holders →
    (s.backends holder).Clean ∨ (s.backends holder).Settled ∧ s.Active call

section Hygienic

variable {s s' : State} {thread call holder : Nat} {reply : Reply}

section

variable (hygienic : Hygienic s) (exclusive : Pool.Exclusive s.pool) (pool : s'.pool = s.pool)

include hygienic exclusive pool

/-- Outside the pool, clean connections stay clean or get an active transaction, which keeps its
connection or leaves it clean. -/
theorem Hygienic.frame
    (clean : ∀ holder, (s.backends holder).Clean → (s'.backends holder).Clean ∨
      (s'.backends holder).Settled ∧ ∃ call, s.pool.borrows call = some holder ∧ s'.Active call)
    (active : ∀ call holder, s.pool.borrows call = some holder → holder ∈ s.pool.holders →
      (s.backends holder).Settled → s.Active call → (s'.backends holder).Clean ∨
      (s'.backends holder).Settled ∧ s'.Active call) : Hygienic s' where
  clean place holder held other live := by
    rw [pool] at held live
    rcases clean holder (hygienic.clean place holder held other live) with kept | ⟨-, call, lent, -⟩
    · exact kept
    · exact absurd (exclusive.unshared holder place (.borrower call) held lent) (other call)
  fresh holder new := by
    rw [pool] at new
    rcases clean holder (hygienic.fresh holder new) with kept | ⟨-, call, lent, -⟩
    · exact kept
    · have known := exclusive.known (.borrower call) holder lent
      omega
  lent call holder lent listed := by
    rw [pool] at lent listed
    rcases hygienic.lent call holder lent listed with before | ⟨settled, owned⟩
    · rcases clean holder before with kept | ⟨settled, other, also, owned⟩
      · exact .inl kept
      · have same := exclusive.unshared holder (.borrower other) (.borrower call) also lent
        rw [Pool.Place.borrower.inj same] at owned
        exact .inr ⟨settled, owned⟩
    · exact active call holder lent listed settled owned

theorem Hygienic.moved (backends : s'.backends = s.backends)
    (active : ∀ call, s.Active call → s'.Active call) : Hygienic s' := by
  refine hygienic.frame exclusive pool ?_ ?_
  · intro holder clean
    rw [backends]
    exact .inl clean
  · intro call holder _ _ settled owned
    rw [backends]
    exact .inr ⟨settled, active call owned⟩

end

theorem Hygienic.pool (hygienic : Hygienic s) (exclusive : Pool.Exclusive s.pool)
    {effect : Pool.Effect} {after : Pool.Frame}
    (flow : Pool.Flow s.pool (s.pool.threads thread) effect after)
    (unreclaimed : ∀ call, effect ≠ .reclaim call) :
    Hygienic { s with pool := s.pool.perform thread (effect, after) } := by
  have supplied : ∀ holder, (after.carried = some holder ∨
      ∃ place, effect.gives s.pool = some (place, holder)) → (s.backends holder).Clean := by
    intro holder passed
    cases (flow.supply passed).1 with
    | taken place present other lent =>
      refine hygienic.clean place holder present ?_ ?_
      · exact fun call borrower => unreclaimed call (lent call borrower)
      · exact fun mover dead same => absurd same (other mover)
    | carried present live =>
      refine hygienic.clean (.thread thread) holder present (by simp) ?_
      rintro _ dead ⟨⟩
      exact live dead
    | made _ _ new => exact hygienic.fresh holder (by omega)
  refine ⟨?_, ?_, ?_⟩
  · intro place holder held other live
    rcases held.origin with ⟨before, apart⟩ | ⟨-, carried⟩ | given
    · refine hygienic.clean place holder before other ?_
      rintro mover dead rfl
      have same : mover ≠ thread := fun equal => apart (by rw [equal])
      have kept := live mover dead rfl
      change update s.pool.threads thread after mover ≠ _ at kept
      rw [update_of_ne same] at kept
      exact kept
    · exact supplied holder (.inl carried)
    · exact supplied holder (.inr ⟨place, given⟩)
  · intro holder new
    have grown := s.pool.holderCount_le_apply effect
    change (s.pool.apply effect).holderCount ≤ holder at new
    exact hygienic.fresh holder (by omega)
  · intro call holder lent listed
    rcases Pool.State.apply_borrower lent with before | given
    · rcases flow.listed listed with member | ⟨⟨target, at_⟩, -⟩
      · exact hygienic.lent call holder before member
      · have carried : s.pool.At (.thread thread) holder := by rw [Pool.State.At, at_]; rfl
        cases exclusive.unshared holder (.borrower call) (.thread thread) before carried
    · exact .inl (supplied holder (.inr ⟨_, given⟩))

theorem State.runCleanupSql_clean (clean : (s.backends holder).Clean) :
    (s.runCleanupSql holder reply).2.Clean := by
  unfold runCleanupSql
  split_ifs
  · split
    · exact clean
    · rename_i sql _
      cases sql with
      | statement | discardAll => exact Backend.exec_clean rfl nofun clean
      | rollback =>
        exact Backend.exec_rule (fun _ => Backend.process_ends_clean (.inr rfl)) (fun _ _ => clean)
          (fun _ => clean) Backend.die_clean
  · exact clean

theorem Hygienic.reset (hygienic : Hygienic s) (exclusive : Pool.Exclusive s.pool)
    (lent : s.pool.borrows call = some holder) (clean : (s.backends holder).Clean) :
    Hygienic (s.reset thread call holder reply) := by
  have elsewhere : ∀ place other, s.pool.At place other → place ≠ .borrower call →
      (s.reset thread call holder reply).backends other = s.backends other := by
    intro place other held apart
    have different : other ≠ holder := by
      rintro rfl
      exact apart (exclusive.unshared other place (.borrower call) held lent)
    exact update_of_ne different _ _
  refine ⟨?_, ?_, ?_⟩
  · intro place other held borrowed live
    rcases held.origin with ⟨before, apart⟩ | ⟨rfl, carried⟩ | given
    · rw [elsewhere place other before (borrowed call)]
      refine hygienic.clean place other before borrowed ?_
      rintro mover dead rfl
      have same : mover ≠ thread := fun equal => apart (by rw [equal])
      have kept := live mover dead rfl
      change update s.pool.threads thread _ mover ≠ _ at kept
      rw [update_of_ne same] at kept
      exact kept
    · have kept := live thread holder rfl
      change update s.pool.threads thread _ thread ≠ _ at kept
      rw [update_self] at kept
      split_ifs at carried kept
      · cases carried
        change (update s.backends holder _ holder).Clean
        rw [update_self]
        exact runCleanupSql_clean clean
      · exact absurd rfl kept
    · cases given
  · intro other new
    change s.pool.holderCount ≤ other at new
    have known := exclusive.known (.borrower call) holder lent
    have different : other ≠ holder := by omega
    change (update s.backends holder _ other).Clean
    rw [update_of_ne different]
    exact hygienic.fresh other new
  · intro target other borrowed listed
    rcases update_apply_eq.mp borrowed with ⟨rfl, ⟨⟩⟩ | ⟨same, borrowed⟩
    rw [elsewhere (.borrower target) other borrowed fun equal =>
      same (Pool.Place.borrower.inj equal)]
    exact hygienic.lent target other borrowed listed

end Hygienic

section Change

variable {s s' : State} {action : Action}

theorem Quiet.active {call : Nat} (quiet : Quiet s action s') (active : s.Active call) :
    s'.Active call := by
  refine quiet.has ?_ active
  rintro object ⟨owns, -⟩
  rw [owns]
  exact nofun

theorem Linked.active_owner (linked : Linked s) {index call : Nat} {object : Object}
    (found : s.objects index = some object) (owned : object.call = some call)
    (active : s.Active call) : object.kind = .transaction .active := by
  obtain ⟨other, owner, here, owns, kind⟩ := active
  have same := linked.unique call other index ⟨owner, here, owns⟩ ⟨object, found, owned⟩
  subst same
  rw [found] at here
  cases here
  exact kind

section

variable (hygienic : Hygienic s) (linked : Linked s) (exclusive : Pool.Exclusive s.pool)

include hygienic linked exclusive

theorem Hygienic.moveAssign {thread target source : Nat} {reply : Reply} {old new : Object}
    {released : State} (found : s.objects target = some old) (given : s.objects source = some new)
    (apart : target ≠ source) (inactive : old.kind ≠ .transaction .active)
    (done : s.release thread old reply = some released) :
    Hygienic ((released.setObject target (some new)).setObject source
      (some ⟨new.kind.moved, none, none⟩)) := by
  have taken : Hygienic ((s.setObject target (some new)).setObject source
      (some ⟨new.kind.moved, none, none⟩)) :=
    hygienic.moved exclusive rfl rfl fun _ active =>
      active.take found given apart fun wanted => inactive wanted.2
  rcases release_cases done with ⟨-, rfl⟩ | ⟨call, holder, locked, -, -, rfl⟩
  · exact taken
  · obtain ⟨owned, lent, listed⟩ := lock_eq_some.mp locked
    rcases hygienic.lent call holder lent listed with clean | ⟨-, active⟩
    · exact taken.reset exclusive lent clean
    · exact absurd (linked.active_owner found owned active) inactive

theorem Hygienic.exec {index call holder : Nat} {object : Object} {new : Option Object}
    {backend : Backend}
    (found : s.objects index = some object) (owned : object.call = some call)
    (lent : s.pool.borrows call = some holder)
    (clean : (s.backends holder).Clean → object.kind ≠ .transaction .active → backend.Clean ∨
      backend.Settled ∧ ∃ owner, new = some owner ∧ owner.call = some call ∧
        owner.kind = .transaction .active)
    (active : object.kind = .transaction .active → backend.Clean) :
    Hygienic ((s.setBackend holder backend).setObject index new) := by
  have here : ((s.setBackend holder backend).setObject index new).backends holder = backend :=
    update_self _ _ _
  have there : ∀ other, other ≠ holder →
      ((s.setBackend holder backend).setObject index new).backends other = s.backends other :=
    fun other apart => update_of_ne apart _ _
  refine hygienic.frame exclusive rfl ?_ ?_
  · intro other before
    by_cases same : other = holder
    · subst same
      rw [here]
      by_cases was : object.kind = .transaction .active
      · exact .inl (active was)
      · rcases clean before was with kept | ⟨settled, owner, rfl, owns, now⟩
        · exact .inl kept
        · exact .inr ⟨settled, call, lent, index, owner, update_self _ _ _, owns, now⟩
    · rw [there other same]
      exact .inl before
  · intro target other borrowed _ settled owner
    by_cases same : other = holder
    · subst same
      rw [here]
      have equal := exclusive.unshared other (.borrower target) (.borrower call) borrowed lent
      rw [Pool.Place.borrower.inj equal] at owner
      exact .inl (active (linked.active_owner found owned owner))
    · rw [there other same]
      have kept : (s.setBackend holder backend).Active target := owner
      refine .inr ⟨settled, kept.setObject found ?_⟩
      rintro ⟨owns, -⟩
      rw [owned] at owns
      cases owns
      rw [lent] at borrowed
      exact same (Option.some.inj borrowed).symm

theorem Hygienic.destroy {thread index : Nat} {safety reply : Reply} {object : Object}
    {status : TransactionStatus} {released : State} (found : s.objects index = some object)
    (same : object.kind = .transaction .active → status = .active) (sent : safety.fault ≠ .unsent)
    (done : (s.safetyNet object status safety).release thread object reply = some released) :
    Hygienic (released.setObject index none) := by
  rcases net_release_cases done with ⟨unlocked, rfl⟩ |
    ⟨call, holder, backend, locked, -, -, net, rfl⟩
  · refine hygienic.frame exclusive rfl (fun _ => .inl) ?_
    intro call holder lent listed settled active
    refine .inr ⟨settled, active.setObject found ?_⟩
    rintro ⟨owns, -⟩
    rw [lock_eq_some.mpr ⟨owns, lent, listed⟩] at unlocked
    cases unlocked
  · obtain ⟨owned, lent, listed⟩ := lock_eq_some.mp locked
    -- The safety net ends the block of an active transaction; any other leaves none.
    have clean : backend.Clean := by
      rcases net with ⟨-, rfl⟩ | ⟨other, rfl⟩
      · exact Backend.exec_ends (.inr rfl) sent
      · rcases hygienic.lent call holder lent listed with clean | ⟨-, active⟩
        · exact clean
        · exact absurd (same (linked.active_owner found owned active)) other
    have left : Hygienic ((s.setBackend holder backend).setObject index none) :=
      hygienic.exec linked exclusive found owned lent (fun _ _ => .inl clean) (fun _ => clean)
    refine left.reset exclusive lent ?_
    change (update s.backends holder backend holder).Clean
    rw [update_self]
    exact clean

theorem Hygienic.transact {index : Nat} {needed success : TransactionStatus} {command : Command}
    {reply : Reply} {object : Object} (which : Control action index needed success command reply)
    (found : s.objects index = some object) (status : object.kind = .transaction needed)
    (tidy : Tidy s action) : Hygienic ((s.control object command reply).2.setObject index
      (some ⟨.transaction (if (s.control object command reply).1 then success else .failed),
        object.call, object.conn⟩)) := by
  have valid : needed ≠ .failed := by cases which <;> exact nofun
  obtain ⟨call, holder, owned, conn, lent⟩ := linked.transaction_owner found status valid
  rcases control_conn command reply conn with ⟨unused, sent⟩ | sent
  · rw [sent]
    refine hygienic.frame exclusive rfl (fun _ => .inl) ?_
    intro target other borrowed listed settled active
    refine .inr ⟨settled, active.setObject found ?_⟩
    rintro ⟨owns, -⟩
    -- The transaction would have its connection if its holder were alive.
    have locked := lock_eq_some.mpr ⟨owns, borrowed, listed⟩
    rw [owned] at owns
    cases owns
    rw [lent] at borrowed
    cases borrowed
    rw [connection_of_lock (linked.formed.known found) found locked conn] at unused
    cases unused
  · rw [sent]
    cases which with
    | begin =>
      refine hygienic.exec linked exclusive found owned lent ?_ ?_
      · intro clean _
        cases done : ((s.backends holder).exec .begin reply).1 with
        | true => exact .inr ⟨Backend.exec_settled nofun clean.settled, _, rfl, owned, rfl⟩
        | false => exact .inl (Backend.exec_begin clean tidy done)
      · intro active
        rw [status] at active
        cases active
    | commit =>
      refine hygienic.exec linked exclusive found owned lent ?_ ?_
      · exact fun _ _ => .inl (Backend.exec_ends (.inl rfl) tidy)
      · exact fun _ => Backend.exec_ends (.inl rfl) tidy
    | rollback =>
      refine hygienic.exec linked exclusive found owned lent ?_ ?_
      · exact fun _ _ => .inl (Backend.exec_ends (.inr rfl) tidy)
      · exact fun _ => Backend.exec_ends (.inr rfl) tidy

theorem Hygienic.change (tidy : Tidy s action) (change : Change s action s') :
    Hygienic s' := by
  cases change with
  | quiet quiet =>
    refine hygienic.frame exclusive quiet.pool ?_ ?_
    · exact fun holder clean => .inl (quiet.clean tidy holder clean)
    · exact fun call holder _ _ settled active =>
        .inr ⟨quiet.settled tidy holder settled, quiet.active active⟩
  | pool label pool other stepped =>
    obtain ⟨thread, effect, after, flow, unreclaimed, rfl⟩ := pool_step_cases other stepped
    exact hygienic.pool exclusive flow unreclaimed
  | forget => exact hygienic.moved exclusive rfl rfl fun _ active => active
  | construct kind call =>
    refine hygienic.moved exclusive rfl rfl fun _ active => ?_
    exact Has.addObject (linked.pass call).formed active
  | moveConstruct source object found =>
    exact hygienic.moved exclusive rfl rfl fun _ active => active.moveConstruct linked.formed found
  | moveAssign thread target source reply old new released found given apart _ done =>
    simp only [Tidy, found, Option.all_some, decide_eq_true_eq] at tidy
    exact hygienic.moveAssign linked exclusive found given apart tidy done
  | destroy thread index safety reply object status released found same done =>
    exact hygienic.destroy linked exclusive found same tidy done
  | transact which object found status =>
    exact hygienic.transact linked exclusive which found status tidy

end

end Change

theorem reachable_hygienic {config : Pool.PoolConfig} {fallback : Option Cleanup} {s : State}
    (reached : (system config fallback).ReachableBy Tidy s) : Hygienic s := by
  refine reached.invariant ?_ ?_
  · rintro _ ⟨pool, initial, rfl⟩
    have new : Backend.Clean {} := fun _ => ⟨rfl, rfl⟩
    exact ⟨fun _ _ _ _ _ => new, fun _ _ => new, fun _ _ _ _ => .inl new⟩
  · intro s label s' before hygienic tidy stepped
    have hosted := reachable_hosted before
    have exclusive := Pool.reachable_exclusive (Pool.reachable_within hosted.pool)
    exact hygienic.change hosted.linked exclusive tidy (step_change hosted.linked.formed stepped)

/-- In every run of tidy steps, no transaction block is open and no command in progress on a
connection that is free, assigned to a ready sync waiter, or posted to an async waiter or about to
be. -/
theorem pooled_connections_clean {config : Pool.PoolConfig} {fallback : Option Cleanup} {s : State}
    (reached : (system config fallback).ReachableBy Tidy s) :
    (∀ holder ∈ s.pool.free, (s.backends holder).Clean) ∧
    (∀ call holder, (s.pool.calls call).ready = true →
      (s.pool.calls call).assigned = some holder → (s.backends holder).Clean) ∧
    (∀ call holder, s.pool.executor call = some (.holder holder) → (s.backends holder).Clean) ∧
    (∀ thread call holder, s.pool.threads thread = .post call (.holder holder) →
      (s.backends holder).Clean) := by
  have hygienic := reachable_hygienic reached
  refine ⟨?_, ?_, ?_, ?_⟩
  · intro holder free
    exact hygienic.clean .free holder free (by simp) (by simp)
  · intro call holder ready assigned
    exact hygienic.clean (.waiter call) holder ⟨ready, assigned⟩ (by simp) (by simp)
  · intro call holder posted
    have held : s.pool.At (.posted call) holder := by
      rw [Pool.State.At, posted]
      rfl
    exact hygienic.clean (.posted call) holder held (by simp) (by simp)
  · intro thread call holder posting
    have held : s.pool.At (.thread thread) holder := by
      rw [Pool.State.At, posting]
      rfl
    refine hygienic.clean (.thread thread) holder held (by simp) ?_
    rintro _ dead ⟨⟩
    simp [posting]

/-- A committed transaction whose connection is free again. -/
theorem pooled_connections_clean_single : ∃ s,
    (system Pool.single none).ReachableBy Tidy s ∧ 0 ∈ s.pool.free ∧ (s.backends 0).Clean := by
  refine (system Pool.single none).exists_reachableBy Tidy ⟨_, ⟨[], 1, rfl, rfl⟩, rfl⟩
    (borrowing ++ [.construct (.transaction .idle) 0 true, .begin 0 {}, .withSync 0,
      .execute 1 none {}, .commit 0 {}, .destroy 0 1 {} {}, .destroy 0 0 {} {},
      .pool (.step 0 {})]) ⟨_, rfl, fun reached => ?_⟩
  exact ⟨by decide, (pooled_connections_clean reached).1 0 (by decide)⟩

/-- An async statement fails after it was sent; without a cleanup, its connection is free with the
command in progress. -/
theorem pooled_connection_in_progress : ∃ s, (system Pool.single none).Reachable s ∧
    0 ∈ s.pool.free ∧ (s.backends 0).alive = true ∧ (s.backends 0).progress = .command := by
  exact (system Pool.single none).exists_reachable ⟨_, ⟨[], 1, rfl, rfl⟩, rfl⟩
    (borrowing ++ [.construct .asyncExecutor 0 true, .execute 0 none { fault := .lost },
      .destroy 0 0 {} {}, .pool (.step 0 {})]) ⟨_, rfl, fun _ => ⟨by decide, rfl, rfl⟩⟩

end Menagerie.Elephant.Session
