import Menagerie.Elephant.Pool.Stock
import Menagerie.Elephant.Session.Changes

/-!
# Ownership of borrows

At most one object owns the borrow of a pool call, `reset()` is called at most once for it, and only
by its owner. The pool of a session runs as a pool.
-/

namespace Menagerie.Elephant.Session

open Elephant Function State Option

section Release

variable {s released : State} {thread call holder : Nat} {object : Object} {reply : Reply}

theorem State.lock_eq_some : s.lock object = some (call, holder) ↔
    object.call = some call ∧ s.pool.borrows call = some holder ∧ holder ∈ s.pool.holders := by
  unfold lock
  cases owner : object.call with
  | none => simp
  | some other =>
    cases lent : s.pool.borrows other with
    | none =>
      simp only [lent, reduceCtorEq, some.injEq, false_iff, not_and]
      rintro rfl
      rw [lent]
      exact nofun
    | some given =>
      by_cases listed : given ∈ s.pool.holders
      · simp only [lent, if_pos listed, some.injEq, Prod.mk.injEq]
        constructor
        · rintro ⟨rfl, rfl⟩
          exact ⟨rfl, lent, listed⟩
        · rintro ⟨rfl, found, -⟩
          rw [lent] at found
          exact ⟨rfl, some.inj found⟩
      · simp only [lent, if_neg listed, reduceCtorEq, some.injEq, false_iff, not_and]
        rintro rfl found
        rw [lent] at found
        rw [← some.inj found]
        exact listed

/-- A destroyed or assigned object gives its holder back, if it can be locked. -/
theorem release_cases (done : s.release thread object reply = some released) :
    s.lock object = none ∧ released = s ∨
      ∃ call holder, s.lock object = some (call, holder) ∧ thread < s.pool.threadCount ∧
        s.pool.threads thread = .ready ∧ released = s.reset thread call holder reply := by
  unfold release at done
  split at done
  · rename_i call holder locked
    split_ifs at done with outside
    cases done
    exact .inr ⟨call, holder, locked, outside.1, outside.2, rfl⟩
  · rename_i unlocked
    cases done
    exact .inl ⟨unlocked, rfl⟩

theorem net_release_cases {safety : Reply} {status : TransactionStatus}
    (done : (s.safetyNet object status safety).release thread object reply = some released) :
    s.lock object = none ∧ released = s ∨
      ∃ call holder backend, s.lock object = some (call, holder) ∧ thread < s.pool.threadCount ∧
        s.pool.threads thread = .ready ∧
        (status = .active ∧ backend = ((s.backends holder).exec .rollback safety).2 ∨
          status ≠ .active ∧ backend = s.backends holder) ∧
        released = (s.setBackend holder backend).reset thread call holder reply := by
  unfold safetyNet at done
  cases locked : s.lock object with
  | none =>
    rw [locked] at done
    rcases release_cases done with ⟨-, same⟩ | ⟨call, holder, lock, -⟩
    · exact .inl ⟨rfl, same⟩
    · rw [locked] at lock
      cases lock
  | some borrow =>
    obtain ⟨call, holder⟩ := borrow
    obtain ⟨backend, net, same⟩ : ∃ backend,
        (status = .active ∧ backend = ((s.backends holder).exec .rollback safety).2 ∨
          status ≠ .active ∧ backend = s.backends holder) ∧
        (s.setBackend holder backend).release thread object reply = some released := by
      simp only [locked] at done
      split_ifs at done with active
      · exact ⟨_, .inl ⟨active, rfl⟩, done⟩
      · refine ⟨_, .inr ⟨active, rfl⟩, ?_⟩
        rw [setBackend, update_eq_self]
        exact done
    have relocked : (s.setBackend holder backend).lock object = some (call, holder) := locked
    rcases release_cases same with ⟨unlocked, -⟩ | ⟨_, _, lock, known, outside, rfl⟩
    · rw [relocked] at unlocked
      cases unlocked
    · rw [relocked] at lock
      cases lock
      exact .inr ⟨call, holder, backend, rfl, known, outside, net, rfl⟩

theorem release_frame {safety : Reply} {status : TransactionStatus}
    (done : (s.safetyNet object status safety).release thread object reply = some released) :
    released.objects = s.objects ∧ released.passed = s.passed ∧
      released.pool.drained = s.pool.drained := by
  rcases net_release_cases done with ⟨-, rfl⟩ | ⟨_, _, _, -, -, -, -, rfl⟩
  · exact ⟨rfl, rfl, rfl⟩
  · exact ⟨rfl, rfl, rfl⟩

theorem control_cases (s : State) (object : Object) (command : Command) (reply : Reply) :
    ∃ backends, (s.control object command reply).2 = { s with backends } := by
  unfold State.control
  split
  · exact ⟨_, rfl⟩
  · exact ⟨_, rfl⟩

theorem State.reset_flow (reply : Reply) (outside : s.pool.threads thread = .ready)
    (lent : s.pool.borrows call = some holder) :
    Pool.Flow s.pool (s.pool.threads thread) (.reclaim call)
      (if (s.runCleanupSql holder reply).1 then .returnHolder holder else .dropDead holder) := by
  rw [outside]
  split_ifs
  · exact .returned call holder lent
  · exact .dropped call holder lent

theorem State.reset_step (reply : Reply) (known : thread < s.pool.threadCount)
    (outside : s.pool.threads thread = .ready) (lent : s.pool.borrows call = some holder) :
    Pool.step s.pool (.begin thread (.reset call (s.runCleanupSql holder reply).1)) =
      some (s.reset thread call holder reply).pool := by
  simp only [Pool.step, known, outside, and_self, if_true, Pool.start, lent, reset]
  split_ifs
  · rfl
  · rfl

section

variable {pool : Pool.State} {action : Pool.Action} (other : starts action = false)

include other

/-- Only `reset()` takes a holder from its borrower. -/
theorem within_unreclaimed :
    Pool.within (fun _ _ effect _ => ∀ call, effect ≠ .reclaim call) pool action := by
  rintro ⟨effect, after⟩ moved call rfl
  cases action with
  | begin thread operation =>
    change Pool.start pool operation = some (.reclaim call, after) at moved
    cases operation with
    | reset => cases other
    | acquire | shutdown => cases moved
    | timer | deliver =>
      simp only [Pool.start, ite_none_right_eq_some] at moved
      cases moved.2
  | step thread choice =>
    change Pool.next pool choice (pool.threads thread) = some (.reclaim call, after) at moved
    have flow := Pool.next_flow moved
    generalize pool.threads thread = frame at flow moved
    cases flow with
    | returned => cases moved
    | dropped => cases moved

theorem pool_step_cases {pool' : Pool.State} (stepped : Pool.step pool action = some pool') :
    ∃ thread effect after, Pool.Flow pool (pool.threads thread) effect after ∧
      (∀ call, effect ≠ .reclaim call) ∧ pool' = pool.perform thread (effect, after) := by
  obtain ⟨thread, effect, after, -, flow, unreclaimed, same⟩ :=
    Pool.step_cases stepped (within_unreclaimed other)
  exact ⟨thread, effect, after, flow, unreclaimed, same⟩

end

end Release

section Connection

variable {s : State} {index call holder : Nat} {object : Object}

theorem State.connection_of_lock (known : index < s.objectCount)
    (found : s.objects index = some object) (locked : s.lock object = some (call, holder))
    (conn : object.conn = some holder) : s.connection object = some holder := by
  unfold connection
  rw [conn]
  refine if_pos (List.any_eq_true.mpr ⟨index, List.mem_range.mpr known, ?_⟩)
  rw [found, bind_some, locked]
  exact decide_eq_true rfl

theorem State.control_conn (command : Command) (reply : Reply) (conn : object.conn = some holder) :
    s.connection object = none ∧ s.control object command reply = (false, s) ∨
      s.control object command reply = (((s.backends holder).exec command reply).1,
        s.setBackend holder ((s.backends holder).exec command reply).2) := by
  unfold control
  cases used : s.connection object with
  | none => exact .inl ⟨rfl, rfl⟩
  | some given =>
    simp only [connection, conn, ite_none_right_eq_some, some.injEq] at used
    rw [used.2]
    exact .inr rfl

end Connection

def State.Has (s : State) (wanted : Object → Prop) : Prop :=
  ∃ index object, s.objects index = some object ∧ wanted object

section Has

variable {s : State} {wanted : Object → Prop}

theorem State.Has.setObject {index : Nat} {old : Object} {new : Option Object} (has : s.Has wanted)
    (found : s.objects index = some old) (other : ¬ wanted old) :
    (s.setObject index new).Has wanted := by
  obtain ⟨place, object, here, suits⟩ := has
  have apart : place ≠ index := by
    rintro rfl
    rw [found] at here
    cases here
    exact other suits
  refine ⟨place, object, ?_, suits⟩
  rw [setObject_of_ne apart]
  exact here

theorem State.Has.addObject {new : Object} (formed : Formed s) (has : s.Has wanted) :
    (s.addObject new).Has wanted := by
  obtain ⟨place, object, found, suits⟩ := has
  have known := formed.known found
  have apart : place ≠ s.objectCount := by omega
  exact ⟨place, object, (setObject_of_ne apart (some new)).trans found, suits⟩

theorem State.Has.moveConstruct {source : Nat} {object : Object} (formed : Formed s)
    (found : s.objects source = some object) (has : s.Has wanted) :
    ((s.setObject source (some ⟨object.kind.moved, none, none⟩)).addObject object).Has wanted := by
  by_cases suits : wanted object
  · exact ⟨s.objectCount, object, update_self _ _ _, suits⟩
  · refine (has.setObject found suits).addObject (formed.setObject (formed.known found) ?_)
    rintro _ ⟨⟩
    exact object.kind.moved_shaped

theorem State.Has.take {target source : Nat} {old new : Object}
    (found : s.objects target = some old) (given : s.objects source = some new)
    (apart : target ≠ source) (other : ¬ wanted old) (has : s.Has wanted) :
    ((s.setObject target (some new)).setObject source
      (some ⟨new.kind.moved, none, none⟩)).Has wanted := by
  by_cases suits : wanted new
  · refine ⟨target, new, ?_, suits⟩
    rw [setObject_of_ne apart]
    exact update_self _ _ _
  · have there : (s.setObject target (some new)).objects source = some new := by
      rw [setObject_of_ne apart.symm]
      exact given
    exact (has.setObject found other).setObject there suits

/-- A quiet step changes no object that owns a borrow. -/
theorem Quiet.has {s' : State} {action : Action} (quiet : Quiet s action s')
    (owner : ∀ object, wanted object → object.call ≠ none) (has : s.Has wanted) :
    s'.Has wanted := by
  obtain ⟨index, object, found, suits⟩ := has
  exact ⟨index, object, (quiet.owners index object (owner object suits)).mpr found, suits⟩

end Has

def State.Owns (s : State) (index call : Nat) : Prop :=
  ∃ object, s.objects index = some object ∧ object.call = some call

/-- The borrow was passed on and not given back, and `conn_` is its connection. -/
def State.Available (s : State) (object : Object) (call : Nat) : Prop :=
  s.passed call = true ∧ s.resets call = 0 ∧
    ∃ holder, object.conn = some holder ∧ s.pool.borrows call = some holder

/-- Objects and borrows agree. -/
structure Linked (s : State) : Prop where
  formed : Formed s
  owner : ∀ index object call, s.objects index = some object → object.call = some call →
    s.Available object call
  unique : Placement.Unshared s.Owns
  gone : ∀ call, s.resets call ≠ 0 →
    s.resets call = 1 ∧ s.passed call = true ∧ s.pool.Spent call

section Linked

variable {s s' : State} {index : Nat} {object : Option Object} {thread call holder : Nat}
  {reply : Reply}

section

variable (linked : Linked s)

include linked

/-- One object changes; whatever it owns nobody else owns. -/
theorem Linked.update (formed : Formed s') (pool : s'.pool = s.pool) (passed : s'.passed = s.passed)
    (resets : s'.resets = s.resets) (objects : s'.objects = update s.objects index object)
    (bound : ∀ new call, object = some new → new.call = some call → s.Available new call ∧ ∀ other,
      s.Owns other call → other = index) : Linked s' := by
  refine ⟨formed, ?_, ?_, ?_⟩
  · intro other found call here owns
    rw [objects] at here
    unfold Available
    rw [pool, passed, resets]
    rcases update_apply_eq.mp here with ⟨-, new⟩ | ⟨-, here⟩
    · exact (bound found call new owns).1
    · exact linked.owner other found call here owns
  · -- The changed object owns what it owned, or what nobody else owns.
    have before : ∀ other call, s'.Owns other call →
        other = index ∧ (∀ another, s.Owns another call → another = index) ∨
          other ≠ index ∧ s.Owns other call := by
      rintro other call ⟨found, here, owns⟩
      rw [objects] at here
      rcases update_apply_eq.mp here with ⟨same, new⟩ | ⟨same, here⟩
      · exact .inl ⟨same, (bound found call new owns).2⟩
      · exact .inr ⟨same, found, here, owns⟩
    intro call left right first second
    rcases before left call first with ⟨rfl, only⟩ | ⟨apart, here⟩
    · rcases before right call second with ⟨rfl, -⟩ | ⟨-, there⟩
      · rfl
      · exact (only right there).symm
    · rcases before right call second with ⟨rfl, only⟩ | ⟨-, there⟩
      · exact only left here
      · exact linked.unique call left right here there
  · rw [pool, passed, resets]
    exact linked.gone

/-- An object is replaced by one that owns nothing. -/
theorem Linked.disown (known : index < s.objectCount)
    (free : ∀ new, object = some new → new.call = none ∧ new.Shaped) :
    Linked (s.setObject index object) := by
  refine linked.update (linked.formed.setObject known fun new same => (free new same).2) rfl rfl rfl
    rfl ?_
  intro new call same owns
  rw [(free new same).1] at owns
  cases owns

theorem Linked.connections (backends : Nat → Backend) :
    Linked { s with backends } :=
  ⟨⟨linked.formed.beyond, linked.formed.shaped⟩, linked.owner, linked.unique, linked.gone⟩

theorem Linked.reset (exclusive : Pool.Exclusive s.pool) (tracked : Pool.Tracked s.pool)
    (explained : Pool.Explained s.pool) (outside : s.pool.threads thread = .ready)
    (lent : s.pool.borrows call = some holder) (passed : s.passed call = true)
    (first : s.resets call = 0) (nobody : ∀ index, ¬ s.Owns index call) :
    Linked (s.reset thread call holder reply) := by
  refine ⟨⟨linked.formed.beyond, linked.formed.shaped⟩, ?_, linked.unique, ?_⟩
  · intro index owner other found owns
    have apart : other ≠ call := by
      rintro rfl
      exact nobody index ⟨owner, found, owns⟩
    change s.passed other = true ∧ Function.update s.resets call _ other = 0 ∧
      ∃ holder, owner.conn = some holder ∧
        Function.update s.pool.borrows call none other = some holder
    rw [update_of_ne apart, update_of_ne apart]
    exact linked.owner index owner other found owns
  · intro other more
    change Function.update s.resets call (s.resets call + 1) other ≠ 0 at more
    change Function.update s.resets call (s.resets call + 1) other = 1 ∧ s.passed other = true ∧
      (s.pool.perform thread _).Spent other
    by_cases same : other = call
    · subst same
      rw [update_self, first]
      exact ⟨rfl, passed, explained.reclaim_spent tracked exclusive lent⟩
    · rw [update_of_ne same] at more ⊢
      obtain ⟨once, before, spent⟩ := linked.gone other more
      exact ⟨once, before, tracked.spent_move (reset_flow reply outside lent) spent⟩

theorem Linked.pool (tracked : Pool.Tracked s.pool) (explained : Pool.Explained s.pool)
    {effect : Pool.Effect} {after : Pool.Frame}
    (flow : Pool.Flow s.pool (s.pool.threads thread) effect after)
    (other : ∀ call, effect ≠ .reclaim call) :
    Linked { s with pool := s.pool.perform thread (effect, after) } := by
  refine ⟨⟨linked.formed.beyond, linked.formed.shaped⟩, ?_, linked.unique, ?_⟩
  · intro index owner call found owns
    obtain ⟨passed, first, holder, conn, lent⟩ := linked.owner index owner call found owns
    exact ⟨passed, first, holder, conn, explained.borrow_kept tracked flow other lent⟩
  · intro call more
    obtain ⟨once, passed, spent⟩ := linked.gone call more
    exact ⟨once, passed, tracked.spent_move flow spent⟩

theorem Linked.pass (call : Nat) :
    Linked { s with passed := Function.update s.passed call true } := by
  have later : ∀ other, s.passed other = true →
      Function.update s.passed call true other = true := by
    intro other passed
    rw [update_apply, passed, ite_self]
  refine ⟨⟨linked.formed.beyond, linked.formed.shaped⟩, ?_, linked.unique, ?_⟩
  · intro index owner other found owns
    obtain ⟨passed, rest⟩ := linked.owner index owner other found owns
    exact ⟨later other passed, rest⟩
  · intro other more
    obtain ⟨once, passed, spent⟩ := linked.gone other more
    exact ⟨once, later other passed, spent⟩

theorem Linked.unpassed (fresh : s.passed call = false) :
    s.resets call = 0 ∧ ∀ index, ¬ s.Owns index call := by
  constructor
  · by_contra more
    rw [(linked.gone call more).2.1] at fresh
    cases fresh
  · rintro index ⟨owner, found, owns⟩
    rw [(linked.owner index owner call found owns).1] at fresh
    cases fresh

theorem Linked.transaction_owner {object : Object} {status : TransactionStatus}
    (found : s.objects index = some object) (kind : object.kind = .transaction status)
    (valid : status ≠ .failed) :
    ∃ call holder, object.call = some call ∧ object.conn = some holder ∧
      s.pool.borrows call = some holder := by
  have shaped := linked.formed.shaped index object found
  unfold Object.Shaped at shaped
  rw [kind] at shaped
  cases owned : object.call with
  | none => exact absurd (shaped owned) valid
  | some call =>
    obtain ⟨-, -, holder, conn, lent⟩ := linked.owner index object call found owned
    exact ⟨call, holder, rfl, conn, lent⟩

end

end Linked

section Change

variable {s s' : State} {action : Action} {config : Pool.PoolConfig}

theorem Change.pool_moves (change : Change s action s') :
    s'.pool = s.pool ∨ ∃ label, Pool.step s.pool label = some s'.pool := by
  cases change with
  | quiet quiet => exact .inl quiet.pool
  | pool label pool _ stepped => exact .inr ⟨label, stepped⟩
  | forget | construct | moveConstruct => exact .inl rfl
  | moveAssign thread target source reply old new after _ _ _ _ done =>
    rcases release_cases done with ⟨-, rfl⟩ | ⟨call, holder, locked, known, outside, rfl⟩
    · exact .inl rfl
    · exact .inr ⟨_, reset_step reply known outside (lock_eq_some.mp locked).2.1⟩
  | destroy thread index safety reply object status after _ _ done =>
    rcases net_release_cases done with ⟨-, rfl⟩ |
      ⟨_, holder, backend, locked, known, outside, -, rfl⟩
    · exact .inl rfl
    · have lent := (lock_eq_some.mp locked).2.1
      exact .inr ⟨_, reset_step (s := s.setBackend holder backend) reply known outside lent⟩
  | @transact _ _ _ _ command reply _ object =>
    obtain ⟨backends, same⟩ := control_cases s object command reply
    rw [same]
    exact .inl rfl

theorem Linked.moveConstruct (linked : Linked s) {source : Nat} {object : Object}
    (found : s.objects source = some object) :
    Linked ((s.setObject source (some ⟨object.kind.moved, none, none⟩)).addObject object) := by
  have left : Linked (s.setObject source (some ⟨object.kind.moved, none, none⟩)) := by
    refine linked.disown (linked.formed.known found) ?_
    rintro new ⟨⟩
    exact ⟨rfl, object.kind.moved_shaped⟩
  refine left.update (left.formed.addObject (linked.formed.shaped source object found)) rfl rfl rfl
    rfl ?_
  rintro new call ⟨⟩ owns
  refine ⟨linked.owner source object call found owns, ?_⟩
  rintro other ⟨owner, here, also⟩
  rcases update_apply_eq.mp here with ⟨-, ⟨⟩⟩ | ⟨same, here⟩
  · cases also
  · exact absurd (linked.unique call other source ⟨owner, here, also⟩ ⟨object, found, owns⟩) same

theorem Linked.take (linked : Linked s) {target source : Nat} {old new : Object}
    (found : s.objects target = some old) (given : s.objects source = some new)
    (apart : target ≠ source) :
    Linked ((s.setObject target (some new)).setObject source (some ⟨new.kind.moved, none, none⟩)) ∧
      ∀ call, old.call = some call → ∀ index, ¬ ((s.setObject target (some new)).setObject source
        (some ⟨new.kind.moved, none, none⟩)).Owns index call := by
  have left : Linked (s.setObject source (some ⟨new.kind.moved, none, none⟩)) := by
    refine linked.disown (linked.formed.known given) ?_
    rintro _ ⟨⟩
    exact ⟨rfl, new.kind.moved_shaped⟩
  have swap : (s.setObject target (some new)).setObject source (some ⟨new.kind.moved, none, none⟩) =
      (s.setObject source (some ⟨new.kind.moved, none, none⟩)).setObject target (some new) := by
    unfold setObject
    rw [update_comm apart]
  -- Whoever else owns a borrow after the source has been emptied owned it before.
  have others : ∀ index call,
      (s.setObject source (some ⟨new.kind.moved, none, none⟩)).Owns index call →
      index ≠ source ∧ s.Owns index call := by
    rintro index call ⟨owner, here, also⟩
    rcases update_apply_eq.mp here with ⟨rfl, ⟨⟩⟩ | ⟨same, here⟩
    · cases also
    · exact ⟨same, owner, here, also⟩
  rw [swap]
  constructor
  · refine left.update (left.formed.setObject (linked.formed.known found) ?_) rfl rfl rfl rfl ?_
    · rintro _ ⟨⟩
      exact linked.formed.shaped source new given
    · rintro _ call ⟨⟩ owns
      refine ⟨linked.owner source new call given owns, ?_⟩
      intro other also
      obtain ⟨different, before⟩ := others other call also
      exact absurd (linked.unique call other source before ⟨new, given, owns⟩) different
  · rintro call owned index ⟨owner, here, also⟩
    rcases update_apply_eq.mp here with ⟨rfl, ⟨⟩⟩ | ⟨same, here⟩
    · exact apart (linked.unique call index source ⟨old, found, owned⟩ ⟨_, given, also⟩)
    · have before := (others index call ⟨owner, here, also⟩).2
      exact same (linked.unique call index target before ⟨old, found, owned⟩)

theorem Linked.change (linked : Linked s) (reached : (Pool.system config).Reachable s.pool)
    (change : Change s action s') : Linked s' := by
  have within := Pool.reachable_within reached
  have exclusive := Pool.reachable_exclusive within
  have tracked := Pool.reachable_tracked within
  have explained := Pool.reachable_explained within
  cases change with
  | quiet quiet =>
    refine ⟨quiet.formed, ?_, ?_, ?_⟩
    · intro index object call found owns
      have before := (quiet.owners index object (by rw [owns]; exact nofun)).mp found
      unfold Available
      rw [quiet.pool, quiet.passed, quiet.resets]
      exact linked.owner index object call before owns
    · refine linked.unique.keep ?_
      rintro index call ⟨object, found, owns⟩
      exact ⟨object, (quiet.owners index object (by rw [owns]; exact nofun)).mp found, owns⟩
    · rw [quiet.pool, quiet.passed, quiet.resets]
      exact linked.gone
  | pool label pool other stepped =>
    obtain ⟨thread, effect, after, flow, unreclaimed, rfl⟩ := pool_step_cases other stepped
    exact linked.pool tracked explained flow unreclaimed
  | forget kind call => exact linked.pass call
  | construct kind call holder usable borrowed fresh new =>
    have passed := linked.pass call
    have shaped : Object.Shaped ⟨kind, some call, some holder⟩ := by
      rcases new with rfl | rfl | rfl
      · trivial
      · trivial
      · exact nofun
    refine passed.update (passed.formed.addObject shaped) rfl rfl rfl rfl ?_
    rintro _ _ ⟨⟩ ⟨⟩
    obtain ⟨first, nobody⟩ := linked.unpassed fresh
    refine ⟨⟨Function.update_self _ _ _, first, holder, rfl, borrowed⟩, ?_⟩
    exact fun other owns => absurd owns (nobody other)
  | moveConstruct source object found => exact linked.moveConstruct found
  | moveAssign thread target source reply old new released found given apart _ done =>
    obtain ⟨taken, nobody⟩ := linked.take found given apart
    rcases release_cases done with ⟨-, rfl⟩ | ⟨call, holder, locked, -, outside, rfl⟩
    · exact taken
    · obtain ⟨owned, lent, -⟩ := lock_eq_some.mp locked
      obtain ⟨passed, first, -⟩ := linked.owner target old call found owned
      exact taken.reset exclusive tracked explained outside lent passed first (nobody call owned)
  | destroy thread index safety reply object status released found _ done =>
    have known := linked.formed.known found
    rcases net_release_cases done with ⟨-, rfl⟩ |
      ⟨call, holder, backend, locked, -, outside, -, rfl⟩
    · exact linked.disown known nofun
    · obtain ⟨owned, lent, -⟩ := lock_eq_some.mp locked
      obtain ⟨passed, first, -⟩ := linked.owner index object call found owned
      have left : Linked ((s.setBackend holder backend).setObject index none) :=
        (linked.connections _).disown known nofun
      refine left.reset exclusive tracked explained outside lent passed first ?_
      rintro other ⟨owner, here, also⟩
      rcases update_apply_eq.mp here with ⟨rfl, ⟨⟩⟩ | ⟨here_, here⟩
      exact here_ (linked.unique call other index ⟨owner, here, also⟩ ⟨object, found, owned⟩)
  | @transact _ index _ _ command reply which object found status =>
    obtain ⟨backends, same⟩ := control_cases s object command reply
    rw [same]
    have sent := linked.connections backends
    refine sent.update (sent.formed.setObject (linked.formed.known found) ?_) rfl rfl rfl rfl ?_
    · rintro _ ⟨⟩ unowned
      -- Only a transaction that has been moved from has no holder, and it is not in use.
      have shaped := linked.formed.shaped index object found
      unfold Object.Shaped at shaped
      rw [status] at shaped
      have failed := shaped unowned
      subst failed
      cases which
    · rintro _ call ⟨⟩ owns
      refine ⟨linked.owner index object call found owns, ?_⟩
      exact fun other also => linked.unique call other index also ⟨object, found, owns⟩

/-- The pool runs as a pool, and borrows are linked to owners. -/
structure Hosted (config : Pool.PoolConfig) (s : State) : Prop where
  pool : (Pool.system config).Reachable s.pool
  linked : Linked s

theorem reachable_hosted {fallback : Option Cleanup} {guard : State → Action → Prop}
    (reached : (system config fallback).ReachableBy guard s) : Hosted config s := by
  refine reached.invariant ?_ ?_
  · rintro _ ⟨pool, initial, rfl⟩
    refine ⟨⟨pool, initial, .refl⟩, ⟨fun _ _ => rfl, nofun⟩, nofun, ?_, ?_⟩
    · rintro call left right ⟨object, found, -⟩
      cases found
    · exact fun call more => absurd rfl more
  · intro s label s' _ hosted _ stepped
    have change := step_change hosted.linked.formed stepped
    refine ⟨?_, hosted.linked.change hosted.pool change⟩
    rcases change.pool_moves with same | ⟨poolLabel, moved⟩
    · rw [same]
      exact hosted.pool
    · exact hosted.pool.leads (.tail .refl trivial moved)

end Change

theorem reachable_of_run {config : Pool.PoolConfig} {fallback : Option Cleanup} {s : State}
    {pool : Pool.State} {trace : List Action} (initial : (Pool.system config).initial pool)
    (executed : (system config fallback).run { pool, fallback } trace = some s) :
    (system config fallback).Reachable s :=
  ⟨_, ⟨pool, initial, rfl⟩, Transition.System.leads_of_run executed⟩

/-- In every reachable state the connection of an object that owns a borrow is lent for it and at no
other place of the pool, and no other owner uses it. -/
theorem owned_connections_isolated {config : Pool.PoolConfig} {fallback : Option Cleanup}
    {s : State} (reached : (system config fallback).Reachable s) :
    ∀ index object call, s.objects index = some object → object.call = some call →
      ∃ holder, object.conn = some holder ∧
        (∀ place, s.pool.At place holder ↔ place = .borrower call) ∧
        ∀ other twin, s.objects other = some twin → twin.call.isSome → twin.conn = some holder →
          other = index := by
  intro index object call alive owned
  have hosted := reachable_hosted reached
  have exclusive := Pool.reachable_exclusive (Pool.reachable_within hosted.pool)
  obtain ⟨-, -, holder, conn, lent⟩ := hosted.linked.owner index object call alive owned
  have only : ∀ place, s.pool.At place holder → place = .borrower call := fun place held =>
    exclusive.unshared holder place (.borrower call) held lent
  refine ⟨holder, conn, fun place => ⟨only place, fun same => same ▸ lent⟩, ?_⟩
  intro other twin found owns same
  obtain ⟨back, owns⟩ := isSome_iff_exists.mp owns
  obtain ⟨-, -, given, linked, borrowed⟩ := hosted.linked.owner other twin back found owns
  have shared : given = holder := some.inj (linked.symm.trans same)
  cases only (.borrower back) (shared ▸ borrowed)
  exact hosted.linked.unique call other index ⟨twin, found, owns⟩ ⟨object, alive, owned⟩

/-- A moved executor has the only connection. -/
theorem owned_connections_isolated_moved : ∃ s, (system Pool.single none).Reachable s ∧
    (s.objects 0).isSome ∧ ∃ object, s.objects 1 = some object ∧ object.conn = some 0 ∧
      ∀ place, s.pool.At place 0 ↔ place = .borrower 0 := by
  refine (system Pool.single none).exists_reachable ⟨_, ⟨[], 1, rfl, rfl⟩, rfl⟩
    (borrowing ++ [.construct .asyncExecutor 0 true, .moveConstruct 0])
    ⟨_, rfl, fun reached => ⟨rfl, _, rfl, rfl, ?_⟩⟩
  obtain ⟨holder, conn, only, -⟩ := owned_connections_isolated reached 1 _ 0 rfl rfl
  cases conn
  exact only

end Menagerie.Elephant.Session
