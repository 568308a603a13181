import Menagerie.Elephant.Session.Ownership

/-!
# What a successful commit means

While a transaction is active, a block is open on its connection, sound or failed. A `COMMIT` ends
either of them with the same status.
-/

namespace Menagerie.Elephant.Session

open Elephant Function

/-- A successful `COMMIT` has committed exactly the sound block. -/
theorem Backend.exec_commit {b : Backend} {reply : Reply} (opened : b.Open)
    (done : (b.exec .commit reply).1 = true) :
    (b.exec .commit reply).2.ended = some .committed ↔ b.discard.block = .inTransaction := by
  unfold Backend.exec at done ⊢
  split_ifs at done ⊢ with up
  have started : b.discard.block ≠ .idle := by
    rw [ne_eq, b.discard_spec.1]
    exact opened up
  cases fault : reply.fault with
  | none =>
    rw [fault] at done
    cases block : b.discard.block with
    | idle => exact absurd block started
    | inTransaction =>
      cases accepted : reply.accepted with
      | true => simp [Backend.process, block, Backend.close]
      | false =>
        rw [accepted] at done
        simp [Backend.process, block] at done
    | failedTransaction => simp [Backend.process, block, Backend.close]
  | _ =>
    rw [fault] at done
    cases done

/-- Active transactions have an open block on their connection. -/
def Opened (s : State) : Prop :=
  ∀ index object holder, s.objects index = some object → object.kind = .transaction .active →
    object.conn = some holder → (s.backends holder).Open

theorem Kind.moved_inactive (kind : Kind) : kind.moved ≠ .transaction .active := by
  cases kind <;> exact nofun

section Opened

variable {s s' : State} {action : Action}

theorem Opened.frame (opened : Opened s)
    (kept : ∀ index object, s'.objects index = some object → object.kind = .transaction .active →
      ∃ before, s.objects before = some object ∧ ∀ holder, object.conn = some holder →
        (s.backends holder).Open → (s'.backends holder).Open) : Opened s' := by
  intro index object holder found active conn
  obtain ⟨before, was, stays⟩ := kept index object found active
  exact stays holder conn (opened before object holder was active conn)

section

variable (linked : Linked s) (exclusive : Pool.Exclusive s.pool) {index other holder : Nat}
  {object owner : Object}

include linked exclusive

theorem Linked.apart_holders {call given : Nat} (found : s.objects index = some object)
    (active : object.kind = .transaction .active) (conn : object.conn = some given)
    (there : s.objects other = some owner) (owned : owner.call = some call)
    (lent : s.pool.borrows call = some holder) (apart : index ≠ other) : given ≠ holder := by
  rintro rfl
  obtain ⟨mine, held, owns, same, borrowed⟩ := linked.transaction_owner found active nofun
  rw [conn] at same
  cases same
  have equal := exclusive.unshared given (.borrower mine) (.borrower call) borrowed lent
  cases equal
  exact apart (linked.unique call index other ⟨object, found, owns⟩ ⟨owner, there, owned⟩)

theorem Linked.release_open {thread : Nat} {status : TransactionStatus} {safety reply : Reply}
    {released : State} (there : s.objects other = some owner)
    (done : (s.safetyNet owner status safety).release thread owner reply = some released)
    (found : s.objects index = some object) (active : object.kind = .transaction .active)
    (apart : index ≠ other) (holder : Nat) (conn : object.conn = some holder) :
    (s.backends holder).Open → (released.backends holder).Open := by
  rcases net_release_cases done with ⟨-, rfl⟩ | ⟨call, given, backend, locked, -, -, -, rfl⟩
  · exact id
  · obtain ⟨owned, lent, -⟩ := State.lock_eq_some.mp locked
    have different := linked.apart_holders exclusive found active conn there owned lent apart
    change _ → (Function.update (Function.update s.backends given _) given _ holder).Open
    rw [update_of_ne different, update_of_ne different]
    exact id

end

theorem Opened.change (opened : Opened s) (linked : Linked s)
    (exclusive : Pool.Exclusive s.pool) (change : Change s action s') : Opened s' := by
  cases change with
  | quiet quiet =>
    -- An active transaction owns a borrow, before the step as well as after it.
    refine opened.frame fun index object found active =>
      ⟨index, ?_, fun holder _ => quiet.opened holder⟩
    have owned : object.call ≠ none := by
      intro unowned
      have shaped := quiet.formed.shaped index object found
      unfold Object.Shaped at shaped
      rw [active] at shaped
      cases shaped unowned
    exact (quiet.owners index object owned).mp found
  | pool | forget => exact opened.frame fun index object found _ => ⟨index, found, fun _ _ => id⟩
  | construct kind call holder usable _ _ new =>
    refine opened.frame fun index object found active => ⟨index, ?_, fun _ _ => id⟩
    rcases update_apply_eq.mp found with ⟨rfl, ⟨⟩⟩ | ⟨same, found⟩
    · rcases new with h | h | h
      · cases h.symm.trans active
      · cases h.symm.trans active
      · cases h.symm.trans active
    · exact found
  | moveConstruct source moved given =>
    refine opened.frame fun index object found active => ?_
    rcases update_apply_eq.mp found with ⟨-, ⟨⟩⟩ | ⟨-, found⟩
    · exact ⟨source, given, fun _ _ => id⟩
    · rcases update_apply_eq.mp found with ⟨-, ⟨⟩⟩ | ⟨-, found⟩
      · exact absurd active moved.kind.moved_inactive
      · exact ⟨index, found, fun _ _ => id⟩
  | moveAssign thread target source reply old new released there given apart _ done =>
    have net : s.safetyNet old .idle {} = s := State.safetyNet_inactive nofun
    rw [← net] at done
    refine opened.frame fun index object found active => ?_
    rcases update_apply_eq.mp found with ⟨-, ⟨⟩⟩ | ⟨-, found⟩
    · exact absurd active new.kind.moved_inactive
    · rcases update_apply_eq.mp found with ⟨-, ⟨⟩⟩ | ⟨here, found⟩
      · have kept := linked.release_open exclusive there done given active apart.symm
        exact ⟨source, given, kept⟩
      · rw [(release_frame done).1] at found
        have kept := linked.release_open exclusive there done found active here
        exact ⟨index, found, kept⟩
  | destroy thread other safety reply owner status released there _ done =>
    refine opened.frame fun index object found active => ?_
    rcases update_apply_eq.mp found with ⟨-, ⟨⟩⟩ | ⟨same, found⟩
    rw [(release_frame done).1] at found
    have kept := linked.release_open exclusive there done found active same
    exact ⟨index, found, kept⟩
  | @transact _ other needed success command reply which owner there status =>
    have valid : needed ≠ .failed := by cases which <;> exact nofun
    obtain ⟨call, given, owned, conn, lent⟩ := linked.transaction_owner there status valid
    intro index object holder found active used
    rcases update_apply_eq.mp found with ⟨rfl, ⟨⟩⟩ | ⟨same, found⟩
    · -- The transaction has just become active.
      have done : (s.control owner command reply).1 = true := by
        by_contra failed
        rw [if_neg failed] at active
        cases active
      rw [if_pos done] at active
      change owner.conn = some holder at used
      rcases State.control_conn command reply used with ⟨-, sent⟩ | sent
      · rw [sent] at done
        cases done
      · rw [sent] at done ⊢
        cases which with
        | begin =>
          change (update s.backends holder _ holder).Open
          rw [update_self]
          exact Backend.exec_begin_open done
        | commit => cases active
        | rollback => cases active
    · rw [s.control_objects] at found
      have different :=
        linked.apart_holders exclusive found active used there owned lent same
      have before := opened index object holder found active used
      rcases State.control_conn command reply conn with ⟨-, sent⟩ | sent
      · rw [sent]
        exact before
      · rw [sent]
        change (update s.backends given _ holder).Open
        rw [update_of_ne different]
        exact before

end Opened

/-- In every reachable state active transactions have an open block. -/
theorem reachable_opened {config : Pool.PoolConfig} {fallback : Option Cleanup} {s : State}
    (reached : (system config fallback).Reachable s) : Opened s := by
  refine reached.invariant ?_ ?_
  · rintro _ ⟨pool, initial, rfl⟩ index object holder found
    cases found
  · intro s label s' before opened _ stepped
    have hosted := reachable_hosted before
    have exclusive := Pool.reachable_exclusive (Pool.reachable_within hosted.pool)
    exact opened.change hosted.linked exclusive (step_change hosted.linked.formed stepped)

/-- When `commit()` of an active transaction reports success, the server has committed exactly if
the block had not failed before. -/
theorem commit_reports_sound_blocks {config : Pool.PoolConfig} {fallback : Option Cleanup}
    {s s' : State} (reached : (system config fallback).Reachable s) {index : Nat} {object : Object}
    {reply : Reply} (found : s.objects index = some object)
    (active : object.kind = .transaction .active)
    (stepped : step s (.commit index reply) = some s')
    (reported : (s'.objects index).map Object.kind = some (.transaction .committed)) :
    ∃ holder, object.conn = some holder ∧
      ((s'.backends holder).ended = some .committed ↔
        (s.backends holder).discard.block = .inTransaction) := by
  have linked := (reachable_hosted reached).linked
  obtain ⟨call, holder, -, conn, -⟩ := linked.transaction_owner found active nofun
  have opened := reachable_opened reached index object holder found active conn
  change s.transact index .active .committed .commit reply = some s' at stepped
  simp only [State.transact, found, Option.bind_some, active, if_true, Option.some.injEq]
    at stepped
  subst stepped
  have done : (s.control object .commit reply).1 = true := by
    by_contra failed
    rw [if_neg failed] at reported
    change Option.map Object.kind
      (update (s.control object .commit reply).2.objects index _ index) = _ at reported
    rw [update_self] at reported
    cases reported
  refine ⟨holder, conn, ?_⟩
  rcases State.control_conn .commit reply conn with ⟨-, sent⟩ | sent
  · rw [sent] at done
    cases done
  · rw [sent] at done ⊢
    change (update s.backends holder _ holder).ended = _ ↔ _
    rw [update_self]
    exact Backend.exec_commit opened done

/-- The only connection, in an active transaction with one statement. -/
def inTransaction (reply : Reply) : List Action :=
  borrowing ++
    [.construct (.transaction .idle) 0 true, .begin 0 {}, .withSync 0, .execute 1 none reply]

/-- A transaction whose statement succeeds is committed. -/
theorem commit_reports_sound_block_single : ∃ s s', (system Pool.single none).Reachable s ∧
    step s (.commit 0 {}) = some s' ∧ (s.backends 0).discard.block = .inTransaction ∧
    (s'.backends 0).ended = some .committed := by
  obtain ⟨s, executed, found, s', stepped, reported, sound⟩ : ∃ s,
      (system Pool.single none).run
        { pool := Pool.State.initial Pool.single [] 1, fallback := none }
        (inTransaction {}) = some s ∧
      s.objects 0 = some ⟨.transaction .active, some 0, some 0⟩ ∧
      ∃ s', step s (.commit 0 {}) = some s' ∧
        (s'.objects 0).map Object.kind = some (.transaction .committed) ∧
        (s.backends 0).discard.block = .inTransaction :=
    ⟨_, rfl, rfl, _, rfl, rfl, rfl⟩
  have reached := reachable_of_run ⟨[], 1, rfl, rfl⟩ executed
  obtain ⟨holder, conn, committed⟩ := commit_reports_sound_blocks reached found rfl stepped reported
  cases conn
  exact ⟨s, s', reached, stepped, sound, committed.mpr sound⟩

/-- A statement fails; `commit()` reports success, and the server has rolled back. -/
theorem commit_reports_failed_block : ∃ s s', (system Pool.single none).Reachable s ∧
    (s.objects 0).map Object.kind = some (.transaction .active) ∧
    step s (.commit 0 {}) = some s' ∧
    (s'.objects 0).map Object.kind = some (.transaction .committed) ∧
    (s'.backends 0).ended = some .rolledBack := by
  have executed : (system Pool.single none).run
      { pool := Pool.State.initial Pool.single [] 1, fallback := none }
      (inTransaction { accepted := false }) = some _ := rfl
  exact ⟨_, _, reachable_of_run ⟨[], 1, rfl, rfl⟩ executed, rfl, rfl, rfl, rfl⟩

end Menagerie.Elephant.Session
