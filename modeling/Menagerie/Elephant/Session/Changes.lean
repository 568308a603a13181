import Menagerie.Elephant.Session.Objects

/-!
# What a step of a session changes

Most operations only send commands that are not transaction control, or touch objects that do not
own a borrow. The others pass a borrow on, give it back, or open and end a transaction block.
-/

namespace Menagerie.Elephant.Session

open Elephant Function State Option

/-- No `COPY` and no async statement that fails after it was sent, no `BEGIN` whose success is not
reported, no `COMMIT` or `ROLLBACK` that libpq fails to send, and no assignment to an active
transaction. -/
def Tidy (s : State) : Action → Prop
  | .moveAssign _ target _ _ =>
    (s.objects target).all (fun object => object.kind ≠ .transaction .active) = true
  | .execute index copy reply =>
    copy = none ∧ (reply.fault = .lost →
      (s.objects index).all (fun object => object.kind ≠ .asyncExecutor) = true)
  | .begin _ reply => reply.fault ≠ .lost
  | .commit _ reply | .rollback _ reply | .destroy _ _ reply _ => reply.fault ≠ .unsent
  | _ => True

instance (s : State) (action : Action) : Decidable (Tidy s action) := by
  unfold Tidy
  split <;> infer_instance

/-- A savepoint has no holder; a transaction without one was moved from. -/
def Object.Shaped (object : Object) : Prop :=
  match object.kind with
  | .syncExecutor | .asyncExecutor => True
  | .transaction status => object.call = none → status = .failed
  | .savepoint _ _ => object.call = none

theorem Kind.moved_shaped (kind : Kind) : Object.Shaped ⟨kind.moved, none, none⟩ := by
  cases kind with
  | transaction => exact fun _ => rfl
  | savepoint => rfl
  | _ => trivial

/-- Objects are numbered as they are constructed, and well shaped. -/
structure Formed (s : State) : Prop where
  beyond : ∀ index, s.objectCount ≤ index → s.objects index = none
  shaped : ∀ index object, s.objects index = some object → object.Shaped

theorem Object.Shaped.savepoint {object : Object} (shaped : object.Shaped) {name : String}
    {active : Bool} (kind : object.kind = .savepoint name active) : object.call = none := by
  unfold Object.Shaped at shaped
  rw [kind] at shaped
  exact shaped

section Formed

variable {s : State}

theorem State.setObject_of_ne {index other : Nat} (apart : other ≠ index) (object : Option Object) :
    (s.setObject index object).objects other = s.objects other :=
  update_of_ne apart _ _

theorem Formed.known (formed : Formed s) {index : Nat} {object : Object}
    (found : s.objects index = some object) : index < s.objectCount := by
  by_contra unknown
  rw [formed.beyond index (Nat.le_of_not_lt unknown)] at found
  cases found

theorem Formed.setObject (formed : Formed s) {index : Nat} {object : Option Object}
    (known : index < s.objectCount) (shaped : ∀ new, object = some new → new.Shaped) :
    Formed (s.setObject index object) where
  beyond other above := by
    change s.objectCount ≤ other at above
    rw [setObject_of_ne (by omega)]
    exact formed.beyond other above
  shaped other new found := by
    rcases update_apply_eq.mp found with ⟨-, same⟩ | ⟨-, found⟩
    · exact shaped new same
    · exact formed.shaped other new found

theorem Formed.addObject (formed : Formed s) {object : Object} (shaped : object.Shaped) :
    Formed (s.addObject object) where
  beyond other above := by
    change s.objectCount + 1 ≤ other at above
    have same := setObject_of_ne (s := s) (by omega : other ≠ s.objectCount) (some object)
    exact same.trans (formed.beyond other (by omega))
  shaped other new found := by
    rcases update_apply_eq.mp found with ⟨-, ⟨⟩⟩ | ⟨-, found⟩
    · exact shaped
    · exact formed.shaped other new found

end Formed

/-- The pool, the owners of borrows and the transaction blocks stay. -/
structure Quiet (s : State) (action : Action) (s' : State) : Prop where
  pool : s'.pool = s.pool
  passed : s'.passed = s.passed
  resets : s'.resets = s.resets
  formed : Formed s'
  owners : ∀ index object, object.call ≠ none →
    (s'.objects index = some object ↔ s.objects index = some object)
  opened : ∀ holder, (s.backends holder).Open → (s'.backends holder).Open
  clean : Tidy s action → ∀ holder, (s.backends holder).Clean → (s'.backends holder).Clean
  settled : Tidy s action → ∀ holder, (s.backends holder).Settled → (s'.backends holder).Settled

section Quiet

variable {s s' s'' : State} {action : Action}

theorem Quiet.refl (formed : Formed s) : Quiet s action s :=
  ⟨rfl, rfl, rfl, formed, fun _ _ _ => Iff.rfl, fun _ => id, fun _ _ => id, fun _ _ => id⟩

theorem Quiet.setObject (quiet : Quiet s action s') {index : Nat} {old : Object}
    {object : Option Object} (found : s'.objects index = some old) (free : old.call = none)
    (after : ∀ new, object = some new → new.call = none ∧ new.Shaped) :
    Quiet s action (s'.setObject index object) := by
  refine ⟨quiet.pool, quiet.passed, quiet.resets, ?_, ?_, quiet.opened, quiet.clean, quiet.settled⟩
  · exact quiet.formed.setObject (quiet.formed.known found) (fun new same => (after new same).2)
  · intro other owner owns
    rw [← quiet.owners other owner owns]
    change update s'.objects index object other = some owner ↔ _
    by_cases same : other = index
    · subst same
      rw [update_self, found]
      refine ⟨fun new => absurd (after owner new).1 owns, ?_⟩
      rintro ⟨⟩
      exact absurd free owns
    · rw [update_of_ne same]

theorem Quiet.addObject (quiet : Quiet s action s') {object : Object} (free : object.call = none)
    (shaped : object.Shaped) : Quiet s action (s'.addObject object) := by
  refine ⟨quiet.pool, quiet.passed, quiet.resets, ?_, ?_, quiet.opened, quiet.clean, quiet.settled⟩
  · exact quiet.formed.addObject shaped
  · intro other owner owns
    rw [← quiet.owners other owner owns]
    change update s'.objects s'.objectCount (some object) other = some owner ↔ _
    by_cases same : other = s'.objectCount
    · subst same
      rw [update_self, quiet.formed.beyond _ (Nat.le_refl _)]
      constructor
      · intro new
        rw [← some.inj new] at owns
        exact absurd free owns
      · exact nofun
    · rw [update_of_ne same]

theorem Quiet.setBackend (formed : Formed s) {holder : Nat} {backend : Backend}
    (opened : (s.backends holder).Open → backend.Open)
    (clean : Tidy s action → (s.backends holder).Clean → backend.Clean)
    (settled : Tidy s action → (s.backends holder).Settled → backend.Settled) :
    Quiet s action (s.setBackend holder backend) := by
  have kept : ∀ (good : Backend → Prop), (good (s.backends holder) → good backend) →
      ∀ other, good (s.backends other) → good ((s.setBackend holder backend).backends other) := by
    intro good one other before
    change good (update s.backends holder backend other)
    rw [update_apply]
    split_ifs with same
    · exact one (same ▸ before)
    · exact before
  exact ⟨rfl, rfl, rfl, ⟨formed.beyond, formed.shaped⟩, fun _ _ _ => Iff.rfl, kept _ opened,
    fun tidy => kept _ (clean tidy), fun tidy => kept _ (settled tidy)⟩

theorem Quiet.control (formed : Formed s) {object : Object} {command : Command} {reply : Reply}
    (free : command.control = false)
    (other : Tidy s action → ∀ direction, command ≠ .copy direction) :
    Quiet s action (s.control object command reply).2 := by
  unfold State.control
  split
  · exact .setBackend formed (Backend.exec_open free)
      (fun tidy => Backend.exec_clean free (other tidy))
      (fun tidy => Backend.exec_settled (other tidy))
  · exact .refl formed

theorem State.control_objects (object : Object) (command : Command) (reply : Reply) :
    (s.control object command reply).2.objects = s.objects := by
  unfold control
  split <;> rfl

end Quiet

/-- `begin`, `commit` and `rollback`. -/
inductive Control : Action → Nat → TransactionStatus → TransactionStatus → Command → Reply → Prop
  | begin (index : Nat) (reply : Reply) :
      Control (.begin index reply) index .idle .active .begin reply
  | commit (index : Nat) (reply : Reply) :
      Control (.commit index reply) index .active .committed .commit reply
  | rollback (index : Nat) (reply : Reply) :
      Control (.rollback index reply) index .active .rolledBack .rollback reply

/-- Every step of a session is one of these. -/
inductive Change (s : State) : Action → State → Prop
  | quiet {action : Action} {s' : State} (quiet : Quiet s action s') : Change s action s'
  | pool (action : Pool.Action) (pool : Pool.State) (other : starts action = false)
      (stepped : Pool.step s.pool action = some pool) : Change s (.pool action) { s with pool }
  | forget (kind : Kind) (call holder : Nat) (usable : Bool)
      (borrowed : s.pool.borrows call = some holder) (fresh : s.passed call = false)
      (reason : holder ∉ s.pool.holders ∨
        kind = .asyncExecutor ∧ ((s.backends holder).alive && usable) = false) :
      Change s (.construct kind call usable)
        { s with passed := Function.update s.passed call true }
  | construct (kind : Kind) (call holder : Nat) (usable : Bool)
      (borrowed : s.pool.borrows call = some holder) (fresh : s.passed call = false)
      (new : kind = .syncExecutor ∨ kind = .asyncExecutor ∨ kind = .transaction .idle) :
      Change s (.construct kind call usable)
        ({ s with passed := Function.update s.passed call true }.addObject
          ⟨kind, some call, some holder⟩)
  | moveConstruct (source : Nat) (object : Object) (found : s.objects source = some object) :
      Change s (.moveConstruct source)
        ((s.setObject source (some ⟨object.kind.moved, none, none⟩)).addObject object)
  | moveAssign (thread target source : Nat) (reply : Reply) (old new : Object) (released : State)
      (found : s.objects target = some old) (given : s.objects source = some new)
      (apart : target ≠ source) (alike : old.kind.alike new.kind = true)
      (done : s.release thread old reply = some released) :
      Change s (.moveAssign thread target source reply)
        ((released.setObject target (some new)).setObject source
          (some ⟨new.kind.moved, none, none⟩))
  | destroy (thread index : Nat) (safety reply : Reply) (object : Object)
      (status : TransactionStatus)
      (released : State) (found : s.objects index = some object)
      (same : object.kind = .transaction .active → status = .active)
      (done : (s.safetyNet object status safety).release thread object reply = some released) :
      Change s (.destroy thread index safety reply) (released.setObject index none)
  | transact {action : Action} {index : Nat} {needed success : TransactionStatus}
      {command : Command} {reply : Reply}
      (which : Control action index needed success command reply)
      (object : Object) (found : s.objects index = some object)
      (status : object.kind = .transaction needed) :
      Change s action ((s.control object command reply).2.setObject index
        (some ⟨.transaction (if (s.control object command reply).1 then success else .failed),
          object.call, object.conn⟩))

section Cases

variable {s s' : State}

theorem construct_cases {kind : Kind} {call : Nat} {usable : Bool}
    (stepped : s.construct kind call usable = some s') :
    Change s (.construct kind call usable) s' := by
  unfold construct at stepped
  split at stepped
  · rename_i holder borrowed
    split_ifs at stepped with fits live thrown async
    · cases stepped
      exact .forget kind call holder usable borrowed fits.2 (.inr thrown)
    · cases stepped
      refine .construct kind call holder usable borrowed fits.2 ?_
      have fits := fits.1
      unfold Kind.fits at fits
      split at fits
      · exact .inl rfl
      · exact .inr (.inr rfl)
      · exact .inr (.inl rfl)
      · exact .inr (.inl rfl)
      · cases fits
    · cases stepped
      exact .forget kind call holder usable borrowed fits.2 (.inl live)
  · cases stepped

theorem State.safetyNet_inactive {object : Object} {status : TransactionStatus} {safety : Reply}
    (inactive : status ≠ .active) : s.safetyNet object status safety = s := by
  unfold safetyNet
  split
  · rw [if_neg inactive]
  · rfl

theorem moveAssign_cases (formed : Formed s) {thread target source : Nat} {reply : Reply}
    (stepped : s.moveAssign thread target source reply = some s') :
    Change s (.moveAssign thread target source reply) s' := by
  unfold moveAssign at stepped
  split at stepped
  · rename_i old new found given
    split_ifs at stepped with unlike same
    · cases stepped
      exact .quiet (.refl formed)
    · have alike : old.kind.alike new.kind = true := Bool.not_eq_false _ ▸ unlike
      -- An assignment to a savepoint: neither side has a holder.
      have plain : ∀ name active, old.kind = .savepoint name active →
          old.call = none ∧ new.call = none := by
        intro name active kind
        refine ⟨(formed.shaped target old found).savepoint kind, ?_⟩
        rw [kind] at alike
        cases other : new.kind with
        | savepoint => exact (formed.shaped source new given).savepoint other
        | _ =>
          rw [other] at alike
          cases alike
      have taken : ∀ middle, Quiet s (.moveAssign thread target source reply) middle →
          middle.objects = s.objects → old.call = none ∧ new.call = none →
          Quiet s (.moveAssign thread target source reply)
            ((middle.setObject target (some new)).setObject source
              (some ⟨new.kind.moved, none, none⟩)) := by
        rintro middle quiet objects ⟨free, kept⟩
        have first : Quiet s (.moveAssign thread target source reply)
            (middle.setObject target (some new)) := by
          refine quiet.setObject (by rw [objects]; exact found) free ?_
          rintro object ⟨⟩
          exact ⟨kept, formed.shaped source new given⟩
        refine first.setObject ?_ kept ?_
        · rw [setObject_of_ne (Ne.symm same), objects]
          exact given
        · rintro object ⟨⟩
          exact ⟨rfl, new.kind.moved_shaped⟩
      split at stepped
      · rename_i name kind
        cases stepped
        exact .quiet (taken _ (.control formed rfl (fun _ => nofun)) (s.control_objects ..)
          (plain _ _ kind))
      · rename_i name kind
        cases stepped
        exact .quiet (taken s (.refl formed) rfl (plain _ _ kind))
      all_goals
        obtain ⟨released, done, rfl⟩ := map_eq_some_iff.mp stepped
        exact .moveAssign thread target source reply old new released found given same alike done
  · cases stepped

section

variable (formed : Formed s) {index : Nat}

include formed

theorem destroy_cases {thread : Nat} {safety reply : Reply}
    (stepped : s.destroy thread index safety reply = some s') :
    Change s (.destroy thread index safety reply) s' := by
  obtain ⟨object, found, stepped⟩ := bind_eq_some_iff.mp stepped
  have executor : ∀ released, object.kind ≠ .transaction .active →
      s.release thread object reply = some released →
      Change s (.destroy thread index safety reply) (released.setObject index none) := by
    intro released inactive done
    refine .destroy thread index safety reply object .idle released found
      (fun active => absurd active inactive) ?_
    have none : s.safetyNet object .idle safety = s := safetyNet_inactive nofun
    rw [none]
    exact done
  split at stepped
  · rename_i kind
    obtain ⟨released, done, rfl⟩ := map_eq_some_iff.mp stepped
    exact executor released (by rw [kind]; exact nofun) done
  · rename_i kind
    obtain ⟨released, done, rfl⟩ := map_eq_some_iff.mp stepped
    exact executor released (by rw [kind]; exact nofun) done
  · rename_i status kind
    obtain ⟨released, done, rfl⟩ := map_eq_some_iff.mp stepped
    refine .destroy thread index safety reply object status released found ?_ done
    intro active
    rw [kind] at active
    exact Kind.transaction.inj active
  · rename_i name active kind
    cases stepped
    have free := (formed.shaped index object found).savepoint kind
    split_ifs
    · have sent : Quiet s (.destroy thread index safety reply)
        (s.control object (.release name) reply).2 := .control formed rfl (fun _ => nofun)
      exact .quiet (sent.setObject (by rw [s.control_objects]; exact found) free nofun)
    · exact .quiet ((Quiet.refl formed).setObject found free nofun)

theorem execute_quiet {copy : Option Direction} {reply : Reply}
    (stepped : s.execute index copy reply = some s') : Quiet s (.execute index copy reply) s' := by
  obtain ⟨object, found, stepped⟩ := bind_eq_some_iff.mp stepped
  split at stepped
  · cases stepped
    cases copy with
    | some direction => exact .control formed rfl (fun tidy => absurd tidy.1 nofun)
    | none => exact .control formed rfl (fun _ => nofun)
  · rename_i kind
    split_ifs at stepped
    split at stepped
    · cases stepped
      have collected : Tidy s (.execute index copy reply) → reply.fault ≠ .lost := by
        intro tidy lost
        have other := tidy.2 lost
        rw [found, all_some, decide_eq_true_eq] at other
        exact other kind
      exact .setBackend formed Backend.send_open (fun tidy => Backend.send_clean (collected tidy))
        (fun tidy => Backend.send_settled (collected tidy))
    · cases stepped
      exact .refl formed
  · cases stepped
  · cases stepped

theorem transact_cases {action : Action} {needed success : TransactionStatus} {command : Command}
    {reply : Reply} (which : Control action index needed success command reply)
    (stepped : s.transact index needed success command reply = some s') : Change s action s' := by
  obtain ⟨object, found, stepped⟩ := bind_eq_some_iff.mp stepped
  split at stepped
  · rename_i status kind
    split_ifs at stepped with same
    · cases stepped
      exact .transact which object found (same ▸ kind)
    · cases stepped
      exact .quiet (.refl formed)
  all_goals cases stepped

/-- An executor on the raw connection of a transaction. -/
theorem lend_quiet {action : Action} {kind : Kind}
    (executor : kind = .syncExecutor ∨ kind = .asyncExecutor)
    (stepped : s.lend index kind = some s') : Quiet s action s' := by
  obtain ⟨object, found, stepped⟩ := bind_eq_some_iff.mp stepped
  split at stepped
  · cases stepped
    refine (Quiet.refl formed).addObject rfl ?_
    rcases executor with rfl | rfl
    · trivial
    · trivial
  · cases stepped
    exact .refl formed
  all_goals cases stepped

theorem savepoint_quiet {name : String} {reply : Reply}
    (stepped : s.savepoint index name reply = some s') :
    Quiet s (.savepoint index name reply) s' := by
  obtain ⟨object, found, stepped⟩ := bind_eq_some_iff.mp stepped
  have sent : Quiet s (.savepoint index name reply) (s.control object (.savepoint name) reply).2 :=
    .control formed rfl (fun _ => nofun)
  split at stepped
  · split_ifs at stepped
    · cases stepped
      split_ifs
      · exact sent.addObject rfl rfl
      · exact sent
    · cases stepped
      exact .refl formed
  · cases stepped
    exact .refl formed
  all_goals cases stepped

theorem releaseSavepoint_quiet {reply : Reply}
    (stepped : s.releaseSavepoint index reply = some s') :
    Quiet s (.releaseSavepoint index reply) s' := by
  obtain ⟨object, found, stepped⟩ := bind_eq_some_iff.mp stepped
  split at stepped
  · rename_i name kind
    have sent : Quiet s (.releaseSavepoint index reply)
        (s.control object (.release name) reply).2 :=
      .control formed rfl (fun _ => nofun)
    have free := (formed.shaped index object found).savepoint kind
    cases stepped
    split_ifs
    · refine sent.setObject (by rw [s.control_objects]; exact found) free ?_
      rintro new ⟨⟩
      exact ⟨free, free⟩
    · exact sent
  · cases stepped
    exact .refl formed
  all_goals cases stepped

theorem rollbackTo_quiet {reply : Reply} (stepped : s.rollbackTo index reply = some s') :
    Quiet s (.rollbackTo index reply) s' := by
  obtain ⟨object, found, stepped⟩ := bind_eq_some_iff.mp stepped
  split at stepped
  · cases stepped
    exact .control formed rfl (fun _ => nofun)
  · cases stepped
    exact .refl formed
  all_goals cases stepped

theorem doCleanup_quiet {query : Option Cleanup} (stepped : s.doCleanup index query = some s') :
    Quiet s (.doCleanup index query) s' := by
  obtain ⟨object, found, stepped⟩ := bind_eq_some_iff.mp stepped
  split at stepped
  · cases stepped
    exact ⟨rfl, rfl, rfl, ⟨formed.beyond, formed.shaped⟩, fun _ _ _ => Iff.rfl, fun _ => id,
      fun _ _ => id, fun _ _ => id⟩
  · cases stepped
    exact .refl formed

end

theorem step_change (formed : Formed s) {action : Action} (stepped : step s action = some s') :
    Change s action s' := by
  cases action with
  | pool action =>
    simp only [step] at stepped
    split_ifs at stepped with other
    obtain ⟨pool, moved, rfl⟩ := map_eq_some_iff.mp stepped
    exact .pool action pool (Bool.eq_false_iff.mpr other) moved
  | construct kind call usable => exact construct_cases stepped
  | moveConstruct source =>
    obtain ⟨object, found, rfl⟩ := map_eq_some_iff.mp stepped
    exact .moveConstruct source object found
  | moveAssign => exact moveAssign_cases formed stepped
  | destroy => exact destroy_cases formed stepped
  | execute => exact .quiet (execute_quiet formed stepped)
  | begin index reply => exact transact_cases formed (.begin index reply) stepped
  | commit index reply => exact transact_cases formed (.commit index reply) stepped
  | rollback index reply => exact transact_cases formed (.rollback index reply) stepped
  | withSync => exact .quiet (lend_quiet formed (.inl rfl) stepped)
  | withAsync index usable =>
    change s.withAsync index usable = some s' at stepped
    unfold withAsync at stepped
    split_ifs at stepped
    · exact .quiet (lend_quiet formed (.inr rfl) stepped)
    · obtain ⟨object, -, rfl⟩ := map_eq_some_iff.mp stepped
      exact .quiet (.refl formed)
  | savepoint => exact .quiet (savepoint_quiet formed stepped)
  | rollbackTo => exact .quiet (rollbackTo_quiet formed stepped)
  | releaseSavepoint => exact .quiet (releaseSavepoint_quiet formed stepped)
  | doCleanup => exact .quiet (doCleanup_quiet formed stepped)
  | die holder =>
    simp only [step] at stepped
    split_ifs at stepped
    cases stepped
    exact .quiet (.setBackend formed (fun _ => Backend.die_open) (fun _ _ => Backend.die_clean)
      (fun _ _ => Backend.die_clean.settled))

end Cases

end Menagerie.Elephant.Session
