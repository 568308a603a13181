import Menagerie.Library.Census
import Menagerie.Library.Transition

/-!
# Counting connections

`ConnectionTracker` counts the connections that it lists. A registration increments the counter
and inserts its entry under the mutex; a release erases the entry under the mutex and decrements the
counter after it. The counter is an integer, so that an underflow would show. An entry is identified
by the number of its registration.
-/

namespace Menagerie.Albatross.ConnectionTracker

open Transition Census Function List

/-- A `Handle` object and the call that its thread makes on it. -/
inductive Handle
  | absent
  | locked
  | counted
  | held (entry : Option Nat)
  /-- The source of a move-assignment whose target still releases. -/
  | lent (entry : Option Nat)
  /-- In `release`, before the region; then the entry of `source` is adopted. -/
  | erasing (entry : Nat) (source : Option Nat)
  | erased (entry : Nat) (source : Option Nat)
  deriving DecidableEq

namespace Handle

/-- The entry is listed and this object refers to it. -/
@[simp] def owns (entry : Nat) : Handle → Bool
  | held found => found = some entry
  | lent found => found = some entry
  | erasing found _ => found = entry
  | _ => false

/-- The entry is erased and its decrement comes next. -/
@[simp] def drops (entry : Nat) : Handle → Bool
  | erased found _ => found = entry
  | _ => false

/-- The target of a move-assignment from `source`. -/
@[simp] def assigns (source : Nat) : Handle → Bool
  | erasing _ found => some source = found
  | erased _ found => some source = found
  | _ => false

def isLent : Handle → Bool
  | lent _ => true
  | _ => false

@[simp] def isErased : Handle → Bool
  | erased _ _ => true
  | _ => false

@[simp] def isCounted : Handle → Bool
  | counted => true
  | _ => false

end Handle

/-- The shared `State` and the handles, with what was erased and decremented. -/
structure State where
  inFlight : Int := 0
  mu : Option Nat := none
  entries : List Nat := []
  registered : Nat := 0
  handle : Nat → Handle := fun _ => .absent
  erased : List Nat := []
  decremented : List Nat := []

/-- One step; the arguments name the objects. -/
inductive Label
  | lock (i : Nat)
  | fetchAdd (i : Nat)
  | insert (i : Nat)
  | moveConstruct (i source : Nat)
  | moveAssign (i source : Nat)
  | destroy (i : Nat)
  | erase (i : Nat)
  | fetchSub (i : Nat)

/-- `state_ = std::move(o.state_)`. -/
def adopt (handle : Nat → Handle) (i source : Nat) (entry : Option Nat) : Nat → Handle :=
  Function.update (Function.update handle source (.held none)) i (.held entry)

def step (size : Nat) (state : State) : Label → Option State
  | .lock i =>
    if i < size ∧ state.mu = none ∧ state.handle i = .absent then
      some { state with mu := some i, handle := Function.update state.handle i .locked }
    else none
  | .fetchAdd i =>
    if i < size ∧ state.handle i = .locked then
      some { state with
        inFlight := state.inFlight + 1, handle := Function.update state.handle i .counted }
    else none
  | .insert i =>
    if i < size ∧ state.handle i = .counted then
      some { state with
        mu := none
        entries := state.entries ++ [state.registered]
        registered := state.registered + 1
        handle := Function.update state.handle i (.held (some state.registered)) }
    else none
  | .moveConstruct i source =>
    if i < size ∧ source < size ∧ state.handle i = .absent then
      match state.handle source with
      | .held entry => some { state with handle := adopt state.handle i source entry }
      | _ => none
    else none
  | .moveAssign i source =>
    if i < size ∧ source < size then
      match state.handle i, state.handle source with
      | .held own, .held entry =>
        if i = source then some state
        else match own with
          | none => some { state with handle := adopt state.handle i source entry }
          | some own => some { state with
              handle := Function.update (Function.update state.handle source (.lent entry)) i
                (.erasing own (some source)) }
      | _, _ => none
    else none
  | .destroy i =>
    if i < size then
      match state.handle i with
      | .held none => some { state with handle := Function.update state.handle i .absent }
      | .held (some own) =>
        some { state with handle := Function.update state.handle i (.erasing own none) }
      | _ => none
    else none
  | .erase i =>
    if i < size ∧ state.mu = none then
      match state.handle i with
      | .erasing own source => some { state with
          entries := state.entries.erase own
          erased := state.erased ++ [own]
          handle := Function.update state.handle i (.erased own source) }
      | _ => none
    else none
  | .fetchSub i =>
    if i < size then
      match state.handle i with
      | .erased own none => some { state with
          inFlight := state.inFlight - 1
          decremented := state.decremented ++ [own]
          handle := Function.update state.handle i .absent }
      | .erased own (some source) =>
        match state.handle source with
        | .lent entry => some { state with
            inFlight := state.inFlight - 1
            decremented := state.decremented ++ [own]
            handle := adopt state.handle i source entry }
        | _ => none
      | _ => none
    else none

/-- The tracker with `size` handle objects. -/
def system (size : Nat) : System State Label where
  initial := fun state => state = {}
  step := step size

/-- An entry is listed and has one object, or erased; then it is decremented or has one object that
is about to do so. -/
structure Tally (size : Nat) (state : State) : Prop where
  placed : ∀ x, state.entries.count x + state.erased.count x =
    if x < state.registered then 1 else 0
  owned : ∀ x, census (Handle.owns x) state.handle size = state.entries.count x
  dropped : ∀ x, census (Handle.drops x) state.handle size + state.decremented.count x =
    state.erased.count x
  assigned : ∀ j, census (Handle.assigns j) state.handle size =
    (decide (j < size) && (state.handle j).isLent).toNat
  counter : state.inFlight = state.entries.length + census Handle.isErased state.handle size +
    census Handle.isCounted state.handle size

/-- Objects move; `old` and `new` count those that pass a test. -/
theorem Tally.change {size : Nat} {state next : State} (tally : Tally size state)
    {old new : (Handle → Bool) → Nat}
    (moved : ∀ test, census test next.handle size + old test =
      census test state.handle size + new test)
    (placed : ∀ x, next.entries.count x + next.erased.count x =
      if x < next.registered then 1 else 0)
    (owned : ∀ x, next.entries.count x + old (Handle.owns x) =
      state.entries.count x + new (Handle.owns x))
    (dropped : ∀ x, next.erased.count x + state.decremented.count x + old (Handle.drops x) =
      state.erased.count x + next.decremented.count x + new (Handle.drops x))
    (assigned : ∀ j, (decide (j < size) && (next.handle j).isLent).toNat + old (Handle.assigns j) =
      (decide (j < size) && (state.handle j).isLent).toNat + new (Handle.assigns j))
    (counter : next.inFlight + state.entries.length + old Handle.isErased + old Handle.isCounted =
      state.inFlight + next.entries.length + new Handle.isErased + new Handle.isCounted) :
    Tally size next := by
  refine ⟨placed, fun x => ?_, fun x => ?_, fun j => ?_, ?_⟩
  · have census := moved (Handle.owns x)
    have before := tally.owned x
    have here := owned x
    omega
  · have census := moved (Handle.drops x)
    have before := tally.dropped x
    have here := dropped x
    omega
  · have census := moved (Handle.assigns j)
    have before := tally.assigned j
    have here := assigned j
    omega
  · have erased := moved Handle.isErased
    have counted := moved Handle.isCounted
    have before := tally.counter
    omega

theorem lent_update {size i : Nat} {handle : Nat → Handle} {new : Handle}
    (unlent : (handle i).isLent = false) (stays : new.isLent = false)
    (same : ∀ j, new.assigns j = (handle i).assigns j) (j : Nat) :
    (decide (j < size) && (update handle i new j).isLent).toNat +
        ((handle i).assigns j).toNat =
      (decide (j < size) && (handle j).isLent).toNat + (new.assigns j).toNat := by
  rw [same]
  by_cases here : j = i
  · rw [here, update_self, unlent, stays]
  · rw [update_of_ne here]

attribute [local simp] Handle.isLent count_singleton

theorem Tally.step {size : Nat} {state next : State} {label : Label} (tally : Tally size state)
    (moved : step size state label = some next) : Tally size next := by
  revert moved
  fun_cases ConnectionTracker.step size state label <;> rintro ⟨⟩
  · rename_i i known
    refine tally.change (fun test => census_update test state.handle known.1 _) tally.placed
      (fun x => ?_) (fun x => ?_) (lent_update ?_ rfl fun j => ?_) ?_
    all_goals simp [known.2.2]
  · rename_i i known
    refine tally.change (fun test => census_update test state.handle known.1 _) tally.placed
      (fun x => ?_) (fun x => ?_) (lent_update ?_ rfl fun j => ?_) ?_
    all_goals simp [known.2]
    omega
  · rename_i i known
    refine tally.change (fun test => census_update test state.handle known.1 _) (fun x => ?_)
      (fun x => ?_) (fun x => ?_) (lent_update ?_ rfl fun j => ?_) ?_
    · have before := tally.placed x
      grind
    all_goals simp [known.2]
    · by_cases named : state.registered = x <;> simp [named]
    · omega
  · rename_i i source known entry here
    have apart : i ≠ source := fun same => by simp [← same, known.2.2] at here
    refine tally.change (fun test => census_update_two test state.handle ⟨known.1, known.2.1⟩ apart
      _ _) tally.placed (fun x => ?_) (fun x => ?_) (fun j => ?_) ?_
    all_goals simp [known.2, here]
    simp only [adopt, update_apply]
    split_ifs <;> simp_all
  · exact tally
  · rename_i i source known entry here apart own
    refine tally.change (fun test => census_update_two test state.handle known apart _ _)
      tally.placed (fun x => ?_) (fun x => ?_) (fun j => ?_) ?_
    all_goals simp [own, here]
    simp only [adopt, update_apply]
    split_ifs <;> simp_all
  · rename_i i source known entry here apart own mine
    refine tally.change (fun test => census_update_two test state.handle known apart _ _)
      tally.placed (fun x => ?_) (fun x => ?_) (fun j => ?_) ?_
    all_goals simp [mine, here]
    simp only [update_apply]
    split_ifs <;> simp_all
  · rename_i i known here
    refine tally.change (fun test => census_update test state.handle known _) tally.placed
      (fun x => ?_) (fun x => ?_) (lent_update ?_ rfl fun j => ?_) ?_
    all_goals simp [here]
  · rename_i i known own here
    refine tally.change (fun test => census_update test state.handle known _) tally.placed
      (fun x => ?_) (fun x => ?_) (lent_update ?_ rfl fun j => ?_) ?_
    all_goals simp [here]
  · rename_i i known own source here
    have listed : own ∈ state.entries := by
      have counted := tally.owned own
      have positive := @census_pos _ (Handle.owns own) state.handle _ _ known.1 (by simp [here])
      exact count_pos_iff.mp (by omega)
    have entries : ∀ x, (state.entries.erase own).count x + (if x = own then 1 else 0) =
        state.entries.count x := by
      intro x
      have some := count_pos_iff.mpr listed
      grind
    refine tally.change (fun test => census_update test state.handle known.1 _) (fun x => ?_)
      (fun x => ?_) (fun x => ?_) (lent_update ?_ rfl fun j => ?_) ?_
    · have before := tally.placed x
      have here := entries x
      simp
      grind
    · have left := entries x
      simp [here]
      grind
    · simp [here]
      grind
    · simp [here]
    · simp [here]
    · have some := length_pos_of_mem listed
      simp [here, length_erase_of_mem listed]
      omega
  · rename_i i known own here
    refine tally.change (fun test => census_update test state.handle known _) tally.placed
      (fun x => ?_) (fun x => ?_) (lent_update ?_ rfl fun j => ?_) ?_
    all_goals simp [here]
    · grind
    · omega
  · rename_i i known own source mine entry here
    have assigned := tally.assigned source
    have positive := @census_pos _ (Handle.assigns source) state.handle _ _ known (by simp [mine])
    have inside : source < size := by
      by_contra outside
      simp [outside] at assigned
      omega
    have apart : i ≠ source := fun same => by simp [← same, mine] at here
    refine tally.change (fun test => census_update_two test state.handle ⟨known, inside⟩ apart _ _)
      tally.placed (fun x => ?_) (fun x => ?_) (fun j => ?_) ?_
    all_goals simp [mine, here]
    · grind
    · simp only [adopt, update_apply]
      split_ifs <;> simp_all
    · omega

theorem tally_of_reachable {size : Nat} {state : State} (reached : (system size).Reachable state) :
    Tally size state := by
  refine reached.invariant ?_ fun _ _ _ _ tally _ moved => tally.step moved
  rintro _ rfl
  refine ⟨fun x => rfl, fun x => ?_, fun x => ?_, fun j => ?_, ?_⟩
  all_goals simp [census]

/-- A registration is listed with one object, erased with one object about to decrement, or erased
and decremented. -/
def Settled (size : Nat) (state : State) (x : Nat) : Prop :=
  (state.erased.count x = 0 ∧ state.decremented.count x = 0 ∧
    ∃ i < size, (state.handle i).owns x) ∨
  (state.erased.count x = 1 ∧ state.decremented.count x = 0 ∧
    ∃ i < size, (state.handle i).drops x) ∨
  (state.erased.count x = 1 ∧ state.decremented.count x = 1)

theorem Tally.settled {size x : Nat} {state : State} (tally : Tally size state)
    (known : x < state.registered) : Settled size state x := by
  have placed := tally.placed x
  have owned := tally.owned x
  have dropped := tally.dropped x
  rw [if_pos known] at placed
  by_cases listed : 0 < census (Handle.owns x) state.handle size
  · exact .inl ⟨by omega, by omega, exists_of_census_pos listed⟩
  · by_cases pending : 0 < census (Handle.drops x) state.handle size
    · exact .inr (.inl ⟨by omega, by omega, exists_of_census_pos pending⟩)
    · exact .inr (.inr ⟨by omega, by omega⟩)

/-- The counter counts the listed entries, the releases behind their region and the registrations
before their insertion; each entry is erased once and decremented once, from a positive counter; and
the list is empty when the counter is zero. -/
theorem counts_exactly {size : Nat} {state : State} (reached : (system size).Reachable state) :
    state.inFlight = state.entries.length + census Handle.isErased state.handle size +
        census Handle.isCounted state.handle size ∧
      (∀ x < state.registered, Settled size state x) ∧
      (∀ i < size, ∀ own source, state.handle i = .erasing own source → own ∈ state.entries) ∧
      (∀ i < size, ∀ own source, state.handle i = .erased own source → 0 < state.inFlight ∧
        ∃ next, step size state (.fetchSub i) = some next) ∧
      0 ≤ state.inFlight ∧ (state.inFlight = 0 → state.entries = []) := by
  have tally := tally_of_reachable reached
  have counter := tally.counter
  refine ⟨counter, fun x known => tally.settled known, ?_, ?_, by omega, fun zero => ?_⟩
  · intro i known own source here
    have positive := @census_pos _ (Handle.owns own) state.handle _ _ known (by simp [here])
    rw [tally.owned own] at positive
    exact count_pos_iff.mp positive
  · intro i known own source here
    have positive := @census_pos _ Handle.isErased state.handle _ _ known (by simp [here])
    refine ⟨by omega, ?_⟩
    cases source with
    | none => simp [step, known, here]
    | some source =>
      have assigning := @census_pos _ (Handle.assigns source) state.handle _ _ known
        (by simp [here])
      rw [tally.assigned source] at assigning
      cases lent : state.handle source with
      | lent entry => simp [step, known, here, lent]
      | _ => simp [lent] at assigning
  · exact eq_nil_of_length_eq_zero (by omega)

/-- A registration whose handle is moved, move-assigned over and destroyed. -/
theorem counts_exactly_moved : ∃ state, (system 3).Reachable state ∧
    state.registered = 2 ∧ state.erased = [1, 0] ∧ state.decremented = [1] ∧
      state.inFlight = 1 ∧ state.entries = [] ∧ Settled 3 state 0 := by
  refine (system 3).exists_reachable rfl [.lock 0, .fetchAdd 0, .insert 0, .moveConstruct 1 0,
    .lock 2, .fetchAdd 2, .insert 2, .moveAssign 2 2, .moveAssign 2 1, .erase 2, .fetchSub 2,
    .destroy 2, .erase 2] ⟨_, rfl, fun reached => ?_⟩
  exact ⟨rfl, rfl, rfl, rfl, rfl, (counts_exactly reached).2.1 0 (by decide)⟩

end Menagerie.Albatross.ConnectionTracker
