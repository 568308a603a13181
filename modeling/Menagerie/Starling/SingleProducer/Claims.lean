import Menagerie.Starling.SingleProducer.Sequencer

/-!
# Claims follow the consumed position

The cached limit never exceeds what the consumed position allows, since that position only
advances. So the claims that skip the load are among those that the load would grant.
-/

namespace Menagerie.Starling.SingleProducer

open Disruptor (Config)

theorem int64_of_range {value : Int} (low : -9223372036854775808 ≤ value)
    (high : value ≤ int64Max) : int64 value = some value := if_pos ⟨low, high⟩

theorem capacity_le (config : Config) : (config.capacity : Int) ≤ 4611686018427387904 := by
  have power : config.capacity ≤ 2 ^ 62 := Nat.pow_le_pow_right (by omega) config.fits
  omega

namespace Sequencer

variable {config : Config} {q : Sequencer}

/-- The unsigned sum is the right limit for -1 too, and the cut loses no claim. -/
theorem capacityLimit_eq {consumed : Int} (low : -1 ≤ consumed) (high : consumed ≤ int64Max) :
    capacityLimit config consumed = min (consumed + config.capacity) int64Max := by
  have bound := capacity_le config
  have positive := config.capacity_pos
  unfold capacityLimit
  unfold int64Max at high ⊢
  simp only
  rw [BitVec.toNat_add, BitVec.toNat_ofInt, BitVec.toNat_ofNat]
  omega

/-- A claim that the producer may make after `previous`. -/
structure Claimable (claimed previous : Int) (count : Nat) : Prop where
  last : previous = claimed
  some : 0 < count
  fits : previous + count ≤ int64Max

section Holds

variable (config q)

/-- What the producer relies on at its program point. -/
def Holds (claimed consumed : Int) : Call → Prop
  | .ready => True
  | .waitForCapacity previous count spinCount =>
    Claimable claimed previous count ∧ 0 ≤ spinCount ∧ spinCount < spinBeforeYield
  | .setClaimed previous count =>
    Claimable claimed previous count ∧ previous + count - config.capacity ≤ consumed

/-- The invariant of the sequencer. -/
structure Sound : Prop where
  initial : -1 ≤ q.consumed
  consumed : q.consumed ≤ q.published
  published : q.published ≤ q.claimed
  claimed : q.claimed ≤ int64Max
  room : q.claimed - config.capacity ≤ q.consumed
  limit : q.cachedCapacityLimit ≤ q.consumed + config.capacity
  call : Holds config q.claimed q.consumed q.call

/-- The outcome obeys the rule without a cache. -/
def Obeys (q' : Sequencer) : Outcome → Prop
  | .granted first last =>
    first = q.claimed + 1 ∧ q'.claimed = last ∧ last - config.capacity ≤ q.consumed
  | .refused last => last = q.claimed + 1 ∧ q.consumed < last - config.capacity
  | .spun last => q.consumed < last - config.capacity
  | .silent => True
  | .overflow => False

end Holds

/-- The step obeys the rule and keeps the invariant. -/
def Correct (config : Config) (q : Sequencer) (moved : Outcome × Sequencer) : Prop :=
  q.Obeys config moved.2 moved.1 ∧ moved.2.Sound config

section Steps

variable (sound : q.Sound config)

include sound

theorem Sound.at (call : Call) (holds : Holds config q.claimed q.consumed call) :
    Sound config { q with call } := by
  obtain ⟨initial, consumed, published, claimed, room, limit, -⟩ := sound
  exact ⟨initial, consumed, published, claimed, room, limit, holds⟩

theorem Sound.nextBatch {count : Nat} (some : 0 < count) (fits : q.claimed + count ≤ int64Max) :
    Correct config q (q.nextBatch config count) := by
  have bound := capacity_le config
  have low : -1 ≤ q.claimed := by
    have := sound.initial
    have := sound.consumed
    have := sound.published
    omega
  have claimable : Claimable q.claimed q.claimed count := ⟨rfl, some, fits⟩
  unfold Sequencer.nextBatch
  rw [int64_of_range (by omega) fits]
  simp only
  split_ifs with beyond
  · rw [int64_of_range (by omega) (by omega)]
    refine ⟨trivial, sound.at _ ⟨claimable, ?_, ?_⟩⟩
    · exact Int.le_refl 0
    · decide
  · -- The claim is within the cached limit, which the consumed position allows.
    have limit := sound.limit
    refine ⟨trivial, sound.at _ ⟨claimable, ?_⟩⟩
    omega

theorem Sound.tryNext (fits : q.claimed + 1 ≤ int64Max) :
    Correct config q (q.tryNext config) := by
  have bound := capacity_le config
  have low : -1 ≤ q.claimed := by
    have := sound.initial
    have := sound.consumed
    have := sound.published
    omega
  unfold Sequencer.tryNext
  rw [int64_of_range (by omega) fits]
  simp only
  rw [int64_of_range (by omega) (by omega)]
  simp only
  split_ifs with full
  · exact ⟨⟨rfl, full⟩, sound⟩
  · refine ⟨trivial, sound.at _ ⟨⟨rfl, Nat.one_pos, fits⟩, ?_⟩⟩
    push_cast
    omega

theorem Sound.waitForCapacity {previous spinCount : Int} {count : Nat}
    (holds : Holds config q.claimed q.consumed (.waitForCapacity previous count spinCount)) :
    Correct config q (q.waitForCapacity config previous count spinCount) := by
  obtain ⟨claimable, low, high⟩ := holds
  unfold spinBeforeYield at high
  unfold Sequencer.waitForCapacity
  simp only
  split_ifs with full
  · have spins : int16 (spinCount + 1) = some (spinCount + 1) := if_pos (by omega)
    rw [spins]
    refine ⟨full, sound.at _ ⟨claimable, ?_⟩⟩
    unfold spinBeforeYield
    split_ifs
    · omega
    · omega
  · have highest : q.consumed ≤ int64Max := by
      have := sound.consumed
      have := sound.published
      have := sound.claimed
      omega
    have fresh : Sound config
        { q with cachedCapacityLimit := capacityLimit config q.consumed } := by
      obtain ⟨initial, consumed, published, claimed, room, -, call⟩ := sound
      refine ⟨initial, consumed, published, claimed, room, ?_, call⟩
      rw [capacityLimit_eq initial highest]
      exact Int.min_le_left _ _
    exact ⟨trivial, fresh.at _ ⟨claimable, Int.not_lt.mp full⟩⟩

theorem Sound.setClaimed {previous : Int} {count : Nat}
    (holds : Holds config q.claimed q.consumed (.setClaimed previous count)) :
    Correct config q (q.setClaimed previous count) := by
  obtain ⟨⟨rfl, positive, fits⟩, checked⟩ := holds
  obtain ⟨initial, consumed, published, claimed, room, limit, -⟩ := sound
  unfold Sequencer.setClaimed
  rw [int64_of_range (by omega) (by omega)]
  refine ⟨⟨rfl, rfl, checked⟩, ⟨initial, consumed, ?_, fits, checked, limit, trivial⟩⟩
  change q.published ≤ q.claimed + count
  omega

theorem Sound.publish {sequence : Int} (later : q.published ≤ sequence)
    (known : sequence ≤ q.claimed) : Sound config (q.publish sequence) := by
  obtain ⟨initial, consumed, published, claimed, room, limit, call⟩ := sound
  exact ⟨initial, Int.le_trans consumed later, known, claimed, room, limit, call⟩

theorem Sound.consume {sequence : Int} (later : q.consumed ≤ sequence)
    (known : sequence ≤ q.published) : Sound config (q.consume sequence) := by
  obtain ⟨initial, consumed, published, claimed, room, limit, call⟩ := sound
  refine ⟨Int.le_trans initial later, known, published, claimed, Int.le_trans room later, ?_, ?_⟩
  · change q.cachedCapacityLimit ≤ sequence + config.capacity
    omega
  · change Holds config q.claimed sequence q.call
    cases frame : q.call with
    | ready => trivial
    | waitForCapacity previous count spinCount =>
      rw [frame] at call
      exact call
    | setClaimed previous count =>
      rw [frame] at call
      exact ⟨call.1, Int.le_trans call.2 later⟩

theorem Sound.perform {action : Action} {moved : Outcome × Sequencer}
    (allowed : q.Contract action) (performed : q.perform config action = some moved) :
    Correct config q moved := by
  cases action with
  | next =>
    obtain ⟨-, same⟩ := Option.ite_none_right_eq_some.mp performed
    cases same
    exact sound.nextBatch Nat.one_pos allowed
  | nextBatch count =>
    obtain ⟨-, same⟩ := Option.ite_none_right_eq_some.mp performed
    cases same
    exact sound.nextBatch allowed.1 allowed.2
  | tryNext =>
    obtain ⟨-, same⟩ := Option.ite_none_right_eq_some.mp performed
    cases same
    exact sound.tryNext allowed
  | proceed =>
    have holds := sound.call
    rw [Sequencer.perform] at performed
    cases frame : q.call with
    | ready =>
      rw [frame] at performed
      cases performed
    | waitForCapacity previous count spinCount =>
      rw [frame] at performed holds
      cases performed
      exact sound.waitForCapacity holds
    | setClaimed previous count =>
      rw [frame] at performed holds
      cases performed
      exact sound.setClaimed holds
  | publish sequence | publishBatch low high =>
    obtain ⟨-, same⟩ := Option.ite_none_right_eq_some.mp performed
    cases same
    exact ⟨trivial, sound.publish allowed.1 allowed.2⟩
  | consume sequence | consumeBatch low high =>
    cases performed
    exact ⟨trivial, sound.consume allowed.1 allowed.2⟩

end Steps

theorem sound_new (config : Config) : Sound config (new config) := by
  have positive := config.capacity_pos
  refine ⟨Int.le_refl _, Int.le_refl _, Int.le_refl _, ?_, ?_, ?_, trivial⟩
  · change (-1 : Int) ≤ int64Max
    decide
  · change -1 - (config.capacity : Int) ≤ -1
    omega
  · change (config.capacity : Int) - 1 ≤ -1 + config.capacity
    omega

theorem reachable_sound (reached : (system config).ReachableBy Contract q) :
    Sound config q := by
  refine reached.invariant ?_ ?_
  · rintro _ rfl
    exact sound_new config
  · intro q action q' _ sound allowed moved
    obtain ⟨⟨outcome, after⟩, performed, rfl⟩ := Option.map_eq_some_iff.mp moved
    exact (sound.perform allowed performed).2

section Progress

variable {outcome : Outcome} {q' : Sequencer}

/-- A round of the loop that finds room is the last one. -/
theorem proceed_leaves {previous spinCount : Int} {count : Nat}
    (waiting : q.call = .waitForCapacity previous count spinCount)
    (room : previous + count - config.capacity ≤ q.consumed)
    (performed : q.perform config .proceed = some (outcome, q')) :
    outcome = .silent ∧ q'.call = .setClaimed previous count := by
  rw [perform, waiting] at performed
  simp only [waitForCapacity, if_neg (Int.not_lt.mpr room)] at performed
  cases performed
  exact ⟨rfl, rfl⟩

/-- A call that has left the loop grants its claim. -/
theorem Sound.proceed_grants (sound : q.Sound config) {previous : Int} {count : Nat}
    (checked : q.call = .setClaimed previous count)
    (performed : q.perform config .proceed = some (outcome, q')) :
    outcome = .granted (previous + 1) (previous + count) := by
  have holds := sound.call
  rw [checked] at holds
  have low := sound.initial
  have published := sound.consumed
  have claimed := sound.published
  have positive := holds.1.some
  have fits := holds.1.fits
  rw [Sequencer.perform, checked] at performed
  simp only [Sequencer.setClaimed] at performed
  rw [int64_of_range (by rw [holds.1.last]; omega) (by omega)] at performed
  cases performed
  rfl

/-- `try_next` that finds room goes on to its claim. -/
theorem Sound.tryNext_leaves (sound : q.Sound config) (fits : q.claimed + 1 ≤ int64Max)
    (room : q.claimed + 1 - config.capacity ≤ q.consumed)
    (performed : q.perform config .tryNext = some (outcome, q')) :
    outcome = .silent ∧ q'.call = .setClaimed q.claimed 1 := by
  have bound := capacity_le config
  have low := sound.initial
  have published := sound.consumed
  have claimed := sound.published
  obtain ⟨-, same⟩ := Option.ite_none_right_eq_some.mp performed
  unfold Sequencer.tryNext at same
  rw [int64_of_range (by omega) fits] at same
  simp only at same
  rw [int64_of_range (by omega) (by omega)] at same
  simp only [if_neg (Int.not_lt.mpr room)] at same
  cases same
  exact ⟨rfl, rfl⟩

end Progress

/-- Within the contract a claim is granted only when it ends at most one lap after the consumed
position, `try_next` refuses and the others spin only when that fails, and nothing overflows. Where
it holds, `try_next` and a round of the loop go on to the claim, which is then granted. -/
theorem claims_follow_consumed (reached : (system config).ReachableBy Contract q)
    {action : Action} {outcome : Outcome} {q' : Sequencer} (allowed : q.Contract action)
    (performed : q.perform config action = some (outcome, q')) :
    (∀ first last, outcome = .granted first last →
      first = q.claimed + 1 ∧ q'.claimed = last ∧ last - config.capacity ≤ q.consumed) ∧
    (∀ last, outcome = .refused last →
      last = q.claimed + 1 ∧ ¬ last - config.capacity ≤ q.consumed) ∧
    (∀ last, outcome = .spun last → ¬ last - config.capacity ≤ q.consumed) ∧
    outcome ≠ .overflow ∧
    (action = .tryNext → q.claimed + 1 - config.capacity ≤ q.consumed →
      outcome = .silent ∧ q'.call = .setClaimed q.claimed 1) ∧
    (action = .proceed → ∀ previous count spinCount,
      q.call = .waitForCapacity previous count spinCount →
      previous + count - config.capacity ≤ q.consumed →
      outcome = .silent ∧ q'.call = .setClaimed previous count) ∧
    (action = .proceed → ∀ previous count, q.call = .setClaimed previous count →
      outcome = .granted (previous + 1) (previous + count)) := by
  have sound := reachable_sound reached
  obtain ⟨obeys, after⟩ := sound.perform allowed performed
  refine ⟨?_, ?_, ?_, ?_, ?_, ?_, ?_⟩
  · rintro first last rfl
    exact obeys
  · rintro last rfl
    exact ⟨obeys.1, Int.not_le.mpr obeys.2⟩
  · rintro last rfl
    exact Int.not_le.mpr obeys
  · rintro rfl
    exact obeys
  · rintro rfl room
    exact sound.tryNext_leaves allowed room performed
  · rintro rfl previous count spinCount waiting room
    exact proceed_leaves waiting room performed
  · rintro rfl previous count checked
    exact sound.proceed_grants checked performed

/-- A ring of one slot. -/
def oneSlot : Config := ⟨0, Nat.zero_le 62⟩

/-- `try_next` refuses the second claim of a ring of one slot. -/
theorem claims_follow_consumed_one_slot : ∃ q, (system oneSlot).ReachableBy Contract q ∧
    q.perform oneSlot .tryNext = some (.refused 1, q) ∧
    ¬ (1 : Int) - oneSlot.capacity ≤ q.consumed := by
  refine (system oneSlot).exists_reachableBy Contract rfl [.next, .proceed]
    ⟨_, rfl, fun reached => ?_⟩
  obtain ⟨-, full, -⟩ := claims_follow_consumed reached (show Contract _ .tryNext by decide) rfl
  exact ⟨rfl, (full 1 rfl).2⟩

end Sequencer

end Menagerie.Starling.SingleProducer
