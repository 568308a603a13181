import Menagerie.Starling.SingleProducer.Disruptor
import Mathlib.Data.List.Range

/-!
# Delivery through the single-producer disruptor

All sequences that are claimed and not yet consumed have slots of their own, so a written value
stays in its slot until it has been read. The consumer reads what has been published, in order.
-/

namespace Menagerie.Starling.SingleProducer

open Disruptor (Config Operation Request Caller)

/-- A claim of one sequence. -/
def Call.Single : Call → Prop
  | .ready => False
  | .waitForCapacity _ count _ | .setClaimed _ count => count = 1

section Holds

variable {α : Type} (config : Config) (s : State α)

/-- What the producer relies on at its program point. -/
def Producer.Holds : Producer α → Prop
  | .ready | .signal => True
  | .claim value => value.isSome = true →
    s.sequencer.published = s.sequencer.claimed ∧ s.sequencer.call.Single
  | .destroySlot sequence _ =>
    s.sequencer.published + 1 = sequence ∧ sequence ≤ s.sequencer.claimed
  | .constructSlot sequence _ emplacing => s.sequencer.published < sequence ∧
    sequence ≤ s.sequencer.claimed ∧ (emplacing = true → s.sequencer.published + 1 = sequence)
  | .publish sequence => s.sequencer.published + 1 = sequence ∧
    sequence ≤ s.sequencer.claimed ∧ (s.written sequence).isSome = true

/-- What `pull` relies on while it waits. -/
def PullHolds : Caller → Prop
  | .manual => True
  | .pull sequence => sequence = s.sequencer.consumed + 1 ∧ sequence = s.nextRead

/-- What the consumer relies on at its program point. -/
def Consumer.Holds : Consumer → Prop
  | .ready => True
  | .waitFor _ caller => PullHolds s caller
  | .take sequence => sequence = s.nextRead ∧ sequence = s.sequencer.consumed + 1 ∧
    sequence ≤ s.sequencer.published
  | .consume sequence => sequence + 1 = s.nextRead ∧ s.sequencer.consumed ≤ sequence

/-- The order of the positions. -/
structure Positions : Prop where
  behind : s.sequencer.consumed < s.nextRead
  read : s.nextRead ≤ s.sequencer.published + 1
  cached : s.cachedPublished ≤ s.sequencer.published
  frontier : s.frontier ≤ s.sequencer.published

/-- What the slots hold. -/
structure Stored : Prop where
  own : ∀ sequence, (s.written sequence).isSome = true → sequence ≤ s.sequencer.claimed
  filled : ∀ sequence, 0 ≤ sequence → sequence ≤ s.sequencer.published →
    (s.written sequence).isSome = true
  content : ∀ sequence value, s.nextRead ≤ sequence → s.written sequence = some value →
    s.buffer (config.slotIndex sequence) = some value

/-- What the consumer has read. -/
structure History : Prop where
  order : Disruptor.InOrder s.reads s.nextRead
  values : ∀ sequence content, (sequence, content) ∈ s.reads →
    content.isSome = true ∧ s.written sequence = content

/-- The invariant of the disruptor. -/
structure Sound : Prop where
  sequencer : s.sequencer.Sound config
  positions : Positions s
  stored : Stored config s
  history : History s
  producer : s.producer.Holds s
  consumer : s.consumer.Holds s

end Holds

/-- The claim of an action is for one sequence. -/
def Action.Single (q : Sequencer) : Action → Prop
  | .next | .tryNext => True
  | .nextBatch count => count = 1
  | .proceed => q.call.Single
  | .publish _ | .publishBatch _ _ | .consume _ | .consumeBatch _ _ => False

/-- The action claims. -/
def Action.claims : Action → Bool
  | .next | .nextBatch _ | .tryNext | .proceed => true
  | .publish _ | .publishBatch _ _ | .consume _ | .consumeBatch _ _ => false

namespace Sequencer

variable {config : Config} {q : Sequencer}

/-- A claim moves the claimed position only, by one if for one sequence. -/
structure Claims (single : Prop) (q : Sequencer) (moved : Outcome × Sequencer) : Prop where
  published : moved.2.published = q.published
  consumed : moved.2.consumed = q.consumed
  claimed : q.claimed ≤ moved.2.claimed
  pending : single → moved.1 = .silent ∨ (∃ last, moved.1 = .spun last) →
    moved.2.claimed = q.claimed ∧ moved.2.call.Single
  granted : ∀ first last, single → moved.1 = .granted first last →
    first = q.claimed + 1 ∧ moved.2.claimed = first

/-- A step that neither grants nor goes on. -/
theorem claims_same {single : Prop} {outcome : Outcome}
    (failed : outcome = .overflow ∨ ∃ last, outcome = .refused last) :
    Claims single q (outcome, q) := by
  refine ⟨rfl, rfl, Int.le_refl _, ?_, ?_⟩
  · rintro - (rfl | ⟨last, rfl⟩)
    · simp at failed
    · simp at failed
  · rintro first last - rfl
    simp at failed

theorem claims_pending {single : Prop} {outcome : Outcome} {call : Call} (limit : Int)
    (on : outcome = .silent ∨ ∃ last, outcome = .spun last) (one : single → call.Single) :
    Claims single q (outcome, { q with cachedCapacityLimit := limit, call }) := by
  refine ⟨rfl, rfl, Int.le_refl _, fun here _ => ⟨rfl, one here⟩, ?_⟩
  rintro first last - rfl
  simp at on

theorem nextBatch_claims (count : Nat) : Claims (count = 1) q (q.nextBatch config count) := by
  unfold Sequencer.nextBatch
  cases int64 (q.claimed + count) with
  | none => exact claims_same (.inl rfl)
  | some lastClaim =>
    simp only
    split_ifs
    · cases int64 (lastClaim - config.capacity) with
      | none => exact claims_same (.inl rfl)
      | some wrapPoint => exact claims_pending _ (.inl rfl) id
    · exact claims_pending _ (.inl rfl) id

theorem tryNext_claims : Claims True q (q.tryNext config) := by
  unfold Sequencer.tryNext
  cases int64 (q.claimed + 1) with
  | none => exact claims_same (.inl rfl)
  | some next =>
    simp only
    cases int64 (next - config.capacity) with
    | none => exact claims_same (.inl rfl)
    | some wrapPoint =>
      simp only
      split_ifs
      · exact claims_same (.inr ⟨next, rfl⟩)
      · exact claims_pending _ (.inl rfl) (fun _ => rfl)

theorem waitForCapacity_claims (previous spinCount : Int) (count : Nat) :
    Claims (count = 1) q (q.waitForCapacity config previous count spinCount) := by
  unfold Sequencer.waitForCapacity
  simp only
  split_ifs
  · cases int16 (spinCount + 1) with
    | none => exact claims_same (.inl rfl)
    | some spins => exact claims_pending _ (.inr ⟨_, rfl⟩) id
  · exact claims_pending _ (.inl rfl) id

theorem setClaimed_claims (count : Nat) : Claims (count = 1) q (q.setClaimed q.claimed count) := by
  unfold Sequencer.setClaimed
  cases range : int64 (q.claimed + 1) with
  | none => exact claims_same (.inl rfl)
  | some first =>
    obtain ⟨-, same⟩ := Option.ite_none_right_eq_some.mp range
    cases same
    refine ⟨rfl, rfl, ?_, ?_, ?_⟩
    · change q.claimed ≤ q.claimed + count
      omega
    · intro _ on
      simp at on
    · rintro first last rfl same
      cases same
      exact ⟨rfl, rfl⟩

theorem Sound.claims (sound : q.Sound config) {action : Action} (claims : action.claims = true)
    {moved : Outcome × Sequencer} (performed : q.perform config action = some moved) :
    Claims (action.Single q) q moved := by
  cases action with
  | next =>
    obtain ⟨-, same⟩ := Option.ite_none_right_eq_some.mp performed
    cases same
    have claim : Claims (1 = 1) q (q.nextBatch config 1) := nextBatch_claims 1
    exact ⟨claim.published, claim.consumed, claim.claimed, fun _ => claim.pending rfl,
      fun first last _ => claim.granted first last rfl⟩
  | nextBatch count =>
    obtain ⟨-, same⟩ := Option.ite_none_right_eq_some.mp performed
    cases same
    exact nextBatch_claims count
  | tryNext =>
    obtain ⟨-, same⟩ := Option.ite_none_right_eq_some.mp performed
    cases same
    exact tryNext_claims
  | proceed =>
    have holds := sound.call
    rw [Sequencer.perform] at performed
    unfold Action.Single
    cases frame : q.call with
    | ready =>
      rw [frame] at performed
      cases performed
    | waitForCapacity previous count spinCount =>
      rw [frame] at performed
      cases performed
      exact waitForCapacity_claims previous spinCount count
    | setClaimed previous count =>
      rw [frame] at performed holds
      cases performed
      rw [holds.1.last]
      exact setClaimed_claims count
  | publish _ | publishBatch _ _ | consume _ | consumeBatch _ _ => cases claims

end Sequencer

section Steps

variable {α : Type} {config : Config} {s s' : State α}

theorem Sound.slot_apart (sound : Sound config s) {left right : Int}
    (first : s.sequencer.consumed < left) (second : s.sequencer.consumed < right)
    (here : left ≤ s.sequencer.claimed) (there : right ≤ s.sequencer.claimed)
    (differs : left ≠ right) : config.slotIndex left ≠ config.slotIndex right := by
  intro same
  have room := sound.sequencer.room
  have apart := config.apart_of_slotIndex same differs
  omega

section

variable {sequencer : Sequencer} {producer : Producer α}

theorem Positions.keep (positions : Positions s)
    (consumed : sequencer.consumed = s.sequencer.consumed)
    (published : s.sequencer.published ≤ sequencer.published) :
    Positions { s with sequencer, producer } := by
  obtain ⟨behind, read, cached, frontier⟩ := positions
  constructor <;> dsimp only <;> omega

theorem Consumer.Holds.keep {consumer : Consumer} (holds : consumer.Holds s)
    (consumed : sequencer.consumed = s.sequencer.consumed)
    (published : s.sequencer.published ≤ sequencer.published) :
    consumer.Holds { s with sequencer, producer } := by
  cases consumer with
  | ready => trivial
  | waitFor sequence caller =>
    cases caller with
    | manual => trivial
    | pull sequence => exact ⟨by rw [consumed]; exact holds.1, holds.2⟩
  | take sequence =>
    obtain ⟨reads, follows, known⟩ := holds
    exact ⟨reads, by rw [consumed]; exact follows, Int.le_trans known published⟩
  | consume sequence => exact ⟨holds.1, by rw [consumed]; exact holds.2⟩

end

section

variable (sound : Sound config s)

include sound

theorem Sound.claims (action : Action) (claims : action.claims = true) (value : Option α)
    (emplaces : value.isSome = true → s.sequencer.published = s.sequencer.claimed ∧
      action.Single s.sequencer) (moved : s.claims config action value = some s') :
    Sound config s' := by
  obtain ⟨allowed, stepped⟩ := Option.ite_none_right_eq_some.mp moved
  obtain ⟨⟨outcome, q'⟩, performed, rfl⟩ := Option.map_eq_some_iff.mp stepped
  have claim := sound.sequencer.claims claims performed
  obtain ⟨published, consumed, claimed, pending, granted⟩ := claim
  simp only at published consumed claimed pending granted
  obtain ⟨sequencer, positions, stored, history, -, consumer⟩ := sound
  refine ⟨(sequencer.perform allowed performed).2, ?_, ?_, ⟨history.order, history.values⟩, ?_, ?_⟩
  · exact positions.keep consumed (Int.le_of_eq published.symm)
  · refine ⟨?_, ?_, stored.content⟩
    · intro sequence written
      exact Int.le_trans (stored.own sequence written) claimed
    · intro sequence start below
      rw [published] at below
      exact stored.filled sequence start below
  · cases outcome with
    | granted first last =>
      cases value with
      | none => trivial
      | some value =>
        obtain ⟨level, single⟩ := emplaces rfl
        obtain ⟨next, after⟩ := granted first last single rfl
        change q'.published + 1 = first ∧ first ≤ q'.claimed
        omega
    | refused last => trivial
    | spun last =>
      intro emplacing
      obtain ⟨level, single⟩ := emplaces emplacing
      obtain ⟨same, one⟩ := pending single (.inr ⟨last, rfl⟩)
      exact ⟨by simp only [published, same]; exact level, one⟩
    | silent =>
      intro emplacing
      obtain ⟨level, single⟩ := emplaces emplacing
      obtain ⟨same, one⟩ := pending single (.inl rfl)
      exact ⟨by simp only [published, same]; exact level, one⟩
    | overflow => trivial
  · exact consumer.keep consumed (Int.le_of_eq published.symm)

theorem Sound.store {sequence : Int} (content : Option α)
    (unpublished : s.sequencer.published < sequence) (claimed : sequence ≤ s.sequencer.claimed)
    {producer : Producer α}
    (holds : producer.Holds { s.store config sequence content with producer }) :
    Sound config { s.store config sequence content with producer } := by
  have whole := sound
  obtain ⟨sequencer, positions, stored, history, -, consumer⟩ := sound
  have behind := positions.behind
  have read := positions.read
  have consumed := sequencer.consumed
  have other : ∀ old, old ≠ sequence →
      Function.update s.written sequence content old = s.written old :=
    fun old differs => Function.update_of_ne differs _ _
  refine ⟨sequencer, { positions with }, ⟨?_, ?_, ?_⟩, ⟨history.order, ?_⟩, holds, consumer⟩
  · intro old written
    by_cases same : old = sequence
    · rw [same]
      exact claimed
    · refine stored.own old ?_
      rw [← other old same]
      exact written
  · intro old start below
    change old ≤ s.sequencer.published at below
    change (Function.update s.written sequence content old).isSome = true
    rw [other old (by omega)]
    exact stored.filled old start below
  · intro old value unread written
    change Function.update s.written sequence content old = some value at written
    change Function.update s.buffer (config.slotIndex sequence) content _ = some value
    by_cases same : old = sequence
    · rw [same, Function.update_self] at written
      rw [same, Function.update_self]
      exact written
    · rw [other old same] at written
      have known : old ≤ s.sequencer.claimed := stored.own old (by rw [written]; rfl)
      have next : s.nextRead ≤ old := unread
      have apart := whole.slot_apart (by omega) (by omega) known claimed same
      rw [Function.update_of_ne apart]
      exact stored.content old value unread written
  · intro old result member
    have range := history.order.range member
    change _ ∧ Function.update s.written sequence content old = result
    rw [other old (by omega)]
    exact history.values old result member

theorem Sound.publish {last : Int} (later : s.sequencer.published ≤ last)
    (claimed : last ≤ s.sequencer.claimed)
    (filled : ∀ sequence, s.sequencer.published < sequence → sequence ≤ last →
      (s.written sequence).isSome = true) :
    Sound config { s with sequencer := s.sequencer.publish last, producer := .signal } := by
  obtain ⟨sequencer, positions, stored, history, -, consumer⟩ := sound
  refine ⟨sequencer.publish later claimed, positions.keep rfl later,
    ⟨stored.own, ?_, stored.content⟩, { history with }, trivial, consumer.keep rfl later⟩
  intro sequence start below
  by_cases before : sequence ≤ s.sequencer.published
  · exact stored.filled sequence start before
  · exact filled sequence (by omega) below

theorem Sound.learn {cachedPublished frontier : Int} {consumer : Consumer}
    (cached : cachedPublished ≤ s.sequencer.published) (known : frontier ≤ s.sequencer.published)
    (holds : consumer.Holds s) :
    Sound config { s with cachedPublished, frontier, consumer } := by
  obtain ⟨sequencer, positions, stored, history, producer, -⟩ := sound
  exact ⟨sequencer, { positions with cached, frontier := known }, { stored with }, { history with },
    producer, holds⟩

theorem Sound.read (moves : Bool) (known : s.nextRead ≤ s.sequencer.published) {consumer : Consumer}
    (holds : consumer.Holds { s.read config s.nextRead moves with consumer }) :
    Sound config { s.read config s.nextRead moves with consumer } := by
  have whole := sound
  obtain ⟨sequencer, positions, stored, history, producer, -⟩ := sound
  have behind := positions.behind
  have start := sequencer.initial
  have claimed := sequencer.published
  have filled := stored.filled s.nextRead (by omega) known
  obtain ⟨value, written⟩ := Option.isSome_iff_exists.mp filled
  have content := stored.content s.nextRead value (Int.le_refl _) written
  refine ⟨sequencer, ⟨?_, ?_, positions.cached, positions.frontier⟩,
    ⟨stored.own, stored.filled, ?_⟩, ⟨?_, ?_⟩, producer, holds⟩
  · change s.sequencer.consumed < s.nextRead + 1
    omega
  · change s.nextRead + 1 ≤ s.sequencer.published + 1
    omega
  · intro sequence other later written
    change s.nextRead + 1 ≤ sequence at later
    change s.written sequence = some other at written
    have known := stored.own sequence (by rw [written]; rfl)
    have apart := whole.slot_apart (by omega) behind known (by omega)
      (show sequence ≠ s.nextRead by omega)
    change (if moves then Function.update s.buffer (config.slotIndex s.nextRead) none else s.buffer)
      (config.slotIndex sequence) = some other
    split_ifs
    · rw [Function.update_of_ne apart]
      exact stored.content sequence other (by omega) written
    · exact stored.content sequence other (by omega) written
  · exact history.order.snoc (by omega) _
  · intro sequence result member
    rcases List.mem_append.mp member with old | new
    · exact history.values sequence result old
    · cases List.mem_singleton.mp new
      refine ⟨?_, ?_⟩
      · rw [content]
        rfl
      · rw [content]
        exact written

theorem Sound.consume {sequence : Int} {consumer : Consumer}
    (later : s.sequencer.consumed ≤ sequence) (read : sequence < s.nextRead)
    (holds : consumer.Holds { s with sequencer := s.sequencer.consume sequence, consumer }) :
    Sound config { s with sequencer := s.sequencer.consume sequence, consumer } := by
  obtain ⟨sequencer, positions, stored, history, producer, -⟩ := sound
  have published := positions.read
  exact ⟨sequencer.consume later (by omega), { positions with behind := read }, { stored with },
    { history with }, producer, holds⟩

theorem Sound.begin {operation : Operation α} (moved : s.begin config operation = some s') :
    Sound config s' := by
  have publishes : ∀ last, s.publishes last = some s' → Sound config s' := by
    intro last published
    obtain ⟨⟨⟨later, claimed⟩, filled⟩, same⟩ := Option.ite_none_right_eq_some.mp published
    cases same
    refine sound.publish later claimed ?_
    intro sequence above below
    have here := filled (sequence - s.sequencer.published - 1).toNat (by omega)
    have same : s.sequencer.published + 1 + ((sequence - s.sequencer.published - 1).toNat : Int) =
        sequence := by omega
    rw [same] at here
    exact here
  cases operation with
  | next => exact sound.claims .next rfl none (fun some => by cases some) moved
  | nextBatch count =>
    exact sound.claims (.nextBatch count) rfl none (fun some => by cases some) moved
  | tryNext => exact sound.claims .tryNext rfl none (fun some => by cases some) moved
  | emplace value =>
    obtain ⟨level, claimed⟩ := Option.ite_none_right_eq_some.mp moved
    exact sound.claims .next rfl (some value) (fun _ => ⟨level, trivial⟩) claimed
  | write sequence value =>
    obtain ⟨⟨unpublished, claimed⟩, same⟩ := Option.ite_none_right_eq_some.mp moved
    cases same
    refine sound.store none unpublished claimed ⟨unpublished, claimed, ?_⟩
    intro emplacing
    cases emplacing
  | publish sequence => exact publishes sequence moved
  | publishBatch low high => exact publishes high moved

theorem Sound.produce (moved : s.produce config = some s') :
    Sound config s' := by
  have holds := sound.producer
  revert moved
  fun_cases State.produce config s with
  | case1 => exact nofun
  | case2 value frame =>
    rw [frame] at holds
    exact sound.claims .proceed rfl value holds
  | case3 sequence value frame =>
    rw [frame] at holds
    rintro ⟨⟩
    have unpublished : s.sequencer.published < sequence := by
      have := holds.1
      omega
    exact sound.store none unpublished holds.2 ⟨unpublished, holds.2, fun _ => holds.1⟩
  | case4 sequence value emplacing frame =>
    rw [frame] at holds
    rintro ⟨⟩
    obtain ⟨unpublished, claimed, next⟩ := holds
    refine sound.store (some value) unpublished claimed ?_
    split_ifs with emplaces
    · refine ⟨next emplaces, claimed, ?_⟩
      change (Function.update s.written sequence (some value) sequence).isSome = true
      rw [Function.update_self]
      rfl
    · trivial
  | case5 sequence frame =>
    rw [frame] at holds
    rintro ⟨⟩
    obtain ⟨next, claimed, written⟩ := holds
    refine sound.publish (by omega) claimed ?_
    intro other above below
    have same : other = sequence := by omega
    rw [same]
    exact written
  | case6 frame =>
    rintro ⟨⟩
    obtain ⟨sequencer, positions, stored, history, -, consumer⟩ := sound
    exact ⟨sequencer, { positions with }, { stored with }, { history with }, trivial, consumer⟩

theorem Sound.request (idle : s.consumer = .ready) {wanted : Request}
    (moved : s.request config wanted = some s') : Sound config s' := by
  have cached := sound.positions.cached
  have frontier := sound.positions.frontier
  have ready : ∀ t : State α, s.consumer.Holds t := by
    rw [idle]
    exact fun _ => trivial
  cases wanted with
  | waitFor sequence =>
    cases moved
    exact sound.learn cached frontier trivial
  | getPublishedSequence lowerBound =>
    cases moved
    exact sound.learn cached (Int.max_le.mpr ⟨frontier, Int.le_refl _⟩) (ready s)
  | pull =>
    obtain ⟨next, pulled⟩ := Option.ite_none_right_eq_some.mp moved
    split_ifs at pulled with beyond
    · cases pulled
      exact sound.learn cached frontier ⟨rfl, next.symm⟩
    · cases pulled
      exact sound.learn cached frontier ⟨next.symm, rfl, by omega⟩
  | read moves =>
    obtain ⟨known, same⟩ := Option.ite_none_right_eq_some.mp moved
    cases same
    exact sound.read moves (by omega) (ready _)
  | consume sequence | consumeBatch low sequence =>
    obtain ⟨⟨later, read⟩, same⟩ := Option.ite_none_right_eq_some.mp moved
    cases same
    exact sound.consume later read (ready _)

theorem Sound.receive {givesUp : Bool} (moved : s.receive config givesUp = some s') :
    Sound config s' := by
  have cached := sound.positions.cached
  have frontier := sound.positions.frontier
  have holds := sound.consumer
  revert moved
  fun_cases State.receive config s givesUp with
  | case1 => exact nofun
  | case2 sequence caller frame =>
    rintro ⟨⟩
    exact sound
  | case3 sequence caller frame =>
    rw [frame] at holds
    rintro ⟨⟩
    fun_cases State.resume s s.sequencer.published caller with
    | case1 => exact sound.learn cached (Int.max_le.mpr ⟨frontier, Int.le_refl _⟩) trivial
    | case2 => exact sound.learn cached frontier holds
    | case3 => exact sound.learn (Int.le_refl _) frontier ⟨holds.2, holds.1, by omega⟩
  | case4 sequence frame =>
    rw [frame] at holds
    rintro ⟨⟩
    obtain ⟨rfl, next, known⟩ := holds
    refine sound.read true known ⟨rfl, ?_⟩
    change s.sequencer.consumed ≤ s.nextRead
    omega
  | case5 sequence frame =>
    rw [frame] at holds
    rintro ⟨⟩
    exact sound.consume holds.2 (by have := holds.1; omega) trivial

theorem Sound.step {label : Step α} (moved : SingleProducer.step config s label = some s') :
    Sound config s' := by
  cases label with
  | begin operation =>
    simp only [SingleProducer.step] at moved
    split at moved
    · exact sound.begin moved
    · cases moved
  | produce => exact sound.produce moved
  | request wanted =>
    simp only [SingleProducer.step] at moved
    split at moved
    · rename_i idle
      exact sound.request idle moved
    · cases moved
  | receive givesUp => exact sound.receive moved

end

theorem sound_initial : Sound config (State.initial config α) where
  sequencer := Sequencer.sound_new config
  positions := by
    refine ⟨?_, ?_, Int.le_refl _, Int.le_refl _⟩
    · exact (show (-1 : Int) < 0 by decide)
    · exact (show (0 : Int) ≤ -1 + 1 by decide)
  stored := by
    refine ⟨?_, ?_, ?_⟩
    · intro sequence written
      cases written
    · intro sequence start below
      change sequence ≤ -1 at below
      omega
    · intro sequence value _ written
      cases written
  history := by
    refine ⟨rfl, ?_⟩
    intro sequence content read
    cases read
  producer := trivial
  consumer := trivial

theorem reachable_sound (reached : (system config α).Reachable s) : Sound config s := by
  refine reached.invariant ?_ ?_
  · rintro _ rfl
    exact sound_initial
  · intro s label s' _ sound _ moved
    exact sound.step moved

end Steps

end Menagerie.Starling.SingleProducer
