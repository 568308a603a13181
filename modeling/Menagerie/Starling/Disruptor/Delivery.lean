import Menagerie.Starling.Disruptor.Protocol
import Mathlib.Data.List.Nodup

/-!
# Delivery through the multi-producer disruptor

Producers and consumer keep to the protocol at every program point, so in every interleaving the
consumer reads what the claimants have written, in order, and the disruptor refines its sequencer.
-/

namespace Menagerie.Starling.Disruptor

open Function List

section Holds

variable {α : Type} (config : Config) (s : State α)

/-- What a producer relies on at its program point. -/
def Producer.Holds (thread : Nat) : Producer α → Prop
  | .ready | .tryNextCapacity _ | .signal => True
  | .waitForCapacity first count _ => 0 < count ∧
      ∀ sequence, first ≤ sequence → sequence < first + count →
        s.stage sequence = .waiting thread
  | .tryNextSwap current => current + 1 - config.capacity ≤ s.consumed
  | .destroySlot sequence _ => s.stage sequence = .granted thread
  | .constructSlot sequence _ _ => s.stage sequence = .blank thread
  | .publishSlot sequence last =>
    ∀ other, sequence ≤ other → other ≤ last → s.stage other = .written thread

/-- What `pull` relies on while it waits. -/
def Caller.Holds : Caller → Prop
  | .manual => True
  | .pull sequence => sequence = s.consumed + 1 ∧ sequence = s.nextRead

/-- What the consumer relies on at its program point. -/
def Consumer.Holds : Consumer → Prop
  | .ready => True
  | .waitFor sequence caller => sequence ≤ s.nextRead ∧ caller.Holds s
  | .getPublishedSequence lowerBound => lowerBound ≤ s.nextRead
  | .scanPublished sequence _ caller =>
    (∀ other < sequence, s.Published other) ∧ caller.Holds s
  | .take sequence => sequence = s.nextRead ∧ sequence = s.consumed + 1 ∧ s.Published sequence
  | .consume sequence => sequence + 1 = s.nextRead ∧ s.consumed ≤ sequence

/-- The invariant of the disruptor. -/
structure Invariant : Prop where
  sound : Sound config s
  producers : ∀ thread, (s.producers thread).Holds config s thread
  consumer : s.consumer.Holds s

end Holds

/-- The producer that executes an effect. -/
def Effect.thread {α : Type} : Effect α → Option Nat
  | .claim thread _ _ | .grant thread _ _ | .blank thread _ | .write thread _ _
  | .publish thread _ => some thread
  | .skip | .learn _ | .cache _ | .read _ | .consume _ => none

/-- The effects of one producer. -/
def Effect.By {α : Type} (thread : Nat) : Effect α → Prop
  | .skip => True
  | .claim mover _ _ | .grant mover _ _ | .blank mover _ | .write mover _ _
  | .publish mover _ => mover = thread
  | .learn _ | .cache _ | .read _ | .consume _ => False

section Frame

variable {α : Type} {config : Config} {s : State α} {effect : Effect α} {thread : Nat}

section

variable (sound : Sound config s) (allowed : Allowed config s effect)

include sound allowed

theorem Sound.stage_changes (sequence : Int) :
    (s.apply config effect).stage sequence = s.stage sequence ∨
      (s.stage sequence).claimant = none ∨
      (s.stage sequence).claimant = effect.thread ∧
        ∀ author, s.stage sequence ≠ .published author := by
  have single : ∀ other stage later, s.stage other = stage → stage.claimant = effect.thread →
      (∀ author, stage ≠ .published author) →
      (s.setStages other 1 later).stage sequence = s.stage sequence ∨
        (s.stage sequence).claimant = none ∨
        (s.stage sequence).claimant = effect.thread ∧
          ∀ author, s.stage sequence ≠ .published author := by
    intro other stage later now own pending
    by_cases same : sequence = other
    · right; right
      rw [same, now]
      exact ⟨own, pending⟩
    · left
      rw [s.setStages_one]
      exact update_of_ne same _ _
  cases effect with
  | claim author count granted =>
    by_cases old : (s.stage sequence).claimant = none
    · exact .inr (.inl old)
    · exact .inl (sound.claim_old old)
  | grant author first count =>
    by_cases inside : first ≤ sequence ∧ sequence < first + count
    · right; right
      rw [allowed.2 sequence inside.1 inside.2]
      exact ⟨rfl, fun _ => nofun⟩
    · left
      rw [State.grant_stage, if_neg inside]
  | blank author other =>
    rcases allowed with granted | written
    · exact single other _ _ granted rfl (fun _ => nofun)
    · exact single other _ _ written rfl (fun _ => nofun)
  | write author other value | publish author other =>
    exact single other _ _ allowed rfl (fun _ => nofun)
  | _ => exact .inl rfl

theorem Sound.stage_other (mover : effect.thread ≠ some thread) {sequence : Int} {stage : Stage}
    (now : s.stage sequence = stage) (own : stage.claimant = some thread) :
    (s.apply config effect).stage sequence = stage := by
  rcases sound.stage_changes allowed sequence with kept | free | ⟨moved, -⟩
  · rw [kept, now]
  · rw [now, own] at free
    cases free
  · rw [now, own] at moved
    exact absurd moved.symm mover

theorem Sound.published_mono {sequence : Int} (published : s.Published sequence) :
    (s.apply config effect).Published sequence := by
  rcases published with early | ⟨author, stage⟩
  · exact .inl early
  · rcases sound.stage_changes allowed sequence with kept | free | ⟨-, pending⟩
    · exact .inr ⟨author, kept.trans stage⟩
    · rw [stage] at free
      cases free
    · exact absurd stage (pending author)

end

theorem Effect.By.thread_ne {other : Nat} (mine : effect.By thread) (differs : other ≠ thread) :
    effect.thread ≠ some other := by
  intro moved
  cases effect with
  | skip => cases moved
  | learn | cache | read | consume => exact mine
  | _ =>
    cases moved
    exact differs mine

theorem Effect.By.positions (mine : effect.By thread) :
    (s.apply config effect).consumed = s.consumed ∧
      (s.apply config effect).nextRead = s.nextRead := by
  cases effect with
  | learn | cache | read | consume => cases mine
  | _ => exact ⟨rfl, rfl⟩

theorem Allowed.consumed_mono (allowed : Allowed config s effect) :
    s.consumed ≤ (s.apply config effect).consumed := by
  cases effect with
  | consume sequence => exact allowed.1
  | _ => exact le_rfl

/-- The steps of others leave a producer what it relies on. -/
theorem Producer.Holds.other {frame : Producer α} (holds : frame.Holds config s thread)
    (sound : Sound config s) (allowed : Allowed config s effect)
    (mover : effect.thread ≠ some thread) :
    frame.Holds config (s.apply config effect) thread := by
  cases frame with
  | ready | tryNextCapacity _ | signal => trivial
  | waitForCapacity first count value =>
    refine ⟨holds.1, ?_⟩
    intro sequence above below
    exact sound.stage_other allowed mover (holds.2 sequence above below) rfl
  | tryNextSwap current =>
    have room : current + 1 - config.capacity ≤ s.consumed := holds
    have forward := allowed.consumed_mono
    change current + 1 - config.capacity ≤ _
    omega
  | destroySlot sequence value | constructSlot sequence value emplacing =>
    exact sound.stage_other allowed mover holds rfl
  | publishSlot sequence last =>
    intro other above below
    exact sound.stage_other allowed mover (holds other above below) rfl

/-- The steps of producers leave what the consumer relies on. -/
theorem Consumer.Holds.other {frame : Consumer} (holds : frame.Holds s)
    (sound : Sound config s) (allowed : Allowed config s effect)
    (consumed : (s.apply config effect).consumed = s.consumed)
    (next : (s.apply config effect).nextRead = s.nextRead) :
    frame.Holds (s.apply config effect) := by
  have waits : ∀ caller : Caller, caller.Holds s → caller.Holds (s.apply config effect) := by
    intro caller held
    cases caller with
    | manual => trivial
    | pull sequence =>
      rw [Caller.Holds, consumed, next]
      exact held
  cases frame with
  | ready => trivial
  | waitFor sequence caller =>
    rw [Consumer.Holds, next]
    exact ⟨holds.1, waits caller holds.2⟩
  | getPublishedSequence lowerBound =>
    rw [Consumer.Holds, next]
    exact holds
  | scanPublished sequence claimed caller =>
    refine ⟨?_, waits caller holds.2⟩
    intro other below
    exact sound.published_mono allowed (holds.1 other below)
  | take sequence =>
    rw [Consumer.Holds, next, consumed]
    exact ⟨holds.1, holds.2.1, sound.published_mono allowed holds.2.2⟩
  | consume sequence =>
    rw [Consumer.Holds, next, consumed]
    exact holds

end Frame

section Moves

variable {α : Type} {config : Config} {s : State α} {thread : Nat} {effect : Effect α}

theorem State.setStages_self (s : State α) (first : Int) (count : Nat) (stage : Stage)
    {sequence : Int} (above : first ≤ sequence) (below : sequence < first + count) :
    (s.setStages first count stage).stage sequence = stage :=
  if_pos ⟨above, below⟩

theorem begin_allowed {operation : Operation α} {after : Producer α}
    (began : begin s thread operation = some (effect, after)) :
    Allowed config s effect ∧ after.Holds config (s.apply config effect) thread ∧
      effect.By thread := by
  have waits : ∀ {count : Nat}, 0 < count → ∀ value,
      (Producer.waitForCapacity (s.claimed + 1) count value).Holds config
        (s.apply config (.claim thread count false)) thread := by
    intro count positive value
    refine ⟨positive, ?_⟩
    intro sequence above below
    exact s.setStages_self _ _ _ above below
  cases operation with
  | next =>
    obtain ⟨-, same⟩ := Option.ite_none_right_eq_some.mp began
    cases same
    exact ⟨nofun, waits Nat.one_pos none, rfl⟩
  | nextBatch count =>
    obtain ⟨positive, same⟩ := Option.ite_none_right_eq_some.mp began
    cases same
    exact ⟨nofun, waits positive.1 none, rfl⟩
  | tryNext =>
    obtain ⟨-, same⟩ := Option.ite_none_right_eq_some.mp began
    cases same
    exact ⟨trivial, trivial, trivial⟩
  | emplace value =>
    obtain ⟨-, same⟩ := Option.ite_none_right_eq_some.mp began
    cases same
    exact ⟨nofun, waits Nat.one_pos _, rfl⟩
  | write sequence value =>
    obtain ⟨mine, same⟩ := Option.ite_none_right_eq_some.mp began
    cases same
    exact ⟨mine, s.setStages_self _ _ _ le_rfl (by omega), rfl⟩
  | publish sequence =>
    obtain ⟨written, same⟩ := Option.ite_none_right_eq_some.mp began
    cases same
    refine ⟨trivial, ?_, trivial⟩
    intro other above below
    have same := le_antisymm below above
    subst same
    exact written
  | publishBatch low high =>
    obtain ⟨written, same⟩ := Option.ite_none_right_eq_some.mp began
    cases same
    refine ⟨trivial, ?_, trivial⟩
    intro other above below
    have inside := written (other - low).toNat (by omega)
    have position : low + ((other - low).toNat : Int) = other := by omega
    rw [position] at inside
    exact inside

theorem produce_allowed {frame after : Producer α} {spurious : Bool}
    (holds : frame.Holds config s thread)
    (moved : produce config s thread spurious frame = some (effect, after)) :
    Allowed config s effect ∧ after.Holds config (s.apply config effect) thread ∧
      effect.By thread := by
  revert moved
  fun_cases produce config s thread spurious frame
  · exact nofun
  · rintro ⟨⟩
    exact ⟨trivial, holds, trivial⟩
  · rintro ⟨⟩
    exact ⟨⟨by omega, holds.2⟩, trivial, rfl⟩
  · rintro ⟨⟩
    have positive := holds.1
    exact ⟨⟨by omega, holds.2⟩, s.setStages_self _ _ _ le_rfl (by omega), rfl⟩
  · rintro ⟨⟩
    exact ⟨trivial, trivial, trivial⟩
  · rename_i current room
    rintro ⟨⟩
    have enough : current + 1 - config.capacity ≤ s.consumed := by omega
    exact ⟨trivial, enough, trivial⟩
  · rename_i current swapped
    rintro ⟨⟩
    have room : current + 1 - config.capacity ≤ s.consumed := holds
    refine ⟨?_, trivial, rfl⟩
    intro _
    rw [swapped.2]
    exact room
  · rintro ⟨⟩
    exact ⟨trivial, trivial, trivial⟩
  · rintro ⟨⟩
    exact ⟨.inl holds, s.setStages_self _ _ _ le_rfl (by omega), rfl⟩
  · rintro ⟨⟩
    refine ⟨holds, ?_, rfl⟩
    intro other above below
    exact s.setStages_self _ _ _ above (by omega)
  · rintro ⟨⟩
    exact ⟨holds, trivial, rfl⟩
  · rename_i sequence last inside
    rintro ⟨⟩
    refine ⟨holds sequence le_rfl inside, ?_, rfl⟩
    intro other above below
    have stages : (s.apply config (.publish thread sequence)).stage =
        update s.stage sequence (.published thread) := s.setStages_one sequence _
    rw [stages, update_of_ne (by omega)]
    exact holds other (by omega) below
  · rintro ⟨⟩
    exact ⟨trivial, trivial, trivial⟩
  · rintro ⟨⟩
    exact ⟨trivial, trivial, trivial⟩

/-- A slot with the generation of a sequence shows its publication, once all earlier ones are known:
otherwise it has the generation of the previous lap. -/
theorem Sound.published_of_generation (sound : Sound config s) {sequence : Int}
    (earlier : ∀ other < sequence, s.Published other)
    (generation : s.generations (config.slotIndex sequence) = config.generationOf sequence) :
    s.Published sequence := by
  by_contra unpublished
  have positive := config.capacity_pos
  have claimed : 0 ≤ sequence := by
    by_contra negative
    exact unpublished (.inl (by omega))
  have last := sound.sequencer.generation (sequence - config.capacity) (by omega)
    (State.ledger_published.mpr (earlier _ (by omega)))
    (by rwa [State.ledger_published, Int.sub_add_cancel])
  rw [config.slotIndex_previous] at last
  exact config.generationOf_previous sequence (last.symm.trans generation)

/-- Up to the frontier that a wait returns everything is published. -/
theorem Caller.resume_allowed {caller : Caller} {published : Int} {after : Consumer}
    (holds : caller.Holds s) (known : ∀ sequence ≤ published, s.Published sequence)
    (resumed : caller.resume published = (effect, after)) :
    Allowed config s effect ∧ after.Holds (s.apply config effect) ∧ effect.thread = none := by
  revert resumed
  fun_cases Caller.resume published caller
  · rintro ⟨⟩
    exact ⟨known, trivial, rfl⟩
  · rintro ⟨⟩
    exact ⟨trivial, ⟨holds.2.le, holds⟩, rfl⟩
  · rename_i sequence reached
    rintro ⟨⟩
    exact ⟨known, ⟨holds.2, holds.1, known sequence (by omega)⟩, rfl⟩

theorem request_allowed {wanted : Request} {after : Consumer} (sound : Sound config s)
    (requested : request s wanted = some (effect, after)) :
    Allowed config s effect ∧ after.Holds (s.apply config effect) ∧ effect.thread = none := by
  revert requested
  fun_cases request s wanted
  · rintro ⟨⟩
    exact ⟨trivial, ⟨‹_›, trivial⟩, rfl⟩
  · exact nofun
  · rintro ⟨⟩
    exact ⟨trivial, ‹_›, rfl⟩
  · exact nofun
  · rename_i next empty
    rintro ⟨⟩
    exact ⟨trivial, ⟨next.ge, rfl, next.symm⟩, rfl⟩
  · rename_i next cached
    rintro ⟨⟩
    exact ⟨trivial, ⟨next.symm, rfl, sound.consumed.cached _ (by omega)⟩, rfl⟩
  · exact nofun
  · rintro ⟨⟩
    exact ⟨sound.consumed.frontier _ ‹_›, trivial, rfl⟩
  · exact nofun
  · rintro ⟨⟩
    exact ⟨‹_›, trivial, rfl⟩
  · exact nofun
  · rintro ⟨⟩
    exact ⟨‹_›, trivial, rfl⟩
  · exact nofun

theorem receive_allowed {frame after : Consumer} {givesUp : Bool} (sound : Sound config s)
    (holds : frame.Holds s) (moved : receive config s givesUp frame = some (effect, after)) :
    Allowed config s effect ∧ after.Holds (s.apply config effect) ∧ effect.thread = none := by
  revert moved
  fun_cases receive config s givesUp frame
  · exact nofun
  · intro resumed
    obtain ⟨next, waits⟩ := holds
    refine Caller.resume_allowed waits ?_ (Option.some.inj resumed)
    intro other below
    exact sound.consumed.read other (by omega)
  · rintro ⟨⟩
    exact ⟨trivial, holds, rfl⟩
  · rintro ⟨⟩
    obtain ⟨next, waits⟩ := holds
    refine ⟨trivial, ⟨?_, waits⟩, rfl⟩
    intro other below
    exact sound.consumed.read other (by omega)
  · rintro ⟨⟩
    have next : _ ≤ s.nextRead := holds
    refine ⟨trivial, ⟨?_, trivial⟩, rfl⟩
    intro other below
    exact sound.consumed.read other (by omega)
  · intro resumed
    obtain ⟨earlier, waits⟩ := holds
    refine Caller.resume_allowed waits ?_ (Option.some.inj resumed)
    intro other below
    exact earlier other (by omega)
  · rename_i sequence claimed caller inside generation
    rintro ⟨⟩
    obtain ⟨earlier, waits⟩ := holds
    refine ⟨trivial, ⟨?_, waits⟩, rfl⟩
    intro other below
    by_cases last : other = sequence
    · rw [last]
      exact sound.published_of_generation earlier (not_not.mp generation)
    · exact earlier other (by omega)
  · intro resumed
    obtain ⟨earlier, waits⟩ := holds
    refine Caller.resume_allowed waits ?_ (Option.some.inj resumed)
    intro other below
    exact earlier other (by omega)
  · rename_i sequence
    rintro ⟨⟩
    obtain ⟨next, position, published⟩ := holds
    rw [next] at published
    refine ⟨published, ?_, rfl⟩
    change sequence + 1 = s.nextRead + 1 ∧ s.consumed ≤ sequence
    omega
  · rintro ⟨⟩
    obtain ⟨next, forward⟩ := holds
    exact ⟨⟨forward, by omega⟩, trivial, rfl⟩

end Moves

section Run

variable {α : Type} {config : Config} {s : State α}

/-- The invariant does not read the program points. -/
theorem Sound.frames (sound : Sound config s) (producers : Nat → Producer α)
    (consumer : Consumer) : Sound config { s with producers, consumer } := by
  obtain ⟨sequencer, staged, consumed, content⟩ := sound
  exact ⟨sequencer, { staged with }, { consumed with }, content⟩

theorem State.apply_producers (s : State α) (effect : Effect α) :
    (s.apply config effect).producers = s.producers := by
  cases effect <;> rfl

theorem State.apply_consumer (s : State α) (effect : Effect α) :
    (s.apply config effect).consumer = s.consumer := by
  cases effect <;> rfl

section

variable {effect : Effect α} (invariant : Invariant config s) (allowed : Allowed config s effect)

include invariant allowed

theorem Invariant.produces {thread : Nat} {after : Producer α}
    (holds : after.Holds config (s.apply config effect) thread) (mine : effect.By thread) :
    Invariant config (s.produces config thread (effect, after)) := by
  have sound := invariant.sound.apply effect allowed
  obtain ⟨consumed, next⟩ := Effect.By.positions mine
  refine ⟨sound.frames _ _, ?_, ?_⟩
  · intro other
    change (update s.producers thread after other).Holds config (s.apply config effect) other
    rw [update_apply]
    split_ifs with same
    · exact same ▸ holds
    · exact (invariant.producers other).other invariant.sound allowed (mine.thread_ne same)
  · change (s.apply config effect).consumer.Holds (s.apply config effect)
    rw [State.apply_consumer]
    exact invariant.consumer.other invariant.sound allowed consumed next

theorem Invariant.consumes {after : Consumer} (holds : after.Holds (s.apply config effect))
    (nobody : effect.thread = none) :
    Invariant config (s.consumes config (effect, after)) := by
  have sound := invariant.sound.apply effect allowed
  refine ⟨sound.frames _ _, ?_, holds⟩
  intro other
  change ((s.apply config effect).producers other).Holds config (s.apply config effect) other
  rw [State.apply_producers]
  exact (invariant.producers other).other invariant.sound allowed (by rw [nobody]; exact nofun)

end

/-- A step as a move of a producer or of the consumer. -/
inductive Stepped (config : Config) (s : State α) : State α → Prop
  | produced (thread : Nat) (effect : Effect α) (after : Producer α)
      (allowed : Allowed config s effect)
      (holds : after.Holds config (s.apply config effect) thread) (mine : effect.By thread) :
      Stepped config s (s.produces config thread (effect, after))
  | consumed (effect : Effect α) (after : Consumer) (allowed : Allowed config s effect)
      (holds : after.Holds (s.apply config effect)) (nobody : effect.thread = none) :
      Stepped config s (s.consumes config (effect, after))

theorem Invariant.stepped {s' : State α} {action : Action α} (invariant : Invariant config s)
    (moved : step config s action = some s') : Stepped config s s' := by
  revert moved
  fun_cases Disruptor.step config s action
  · intro moved
    obtain ⟨⟨effect, after⟩, began, rfl⟩ := Option.map_eq_some_iff.mp moved
    obtain ⟨allowed, holds, mine⟩ := begin_allowed began
    exact .produced _ effect after allowed holds mine
  · exact nofun
  · exact nofun
  · rename_i thread spurious known
    intro moved
    obtain ⟨⟨effect, after⟩, produced, rfl⟩ := Option.map_eq_some_iff.mp moved
    obtain ⟨allowed, holds, mine⟩ := produce_allowed (invariant.producers thread) produced
    exact .produced _ effect after allowed holds mine
  · exact nofun
  · intro moved
    obtain ⟨⟨effect, after⟩, requested, rfl⟩ := Option.map_eq_some_iff.mp moved
    obtain ⟨allowed, holds, nobody⟩ := request_allowed invariant.sound requested
    exact .consumed effect after allowed holds nobody
  · exact nofun
  · intro moved
    obtain ⟨⟨effect, after⟩, received, rfl⟩ := Option.map_eq_some_iff.mp moved
    obtain ⟨allowed, holds, nobody⟩ := receive_allowed invariant.sound invariant.consumer received
    exact .consumed effect after allowed holds nobody

theorem Invariant.step {s' : State α} (invariant : Invariant config s)
    (stepped : Stepped config s s') : Invariant config s' := by
  cases stepped with
  | produced thread effect after allowed holds mine => exact invariant.produces allowed holds mine
  | consumed effect after allowed holds nobody => exact invariant.consumes allowed holds nobody

theorem reachable_invariant (reached : (system config α).Reachable s) : Invariant config s := by
  refine reached.invariant ?_ ?_
  · rintro _ ⟨producerCount, rfl⟩
    exact ⟨Sound.initial config producerCount, fun _ => trivial, trivial⟩
  · intro s action s' _ invariant _ stepped
    exact invariant.step (invariant.stepped stepped)

/-- The producer and the sequence whose slot is written. -/
def Action.writes (s : State α) : Action α → Option (Nat × Int)
  | .begin thread (.write sequence _) => some (thread, sequence)
  | .produce thread _ =>
    match s.producers thread with
    | .destroySlot sequence _ | .constructSlot sequence _ _ => some (thread, sequence)
    | _ => none
  | _ => none

/-- The step of a producer. -/
def Action.produces : Action α → Bool
  | .begin _ _ | .produce _ _ => true
  | .request _ | .receive _ => false

theorem Sound.claim_of (sound : Sound config s) {sequence : Int} {thread : Nat}
    (own : (s.stage sequence).claimant = some thread) :
    ∃ claim ∈ s.claims, claim.thread = thread ∧ sequence ∈ claim.sequences := by
  have claimed : 0 ≤ sequence ∧ sequence ≤ s.claimed := sound.inside (by rw [own]; exact nofun)
  have listed : sequence ∈ s.claims.flatMap Claim.sequences := by
    rw [sound.staged.tiled]
    refine mem_map.mpr ⟨sequence.toNat, mem_range.mpr (by omega), ?_⟩
    omega
  obtain ⟨claim, member, inside⟩ := mem_flatMap.mp listed
  have owner := sound.staged.claimant claim member sequence inside
  rw [own] at owner
  exact ⟨claim, member, (Option.some.inj owner).symm, inside⟩

/-- A slot is written by the producer of its sequence, once the previous occupant is consumed. -/
theorem Invariant.writes {s' : State α} {action : Action α} (invariant : Invariant config s)
    (stepped : Disruptor.step config s action = some s') {thread : Nat} {sequence : Int}
    (writes : action.writes s = some (thread, sequence)) :
    (s.stage sequence).claimant = some thread ∧ sequence - config.capacity ≤ s.consumed := by
  have admitted : ∀ stage, s.stage sequence = stage → stage.claimant = some thread →
      stage.admitted = true →
      (s.stage sequence).claimant = some thread ∧ sequence - config.capacity ≤ s.consumed := by
    intro stage now own past
    have room := invariant.sound.room (by rw [now, past])
    exact ⟨by rw [now, own], room⟩
  revert writes
  fun_cases Action.writes s action
  · rintro ⟨⟩
    simp only [Disruptor.step, begin] at stepped
    split at stepped
    · split_ifs at stepped with known stage
      · rcases stage with granted | written
        · exact admitted _ granted rfl rfl
        · exact admitted _ written rfl rfl
      · cases stepped
    · cases stepped
  · rename_i frame
    rintro ⟨⟩
    have holds := invariant.producers thread
    rw [frame] at holds
    exact admitted _ holds rfl rfl
  · rename_i frame
    rintro ⟨⟩
    have holds := invariant.producers thread
    rw [frame] at holds
    exact admitted _ holds rfl rfl
  · exact nofun
  · exact nofun

theorem step_buffer {s' : State α} {action : Action α}
    (stepped : Disruptor.step config s action = some s') (produces : action.produces = true)
    (silent : action.writes s = none) : s'.buffer = s.buffer := by
  revert stepped
  fun_cases Disruptor.step config s action
  · rename_i thread operation outside known
    intro stepped
    obtain ⟨⟨effect, after⟩, began, rfl⟩ := Option.map_eq_some_iff.mp stepped
    revert began
    fun_cases begin s thread operation
    all_goals rintro ⟨⟩
    all_goals first
      | rfl
      | cases silent
  · exact nofun
  · exact nofun
  · rename_i thread spurious known
    intro stepped
    obtain ⟨⟨effect, after⟩, moved, rfl⟩ := Option.map_eq_some_iff.mp stepped
    simp only [Action.writes] at silent
    revert moved silent
    generalize s.producers thread = frame
    fun_cases produce config s thread spurious frame
    all_goals rintro silent ⟨⟩
    all_goals first
      | rfl
      | cases silent
  · exact nofun
  · cases produces
  · cases produces
  · cases produces

/-- The claims follow each other without gap or overlap; a producer writes only slots of its claims
whose previous occupant has been consumed; and the consumer reads `0, 1, 2, …`, for each the value
that its claimant has written. -/
theorem disruptor_delivers (reached : (system config α).Reachable s) :
    s.claims.flatMap Claim.sequences =
      (range (s.claimed + 1).toNat).map (fun (sequence : Nat) => (sequence : Int)) ∧
    (s.claims.flatMap Claim.sequences).Nodup ∧
    (∀ action s', Disruptor.step config s action = some s' → ∀ thread sequence,
      action.writes s = some (thread, sequence) →
      (∃ claim ∈ s.claims, claim.thread = thread ∧ sequence ∈ claim.sequences) ∧
        sequence - config.capacity ≤ s.consumed) ∧
    (∀ action s', Disruptor.step config s action = some s' → action.produces = true →
      action.writes s = none → s'.buffer = s.buffer) ∧
    s.reads.map Prod.fst =
      (range s.reads.length).map (fun (sequence : Nat) => (sequence : Int)) ∧
    (∀ sequence content, (sequence, content) ∈ s.reads →
      ∃ claim ∈ s.claims, sequence ∈ claim.sequences ∧ ∃ value, content = some value ∧
        s.written sequence = some (claim.thread, value)) := by
  have invariant := reachable_invariant reached
  have ⟨_, staged, consumed, _⟩ := invariant.sound
  refine ⟨staged.tiled, ?_, ?_, ?_, ?_, ?_⟩
  · rw [staged.tiled]
    refine Nodup.map ?_ nodup_range
    intro left right same
    exact Int.ofNat.inj same
  · intro action s' stepped thread sequence writes
    obtain ⟨own, room⟩ := invariant.writes stepped writes
    exact ⟨invariant.sound.claim_of own, room⟩
  · intro action s' stepped produces silent
    exact step_buffer stepped produces silent
  · rw [consumed.order.length]
    exact consumed.order
  · intro sequence content read
    obtain ⟨thread, value, same, written⟩ := consumed.values sequence content read
    have author := staged.author sequence thread value written
    obtain ⟨claim, member, owner, inside⟩ := invariant.sound.claim_of author
    refine ⟨claim, member, inside, value, same, ?_⟩
    rw [owner]
    exact written

/-- The disruptor refines the sequencer: every reachable state shows a reachable state of it. -/
theorem reachable_ledger (reached : (system config α).Reachable s) :
    (Ledger.system config).Reachable s.ledger := by
  have run := @Transition.System.ReachableBy.invariant _ _ (system config α) _
    (fun state => (Ledger.system config).Reachable state.ledger) s reached
  refine run ?_ fun state action next before holds _ stepped => ?_
  · rintro _ ⟨count, rfl⟩
    exact ⟨_, rfl, .refl⟩
  · have invariant := reachable_invariant before
    cases invariant.stepped stepped with
    | produced thread effect after allowed | consumed effect after allowed =>
      exact holds.leads (allowed.ledger invariant.sound.consumed.read)

end Run

/-- The second of two claims is published first. -/
def secondFirst : List (Action Nat) :=
  [.begin 0 .next, .begin 1 (.emplace 8)] ++ .replicate 6 (.produce 1 false) ++ [.produce 0 false]

set_option maxRecDepth 8000 in
/-- Two producers publish out of order; the consumer reads in order. -/
theorem disruptor_delivers_out_of_order : ∃ s : State Nat, (system twoSlots Nat).Reachable s ∧
    s.claims = [⟨0, 0, 1⟩, ⟨1, 1, 1⟩] ∧ s.reads = [(0, some 7), (1, some 8)] ∧
    ∃ claim ∈ s.claims, (1 : Int) ∈ claim.sequences ∧ ∃ value, some 8 = some value ∧
      s.written 1 = some (claim.thread, value) := by
  refine (system twoSlots Nat).exists_reachable ⟨2, rfl⟩
    (secondFirst ++ [.begin 0 (.write 0 7), .produce 0 false, .begin 0 (.publish 0)] ++
      .replicate 3 (.produce 0 false) ++ [.request (.getPublishedSequence 0)] ++
      .replicate 4 (.receive false) ++
      [.request (.read false), .request (.consume 0), .request .pull] ++
      .replicate 5 (.receive false)) ⟨_, rfl, fun reached => ?_⟩
  obtain ⟨-, -, -, -, -, values⟩ := disruptor_delivers reached
  exact ⟨rfl, rfl, values 1 (some 8) (.tail _ (.head _))⟩

/-- The second sequence is published while the first is not written yet. -/
theorem reachable_ledger_two_slots : ∃ s : State Nat, (system twoSlots Nat).Reachable s ∧
    s.ledger.stage 0 = .granted 0 ∧ s.ledger.stage 1 = .published 1 ∧
    (Ledger.system twoSlots).Reachable s.ledger := by
  exact (system twoSlots Nat).exists_reachable ⟨2, rfl⟩
    secondFirst ⟨_, rfl, fun reached => ⟨rfl, rfl, reachable_ledger reached⟩⟩

end Menagerie.Starling.Disruptor
