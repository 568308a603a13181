import Menagerie.Starling.Disruptor.Ledger
import Menagerie.Starling.Disruptor.MultiProducer
import Mathlib.Data.List.Range

/-!
# The claim, write, publish, read, consume protocol

What one effect may rely on (`Allowed`) and what all effects keep: cursors and generations are those
of a sequencer, claims tile the sequences, a slot is written only when its previous occupant has
been consumed, and a published value stays until it has been read.
-/

namespace Menagerie.Starling.Disruptor

open Function List

/-- The slot of the sequence has been written. -/
def Stage.filled : Stage → Bool
  | .written _ | .published _ => true
  | .free | .waiting _ | .granted _ | .blank _ => false

/-- Without what the producer does with the slot. -/
def Stage.outline : Stage → Stage
  | .blank thread | .written thread => .granted thread
  | .free => .free
  | .waiting thread => .waiting thread
  | .granted thread => .granted thread
  | .published thread => .published thread

section Protocol

variable {α : Type} (config : Config) (s : State α)

/-- Published, or before the first sequence. -/
def State.Published (sequence : Int) : Prop :=
  sequence < 0 ∨ ∃ thread, s.stage sequence = .published thread

/-- The sequencer of a disruptor. -/
def State.ledger : Ledger where
  claimed := s.claimed
  consumed := s.consumed
  generations := s.generations
  stage sequence := (s.stage sequence).outline

/-- What an effect relies on. -/
def Allowed : Effect α → Prop
  | .skip => True
  | .claim _ count granted => granted = true → s.claimed + count - config.capacity ≤ s.consumed
  | .grant thread first count => first + count - 1 - config.capacity ≤ s.consumed ∧
      ∀ sequence, first ≤ sequence → sequence < first + count →
        s.stage sequence = .waiting thread
  | .blank thread sequence =>
    s.stage sequence = .granted thread ∨ s.stage sequence = .written thread
  | .write thread sequence _ => s.stage sequence = .blank thread
  | .publish thread sequence => s.stage sequence = .written thread
  | .learn frontier | .cache frontier => ∀ sequence ≤ frontier, s.Published sequence
  | .read _ => s.Published s.nextRead
  | .consume sequence => s.consumed ≤ sequence ∧ sequence < s.nextRead

/-- Claims tile the sequences and every producer keeps to its own. -/
structure Staged : Prop where
  tiled : s.claims.flatMap Claim.sequences =
    (range (s.claimed + 1).toNat).map (fun (sequence : Nat) => (sequence : Int))
  claimant : ∀ claim ∈ s.claims, ∀ sequence ∈ claim.sequences,
    (s.stage sequence).claimant = some claim.thread
  author : ∀ sequence thread value, s.written sequence = some (thread, value) →
    (s.stage sequence).claimant = some thread

/-- The consumer reads and consumes published sequences in order. -/
structure Consumed : Prop where
  behind : s.consumed < s.nextRead
  read : ∀ sequence < s.nextRead, s.Published sequence
  cached : ∀ sequence ≤ s.cachedPublished, s.Published sequence
  frontier : ∀ sequence ≤ s.frontier, s.Published sequence
  order : InOrder s.reads s.nextRead
  values : ∀ sequence content, (sequence, content) ∈ s.reads →
    ∃ thread value, content = some value ∧ s.written sequence = some (thread, value)

/-- The invariant of the protocol. -/
structure Sound : Prop where
  sequencer : Ledger.Sound config s.ledger
  staged : Staged s
  consumed : Consumed s
  content : ∀ sequence, s.nextRead ≤ sequence → (s.stage sequence).filled = true →
    ∃ thread value, s.buffer (config.slotIndex sequence) = some value ∧
      s.written sequence = some (thread, value)

end Protocol

section Refinement

variable {α : Type} {config : Config} {s : State α}

theorem State.ledger_published {sequence : Int} :
    s.ledger.Published sequence ↔ s.Published sequence := by
  change (sequence < 0 ∨ ∃ thread, (s.stage sequence).outline = .published thread) ↔
    (sequence < 0 ∨ ∃ thread, s.stage sequence = .published thread)
  cases s.stage sequence <;> simp [Stage.outline]

theorem State.ledger_setStages (first : Int) (count : Nat) (stage : Stage) :
    (s.setStages first count stage).ledger = s.ledger.setStages first count stage.outline := by
  unfold State.ledger State.setStages Ledger.setStages
  congr 1
  funext sequence
  dsimp only
  split <;> rfl

theorem State.ledger_slot {sequence : Int} {stage : Stage}
    (same : stage.outline = (s.stage sequence).outline) :
    (s.setStages sequence 1 stage).ledger = s.ledger := by
  rw [ledger_setStages]
  unfold Ledger.setStages
  rw [same]
  congr 1
  funext other
  split
  · have here : other = sequence := by omega
    rw [here]
  · rfl

theorem Ledger.setStages_twice (s : Ledger) (first : Int) (count : Nat) (old new : Stage) :
    (s.setStages first count old).setStages first count new = s.setStages first count new := by
  unfold setStages
  congr 1
  funext sequence
  dsimp only
  split <;> rfl

theorem Ledger.leads_of_step {first second : Ledger} (event : Event)
    (stepped : Ledger.step config first event = some second) :
    (Ledger.system config).Leads (fun _ _ => True) first second :=
  .tail .refl trivial (show (Ledger.system config).step first event = some second from stepped)

/-- Every effect of the disruptor is a run of its sequencer. -/
theorem Allowed.ledger {effect : Effect α} (read : ∀ sequence < s.nextRead, s.Published sequence)
    (allowed : Allowed config s effect) :
    (Ledger.system config).Leads (fun _ _ => True) s.ledger (s.apply config effect).ledger := by
  cases effect with
  | skip | learn | cache | read => exact .refl
  | claim thread count granted =>
    have stages := congrArg Ledger.stage (s.ledger_setStages (s.claimed + 1) count
      (if granted then .granted thread else .waiting thread))
    have same : (s.apply config (.claim thread count granted)).ledger =
        { s.ledger.setStages (s.claimed + 1) count
            (if granted then Stage.granted thread else .waiting thread).outline with
          claimed := s.claimed + count } := congrArg (Ledger.mk _ _ _) stages
    rw [same]
    cases granted with
    | false => exact Ledger.leads_of_step (.claim thread count) rfl
    | true =>
      have room := allowed rfl
      have bound : ¬ s.claimed + 1 + count - 1 - config.capacity > s.consumed := by omega
      refine .trans (Ledger.leads_of_step (.claim thread count) rfl)
        (Ledger.leads_of_step (.grant thread (s.claimed + 1) count) ?_)
      refine (if_neg bound).trans ((if_pos ?_).trans ?_)
      · intro offset below
        exact @Ledger.setStages_inside s.ledger count _ (s.claimed + 1) (.waiting thread) (by omega)
          (by omega)
      · exact congrArg (fun ledger : Ledger => some { ledger with claimed := s.claimed + count })
          (s.ledger.setStages_twice (s.claimed + 1) count (.waiting thread) (.granted thread))
  | grant thread first count =>
    have same : (s.apply config (.grant thread first count)).ledger =
        s.ledger.setStages first count (.granted thread) := s.ledger_setStages first count _
    rw [same]
    refine Ledger.leads_of_step (.grant thread first count) ?_
    have waiting : ∀ offset < count, s.ledger.stage (first + offset) = .waiting thread := by
      intro offset below
      have stage := allowed.2 (first + offset) (by omega) (by omega)
      change (s.stage (first + offset)).outline = _
      rw [stage]
      rfl
    have room : ¬ first + count - 1 - config.capacity > s.ledger.consumed :=
      Int.not_lt.mpr allowed.1
    rw [Ledger.step, if_neg room, if_pos waiting]
  | blank thread sequence =>
    have same : (s.apply config (.blank thread sequence)).ledger =
        (s.setStages sequence 1 (.blank thread)).ledger := rfl
    rw [same, State.ledger_slot]
    · exact .refl
    · rcases allowed with granted | written
      · rw [granted]
        rfl
      · rw [written]
        rfl
  | write thread sequence value =>
    have same : (s.apply config (.write thread sequence value)).ledger =
        (s.setStages sequence 1 (.written thread)).ledger := rfl
    have blank : s.stage sequence = .blank thread := allowed
    rw [same, State.ledger_slot (by rw [blank]; rfl)]
    exact .refl
  | publish thread sequence =>
    have written : s.stage sequence = .written thread := allowed
    have granted : s.ledger.stage sequence = .granted thread := by
      change (s.stage sequence).outline = _
      rw [written]
      rfl
    have stages := congrArg Ledger.stage (s.ledger_setStages sequence 1 (.published thread))
    have same : (s.apply config (.publish thread sequence)).ledger =
        Ledger.publishes config s.ledger thread sequence :=
      congrArg (Ledger.mk _ _ _) stages
    rw [same]
    refine Ledger.leads_of_step (.publishSlot thread sequence) ?_
    rw [Ledger.step, if_pos granted]
    rfl
  | consume sequence =>
    have behind := allowed.2
    have published : ∀ offset < (sequence - s.ledger.consumed).toNat,
        s.ledger.isPublished (s.ledger.consumed + 1 + offset) = true := by
      intro offset below
      have inside : offset < (sequence - s.consumed).toNat := below
      rw [Ledger.isPublished_iff]
      exact State.ledger_published.mpr (read (s.consumed + 1 + offset) (by omega))
    refine Ledger.leads_of_step (.consume sequence) ?_
    rw [Ledger.step, if_pos ⟨allowed.1, published⟩]
    rfl

end Refinement

section Stages

variable {α : Type} {config : Config} {s : State α} {sequence other : Int}

theorem Stage.admitted_outline (stage : Stage) : stage.outline.admitted = stage.admitted := by
  cases stage <;> rfl

theorem Stage.eq_free {stage : Stage} (free : stage.outline = .free) : stage = .free := by
  cases stage <;> first | rfl | cases free

theorem Stage.admitted_of_filled {stage : Stage} (filled : stage.filled = true) :
    stage.admitted = true := by
  cases stage <;> first | rfl | cases filled

theorem State.setStages_one (s : State α) (sequence : Int) (stage : Stage) :
    (s.setStages sequence 1 stage).stage = update s.stage sequence stage := by
  funext other
  rw [update_apply]
  change (if _ then _ else _) = _
  by_cases same : other = sequence
  · rw [if_pos same, if_pos (by omega)]
  · rw [if_neg same, if_neg (by omega)]

theorem State.Published.stage (published : s.Published sequence) (claimed : 0 ≤ sequence) :
    ∃ thread, s.stage sequence = .published thread := by
  rcases published with early | published
  · omega
  · exact published

section

variable (sound : Sound config s)

include sound

/-- What an effect makes of the sequencer is again sound. -/
theorem Sound.sequenced {effect : Effect α} (allowed : Allowed config s effect) :
    Ledger.Sound config (s.apply config effect).ledger :=
  (allowed.ledger sound.consumed.read).preserves sound.sequencer
    fun _ _ _ before _ stepped => before.step stepped

theorem Sound.room (admitted : (s.stage sequence).admitted = true) :
    sequence - config.capacity ≤ s.consumed :=
  sound.sequencer.room sequence ((Stage.admitted_outline _).trans admitted)

theorem Sound.inside (own : (s.stage sequence).claimant ≠ none) :
    0 ≤ sequence ∧ sequence ≤ s.claimed := by
  by_contra outside
  have free : s.stage sequence = .free :=
    Stage.eq_free (sound.sequencer.free sequence (by change _ ∨ s.claimed < _; omega))
  rw [free] at own
  exact own rfl

/-- Of two sequences in one slot, both past their claims, the later one knows that the earlier is
consumed. -/
theorem Sound.consumed_of_slot (admitted : (s.stage sequence).admitted = true)
    (same : config.slotIndex other = config.slotIndex sequence) (earlier : other < sequence) :
    other ≤ s.consumed := by
  have room := sound.room admitted
  have apart := config.apart_of_slotIndex same (by omega)
  have positive := config.capacity_pos
  omega

theorem Sound.slot_apart (admitted : (s.stage sequence).admitted = true)
    (unpublished : ¬ s.Published sequence) (unread : s.nextRead ≤ other)
    (filled : (s.stage other).filled = true) (differs : other ≠ sequence) :
    config.slotIndex other ≠ config.slotIndex sequence := by
  intro same
  have behind := sound.consumed.behind
  rcases Int.lt_or_lt_of_ne differs with earlier | later
  · have consumed := sound.consumed_of_slot admitted same earlier
    omega
  · have consumed := sound.consumed_of_slot (Stage.admitted_of_filled filled) same.symm later
    exact unpublished (sound.consumed.read sequence (by omega))

end

end Stages

section Keep

variable {α : Type} {s : State α} {claimed : Int} {generations : Nat → BitVec 32}
  {buffer : Nat → Option α} {stage : Int → Stage} {claims : List Claim}
  {written : Int → Option (Nat × α)}

theorem State.published_setStages {first : Int} {count : Nat} {stage : Stage}
    (old : ∀ other, first ≤ other → other < first + count → ∀ thread,
      s.stage other ≠ .published thread)
    (new : ∀ thread, stage ≠ .published thread) (sequence : Int) :
    (s.setStages first count stage).Published sequence ↔ s.Published sequence := by
  unfold State.Published State.setStages
  dsimp only
  split
  · rename_i inside
    simp [old sequence inside.1 inside.2, new]
  · rfl

theorem State.published_slot {sequence : Int}
    (old : ∀ thread, s.stage sequence ≠ .published thread) (stage : Stage)
    (new : ∀ thread, stage ≠ .published thread) (other : Int) :
    (s.setStages sequence 1 stage).Published other ↔ s.Published other := by
  refine s.published_setStages (fun other above below => ?_) new other
  obtain rfl : other = sequence := by omega
  exact old

theorem Staged.advance (staged : Staged s)
    (claimants : ∀ sequence, (stage sequence).claimant = (s.stage sequence).claimant)
    (author : ∀ sequence thread value, written sequence = some (thread, value) →
      s.written sequence = some (thread, value) ∨ (s.stage sequence).claimant = some thread) :
    Staged { s with generations, buffer, stage, written } where
  tiled := staged.tiled
  claimant claim member sequence inside := by
    rw [claimants]
    exact staged.claimant claim member sequence inside
  author sequence thread value written := by
    rw [claimants]
    exact (author sequence thread value written).elim (staged.author sequence thread value) id

/-- A step of a producer shows the consumer at most one more publication. -/
theorem Consumed.keep (consumed : Consumed s)
    (published : ∀ sequence, s.Published sequence → State.Published
      { s with claimed, generations, buffer, stage, claims, written } sequence)
    (same : ∀ sequence, s.Published sequence → 0 ≤ sequence →
      written sequence = s.written sequence) :
    Consumed { s with claimed, generations, buffer, stage, claims, written } where
  behind := consumed.behind
  read sequence below := published sequence (consumed.read sequence below)
  cached sequence below := published sequence (consumed.cached sequence below)
  frontier sequence below := published sequence (consumed.frontier sequence below)
  order := consumed.order
  values sequence content read := by
    obtain ⟨start, below⟩ := consumed.order.range read
    dsimp only
    rw [same sequence (consumed.read sequence below) start]
    exact consumed.values sequence content read

end Keep

section Claims

variable {α : Type} {config : Config} {s : State α} {thread count : Nat} {granted : Bool}

theorem State.claim_stage (s : State α) (sequence : Int) :
    (s.apply config (.claim thread count granted)).stage sequence =
      if s.claimed + 1 ≤ sequence ∧ sequence < s.claimed + 1 + count then
        (if granted then .granted thread else .waiting thread)
      else s.stage sequence := rfl

theorem Sound.claim_old (sound : Sound config s) {sequence : Int}
    (old : (s.stage sequence).claimant ≠ none) :
    (s.apply config (.claim thread count granted)).stage sequence = s.stage sequence := by
  have inside := sound.inside old
  rw [State.claim_stage, if_neg (by omega)]

theorem State.claim_new (s : State α) {sequence : Int} (above : s.claimed + 1 ≤ sequence)
    (below : sequence < s.claimed + 1 + count) :
    ((s.apply config (.claim thread count granted)).stage sequence).claimant = some thread := by
  rw [State.claim_stage, if_pos ⟨above, below⟩]
  cases granted <;> rfl

theorem Sound.claim_staged (sound : Sound config s) :
    Staged (s.apply config (.claim thread count granted)) where
  tiled := by
    have start : -1 ≤ s.claimed := sound.sequencer.start.1
    change (s.claims ++ [_]).flatMap Claim.sequences =
      (range (s.claimed + count + 1).toNat).map _
    have split : (s.claimed + count + 1).toNat = (s.claimed + 1).toNat + count := by omega
    have lifted : ((s.claimed + 1).toNat : Int) = s.claimed + 1 := by omega
    rw [flatMap_append, sound.staged.tiled, split, range_add, map_append]
    simp [Claim.sequences, comp_def, lifted]
  claimant claim member sequence inside := by
    rcases mem_append.mp member with old | new
    · have before := sound.staged.claimant claim old sequence inside
      rw [sound.claim_old (by rw [before]; exact nofun)]
      exact before
    · rw [mem_singleton.mp new] at inside ⊢
      obtain ⟨offset, below, rfl⟩ := mem_map.mp inside
      have bound : offset < count := mem_range.mp below
      exact State.claim_new s (by simp) (by simp only; omega)
  author sequence other value written := by
    have before := sound.staged.author sequence other value written
    rw [sound.claim_old (by rw [before]; exact nofun)]
    exact before

theorem Sound.claim (sound : Sound config s)
    (allowed : Allowed config s (.claim thread count granted)) :
    Sound config (s.apply config (.claim thread count granted)) where
  sequencer := sound.sequenced allowed
  staged := sound.claim_staged
  consumed := by
    refine sound.consumed.keep (fun sequence => (State.published_setStages ?_ ?_ sequence).mpr)
      (fun _ _ _ => rfl)
    · intro other above below author published
      have inside : 0 ≤ other ∧ other ≤ s.claimed :=
        sound.inside (by rw [published]; exact nofun)
      omega
    · cases granted <;> exact fun _ => nofun
  content sequence unread filled := by
    refine sound.content sequence unread ?_
    rw [State.claim_stage] at filled
    split at filled
    · cases granted <;> cases filled
    · exact filled

end Claims

section Producers

variable {α : Type} {config : Config} {s : State α} {thread : Nat} {sequence : Int}

theorem State.grant_stage (s : State α) (first : Int) (count : Nat) (sequence : Int) :
    (s.apply config (.grant thread first count)).stage sequence =
      if first ≤ sequence ∧ sequence < first + count then .granted thread
      else s.stage sequence := rfl

theorem Sound.grant (sound : Sound config s) {first : Int} {count : Nat}
    (allowed : Allowed config s (.grant thread first count)) :
    Sound config (s.apply config (.grant thread first count)) := by
  have waiting := allowed.2
  refine ⟨sound.sequenced allowed, sound.staged.advance ?_ (fun _ _ _ written => .inl written),
    sound.consumed.keep (fun sequence => (State.published_setStages ?_ ?_ sequence).mpr)
      (fun _ _ _ => rfl), ?_⟩
  · intro sequence
    split
    · rename_i inside
      rw [waiting sequence inside.1 inside.2]
      rfl
    · rfl
  · intro other above below author
    rw [waiting other above below]
    exact nofun
  · exact fun _ => nofun
  · intro sequence unread filled
    refine sound.content sequence unread ?_
    rw [State.grant_stage] at filled
    split at filled
    · cases filled
    · exact filled

theorem Staged.advance_one {generations : Nat → BitVec 32} {buffer : Nat → Option α}
    {stage : Int → Stage} {written : Int → Option (Nat × α)} {later : Stage}
    (staged : Staged s) (stages : stage = update s.stage sequence later)
    (own : (s.stage sequence).claimant = later.claimant)
    (author : ∀ other thread value, written other = some (thread, value) →
      s.written other = some (thread, value) ∨ (s.stage other).claimant = some thread) :
    Staged { s with generations, buffer, stage, written } := by
  refine staged.advance ?_ author
  intro other
  rw [stages, update_apply]
  split
  · rename_i same
    rw [same, own]
  · rfl

section

variable (sound : Sound config s)

include sound

theorem Sound.unpublished (own : (s.stage sequence).claimant ≠ none)
    (early : ∀ other, s.stage sequence ≠ .published other) : ¬ s.Published sequence := by
  rintro (negative | ⟨other, published⟩)
  · have inside := sound.inside own
    omega
  · exact early other published

theorem Sound.content_update {content : Option α} {other : Int}
    (admitted : (s.stage sequence).admitted = true) (early : ¬ s.Published sequence)
    (unread : s.nextRead ≤ other) (filled : (s.stage other).filled = true)
    (differs : other ≠ sequence) :
    ∃ thread value, update s.buffer (config.slotIndex sequence) content
      (config.slotIndex other) = some value ∧ s.written other = some (thread, value) := by
  have apart := sound.slot_apart admitted early unread filled differs
  rw [update_of_ne apart]
  exact sound.content other unread filled

/-- A write starts: the slot of the sequence holds no value. -/
theorem Sound.blank
    (allowed : Allowed config s (.blank thread sequence)) :
    Sound config (s.apply config (.blank thread sequence)) := by
  have own : (s.stage sequence).claimant = some thread ∧ (s.stage sequence).admitted = true ∧
      ∀ other, s.stage sequence ≠ .published other := by
    rcases allowed with granted | written
    · simp [granted, Stage.claimant, Stage.admitted]
    · simp [written, Stage.claimant, Stage.admitted]
  obtain ⟨claimant, admitted, pending⟩ := own
  have early := sound.unpublished (by rw [claimant]; exact nofun) pending
  have stages : (s.apply config (.blank thread sequence)).stage =
      update s.stage sequence (.blank thread) := s.setStages_one sequence _
  have published := State.published_slot pending (.blank thread) (fun _ => nofun)
  refine ⟨sound.sequenced allowed,
    sound.staged.advance_one stages claimant (fun _ _ _ written => .inl written),
    sound.consumed.keep (fun other => (published other).mpr) (fun _ _ _ => rfl), ?_⟩
  intro other unread filled
  rw [stages, update_apply] at filled
  split at filled
  · cases filled
  · rename_i differs
    exact sound.content_update admitted early unread filled differs

theorem Sound.write {value : α}
    (allowed : Allowed config s (.write thread sequence value)) :
    Sound config (s.apply config (.write thread sequence value)) := by
  have blank : s.stage sequence = .blank thread := allowed
  have claimant : (s.stage sequence).claimant = some thread := by
    rw [blank]
    rfl
  have admitted : (s.stage sequence).admitted = true := by
    rw [blank]
    rfl
  have pending : ∀ other, s.stage sequence ≠ .published other := by
    rw [blank]
    exact fun _ => nofun
  have early := sound.unpublished (by rw [claimant]; exact nofun) pending
  have stages : (s.apply config (.write thread sequence value)).stage =
      update s.stage sequence (.written thread) := s.setStages_one sequence _
  have published := State.published_slot pending (.written thread) (fun _ => nofun)
  have recorded : (s.apply config (.write thread sequence value)).written =
      update s.written sequence (some (thread, value)) := rfl
  refine ⟨sound.sequenced allowed, sound.staged.advance_one stages claimant ?_,
    sound.consumed.keep (fun other => (published other).mpr) ?_, ?_⟩
  · intro other author content written
    rcases update_apply_eq.mp written with ⟨same, ⟨⟩⟩ | ⟨-, written⟩
    · right
      rw [same, claimant]
    · exact .inl written
  · intro other now _
    have differs : other ≠ sequence := by
      rintro rfl
      exact early now
    rw [update_of_ne differs]
  · intro other unread filled
    by_cases same : other = sequence
    · subst same
      exact ⟨thread, value, update_self .., update_self ..⟩
    · rw [stages, update_of_ne same] at filled
      rw [recorded, update_of_ne same]
      exact sound.content_update admitted early unread filled same

end

theorem State.publish_published (s : State α) (other : Int) :
    (s.apply config (.publish thread sequence)).Published other ↔
      other = sequence ∨ s.Published other := by
  have stages : (s.apply config (.publish thread sequence)).stage =
      update s.stage sequence (.published thread) := s.setStages_one sequence _
  rw [State.Published, State.Published, stages]
  by_cases same : other = sequence
  · subst same
    simp
  · rw [update_of_ne same]
    simp [same]

theorem Sound.publish (sound : Sound config s)
    (allowed : Allowed config s (.publish thread sequence)) :
    Sound config (s.apply config (.publish thread sequence)) := by
  have written : s.stage sequence = .written thread := allowed
  have stages : (s.apply config (.publish thread sequence)).stage =
      update s.stage sequence (.published thread) := s.setStages_one sequence _
  refine ⟨sound.sequenced allowed,
    sound.staged.advance_one stages (by rw [written]; rfl) (fun _ _ _ author => .inl author),
    sound.consumed.keep
      (fun other now => (s.publish_published other).mpr (.inr now)) (fun _ _ _ => rfl), ?_⟩
  intro other unread filled
  refine sound.content other unread ?_
  rw [stages, update_apply] at filled
  split at filled
  · rename_i same
    rw [same, written]
    rfl
  · exact filled

end Producers

section Consumers

variable {α : Type} {config : Config} {s : State α}

section

variable (sound : Sound config s)

include sound

theorem Sound.learn {frontier : Int} (allowed : Allowed config s (.learn frontier)) :
    Sound config (s.apply config (.learn frontier)) := by
  refine ⟨sound.sequenced allowed, { sound.staged with },
    { sound.consumed with frontier := ?_ }, sound.content⟩
  intro sequence below
  have known : sequence ≤ max s.frontier frontier := below
  by_cases before : sequence ≤ s.frontier
  · exact sound.consumed.frontier sequence before
  · exact allowed sequence (by omega)

theorem Sound.cache {frontier : Int} (allowed : Allowed config s (.cache frontier)) :
    Sound config (s.apply config (.cache frontier)) := by
  exact ⟨sound.sequenced allowed, { sound.staged with },
    { sound.consumed with cached := allowed }, sound.content⟩

theorem Sound.next_content (published : s.Published s.nextRead) :
    ∃ thread value, s.buffer (config.slotIndex s.nextRead) = some value ∧
      s.written s.nextRead = some (thread, value) := by
  have start : -1 ≤ s.consumed := sound.sequencer.start.2
  have behind := sound.consumed.behind
  obtain ⟨thread, stage⟩ := published.stage (by omega)
  refine sound.content s.nextRead le_rfl ?_
  rw [stage]
  rfl

theorem Sound.read {moves : Bool} (allowed : Allowed config s (.read moves)) :
    Sound config (s.apply config (.read moves)) := by
  have published : s.Published s.nextRead := allowed
  have start : -1 ≤ s.consumed := sound.sequencer.start.2
  have behind := sound.consumed.behind
  have ⟨_, staged, consumed, stored⟩ := sound
  refine ⟨sound.sequenced allowed, { staged with },
    { consumed with behind := ?_, read := ?_, order := ?_, values := ?_ }, ?_⟩
  · change s.consumed < s.nextRead + 1
    omega
  · intro sequence below
    have bound : sequence < s.nextRead + 1 := below
    by_cases last : sequence = s.nextRead
    · rw [last]
      exact published
    · exact consumed.read sequence (by omega)
  · exact consumed.order.snoc (by omega) _
  · intro sequence content read
    rcases mem_append.mp read with before | now
    · exact consumed.values sequence content before
    · obtain ⟨rfl, rfl⟩ := Prod.mk.inj (mem_singleton.mp now)
      exact sound.next_content published
  · intro sequence unread filled
    have bound : s.nextRead + 1 ≤ sequence := unread
    change ∃ thread value, (if moves then _ else s.buffer) _ = some value ∧ _
    split
    · -- Whoever has written into this slot again has seen the value consumed.
      have apart : config.slotIndex sequence ≠ config.slotIndex s.nextRead := by
        intro same
        have seen := sound.consumed_of_slot (Stage.admitted_of_filled filled) same.symm (by omega)
        omega
      rw [update_of_ne apart]
      exact stored sequence (by omega) filled
    · exact stored sequence (by omega) filled

theorem Sound.consume {sequence : Int} (allowed : Allowed config s (.consume sequence)) :
    Sound config (s.apply config (.consume sequence)) :=
  ⟨sound.sequenced allowed, { sound.staged with }, { sound.consumed with behind := allowed.2 },
    sound.content⟩

end

end Consumers

theorem Sound.initial {α : Type} (config : Config) (producerCount : Nat) :
    Sound config (State.initial α producerCount) := by
  have unpublished : ∀ sequence, (State.initial α producerCount).Published sequence ↔
      sequence < 0 := by
    intro sequence
    simp [State.Published, State.initial]
  refine ⟨.initial config, ⟨rfl, nofun, nofun⟩,
    ⟨by change (-1 : Int) < 0; decide, ?_, ?_, ?_, rfl, nofun⟩, nofun⟩
  · intro sequence below
    exact (unpublished sequence).mpr below
  · intro sequence below
    have bound : sequence ≤ -1 := below
    exact (unpublished sequence).mpr (by omega)
  · intro sequence below
    have bound : sequence ≤ -1 := below
    exact (unpublished sequence).mpr (by omega)

theorem Sound.apply {α : Type} {config : Config} {s : State α} (sound : Sound config s)
    (effect : Effect α) (allowed : Allowed config s effect) :
    Sound config (s.apply config effect) := by
  cases effect with
  | skip => exact sound
  | claim thread count granted => exact sound.claim allowed
  | grant thread first count => exact sound.grant allowed
  | blank thread sequence => exact sound.blank allowed
  | write thread sequence value => exact sound.write allowed
  | publish thread sequence => exact sound.publish allowed
  | learn frontier => exact sound.learn allowed
  | cache frontier => exact sound.cache allowed
  | read moves => exact sound.read allowed
  | consume sequence => exact sound.consume allowed

end Menagerie.Starling.Disruptor
