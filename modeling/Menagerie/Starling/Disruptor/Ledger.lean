import Menagerie.Starling.Disruptor.Basic
import Mathlib.Order.Bounds.Basic

/-!
# The publication frontier of the multi-producer sequencer

The sequencer on its own: claims, publications and consumption in any order that its contract
allows, without the ring and without what producer and consumer do between their calls. A slot holds
the generation of the current lap or of the one before, so the scan of `get_published_sequence`
stops exactly at the first sequence that has not been published.
-/

namespace Menagerie.Starling.Disruptor

open Function

/-- Capacity for the sequence has been checked. -/
def Stage.admitted : Stage → Bool
  | .granted _ | .blank _ | .written _ | .published _ => true
  | .free | .waiting _ => false

/-- A ring of two slots. -/
def twoSlots : Config := ⟨1, by decide⟩

/-- `MultiProducerSequencer`, with the history of sequences. -/
structure Ledger where
  claimed : Int := -1
  consumed : Int := -1
  generations : Nat → BitVec 32 := fun _ => -1
  stage : Int → Stage := fun _ => .free

/-- One change of the sequencer. -/
inductive Event
  | claim (thread count : Nat)
  | grant (thread : Nat) (first : Int) (count : Nat)
  /-- The compare-exchange of `try_next`; the consumed position may have advanced since its load. -/
  | tryNext (thread : Nat)
  | publishSlot (thread : Nat) (sequence : Int)
  | consume (sequence : Int)
  deriving DecidableEq, Repr

/-- The scan for the frontier. -/
def scanPublished (config : Config) (generations : Nat → BitVec 32) (sequence claimed : Int) :
    Int :=
  if sequence ≤ claimed then
    if generations (config.slotIndex sequence) ≠ config.generationOf sequence then sequence - 1
    else scanPublished config generations (sequence + 1) claimed
  else claimed
termination_by (claimed + 1 - sequence).toNat

namespace Ledger

variable (config : Config) (s : Ledger)

/-- `get_published_sequence`. -/
def getPublishedSequence (lowerBound : Int) : Int :=
  scanPublished config s.generations lowerBound s.claimed

/-- Published, or before the first sequence. -/
def Published (sequence : Int) : Prop :=
  sequence < 0 ∨ ∃ thread, s.stage sequence = .published thread

/-- `Published`, as a test. -/
def isPublished (sequence : Int) : Bool :=
  match s.stage sequence with
  | .published _ => true
  | .free | .waiting _ | .granted _ | .blank _ | .written _ => sequence < 0

/-- Change the stages of a block of sequences. -/
def setStages (first : Int) (count : Nat) (stage : Stage) : Ledger :=
  { s with
    stage := fun sequence =>
      if first ≤ sequence ∧ sequence < first + count then stage else s.stage sequence }

/-- A claimant publishes what it was granted, and the consumer consumes what was published. -/
def step : Event → Option Ledger
  | .claim thread count =>
    some { s.setStages (s.claimed + 1) count (.waiting thread) with claimed := s.claimed + count }
  | .grant thread first count =>
    if first + count - 1 - config.capacity > s.consumed then none
    else if ∀ offset < count, s.stage (first + offset) = .waiting thread then
      some (s.setStages first count (.granted thread))
    else none
  | .tryNext thread =>
    if s.claimed + 1 - config.capacity > s.consumed then none
    else
      some { s.setStages (s.claimed + 1) 1 (.granted thread) with claimed := s.claimed + 1 }
  | .publishSlot thread sequence =>
    if s.stage sequence = .granted thread then
      some { s.setStages sequence 1 (.published thread) with
        generations := update s.generations (config.slotIndex sequence)
          (config.generationOf sequence) }
    else none
  | .consume sequence =>
    if s.consumed ≤ sequence ∧
        ∀ offset < (sequence - s.consumed).toNat,
          s.isPublished (s.consumed + 1 + offset) = true then
      some { s with consumed := sequence }
    else none

/-- A sequencer, any number of producers and one consumer. -/
def system : Transition.System Ledger Event where
  initial s := s = {}
  step := step config

/-- What every run keeps. -/
structure Sound : Prop where
  start : -1 ≤ s.claimed ∧ -1 ≤ s.consumed
  free : ∀ sequence, sequence < 0 ∨ s.claimed < sequence → s.stage sequence = .free
  room : ∀ sequence, (s.stage sequence).admitted = true → sequence - config.capacity ≤ s.consumed
  consumed : ∀ sequence ≤ s.consumed, s.Published sequence
  generation : ∀ sequence, -(config.capacity : Int) ≤ sequence → s.Published sequence →
    ¬ s.Published (sequence + config.capacity) →
    s.generations (config.slotIndex sequence) = config.generationOf sequence

variable {config s} {thread count : Nat} {sequence first : Int}

theorem isPublished_iff : s.isPublished sequence = true ↔ s.Published sequence := by
  unfold isPublished Published
  cases s.stage sequence <;> simp

theorem Published.admitted (published : s.Published sequence) (owned : 0 ≤ sequence) :
    (s.stage sequence).admitted = true := by
  rcases published with early | ⟨thread, stage⟩
  · omega
  · rw [stage]
    rfl

theorem Sound.published_le (sound : Sound config s) (published : s.Published sequence) :
    sequence ≤ s.consumed + config.capacity := by
  have start := sound.start
  have positive := config.capacity_pos
  by_cases early : sequence < 0
  · omega
  · have room := sound.room sequence (published.admitted (by omega))
    omega

theorem Sound.generation_iff (sound : Sound config s) (above : s.consumed < sequence)
    (below : sequence ≤ s.consumed + config.capacity) :
    s.generations (config.slotIndex sequence) = config.generationOf sequence ↔
      s.Published sequence := by
  have start := sound.start
  constructor
  · intro same
    by_contra pending
    -- The slot still has the generation of the lap before.
    have previous := sound.generation (sequence - config.capacity) (by omega)
      (sound.consumed _ (by omega)) (by rwa [Int.sub_add_cancel])
    rw [config.slotIndex_previous, same] at previous
    exact config.generationOf_previous sequence previous.symm
  · intro published
    refine sound.generation sequence (by omega) published fun later => ?_
    have bound := sound.published_le later
    omega

theorem Sound.generation_beyond (sound : Sound config s)
    (published : s.Published (s.consumed + 1)) :
    s.generations (config.slotIndex (s.consumed + 1 + config.capacity)) ≠
      config.generationOf (s.consumed + 1 + config.capacity) := by
  have start := sound.start
  have holds := sound.generation (s.consumed + 1) (by omega) published fun later => by
    have bound := sound.published_le later
    omega
  have previous := config.slotIndex_previous (s.consumed + 1 + config.capacity)
  have differs := config.generationOf_previous (s.consumed + 1 + config.capacity)
  rw [Int.add_sub_cancel] at previous differs
  rw [← previous, holds]
  exact differs

/-- From the consumed position to this one all is published, and the next is not. -/
structure IsFrontier (s : Ledger) (position : Int) : Prop where
  start : s.consumed ≤ position
  published : ∀ sequence, s.consumed < sequence → sequence ≤ position → s.Published sequence
  stops : ¬ s.Published (position + 1)

theorem Sound.scan_isFrontier (sound : Sound config s) (above : s.consumed < sequence)
    (below : sequence ≤ s.consumed + 1 + config.capacity) (inside : sequence ≤ s.claimed + 1)
    (before : ∀ other, s.consumed < other → other < sequence → s.Published other) :
    s.IsFrontier (scanPublished config s.generations sequence s.claimed) := by
  have positive := config.capacity_pos
  have start := sound.start
  fun_induction scanPublished config s.generations sequence s.claimed with
  | case1 sequence claimed differs =>
    refine ⟨by omega, fun other lower upper => before other lower (by omega), ?_⟩
    rw [Int.sub_add_cancel]
    intro published
    have lap := sound.published_le published
    exact differs ((sound.generation_iff above lap).mpr published)
  | case2 sequence claimed same ih =>
    rw [not_not] at same
    have lap : sequence ≤ s.consumed + config.capacity := by
      by_contra beyond
      have last : sequence = s.consumed + 1 + config.capacity := by omega
      rw [last] at same
      exact sound.generation_beyond (before _ (by omega) (by omega)) same
    have published := (sound.generation_iff above lap).mp same
    refine ih (by omega) (by omega) (by omega) fun other lower upper => ?_
    by_cases here : other = sequence
    · rw [here]
      exact published
    · exact before other lower (by omega)
  | case3 sequence ended =>
    refine ⟨by omega, fun other lower upper => before other lower (by omega), fun published => ?_⟩
    have free := sound.free (s.claimed + 1) (.inr (by omega))
    have admitted := published.admitted (by omega)
    rw [free] at admitted
    cases admitted

section Steps

variable {s' : Ledger} {stage : Stage}

theorem setStages_inside (above : first ≤ sequence) (below : sequence < first + count) :
    (s.setStages first count stage).stage sequence = stage := if_pos ⟨above, below⟩

theorem setStages_outside (outside : sequence < first ∨ first + count ≤ sequence) :
    (s.setStages first count stage).stage sequence = s.stage sequence := if_neg (by omega)

theorem published_setStages
    (old : ∀ other, first ≤ other → other < first + count → ∀ thread,
      s.stage other ≠ .published thread)
    (new : ∀ thread, stage ≠ .published thread) :
    (s.setStages first count stage).Published sequence ↔ s.Published sequence := by
  unfold Published
  by_cases inside : first ≤ sequence ∧ sequence < first + count
  · rw [setStages_inside inside.1 inside.2]
    simp [old sequence inside.1 inside.2, new]
  · rw [setStages_outside (by omega)]

theorem Sound.keep (sound : Sound config s) {claimed : Int} {stage : Int → Stage}
    (published : ∀ sequence, Published { s with claimed, stage } sequence ↔ s.Published sequence)
    (start : -1 ≤ claimed)
    (free : ∀ sequence, sequence < 0 ∨ claimed < sequence → stage sequence = .free)
    (room : ∀ sequence, (stage sequence).admitted = true →
      (s.stage sequence).admitted = true ∨ sequence - config.capacity ≤ s.consumed) :
    Sound config { s with claimed, stage } where
  start := ⟨start, sound.start.2⟩
  free := free
  room sequence admitted := (room sequence admitted).elim (sound.room sequence) id
  consumed sequence below := (published sequence).mpr (sound.consumed sequence below)
  generation sequence recent now later := by
    rw [published] at now later
    exact sound.generation sequence recent now later

theorem Sound.claims (sound : Sound config s) (new : ∀ thread, stage ≠ .published thread)
    (room : stage.admitted = true → s.claimed + count - config.capacity ≤ s.consumed) :
    Sound config { s.setStages (s.claimed + 1) count stage with claimed := s.claimed + count } := by
  have start := sound.start
  have unclaimed : ∀ other, s.claimed + 1 ≤ other → s.stage other = .free :=
    fun other above => sound.free other (.inr (by omega))
  refine sound.keep (fun sequence => published_setStages ?_ new) ?_ ?_ ?_
  · intro other above below thread
    rw [unclaimed other above]
    exact Stage.noConfusion
  · omega
  · intro sequence outside
    rw [setStages_outside (by omega)]
    exact sound.free sequence (by omega)
  · intro sequence admitted
    by_cases inside : s.claimed + 1 ≤ sequence ∧ sequence < s.claimed + 1 + count
    · rw [setStages_inside inside.1 inside.2] at admitted
      have bound := room admitted
      exact .inr (by omega)
    · rw [setStages_outside (by omega)] at admitted
      exact .inl admitted

theorem Sound.grants (sound : Sound config s)
    (room : first + count - 1 - config.capacity ≤ s.consumed)
    (waiting : ∀ other, first ≤ other → other < first + count → s.stage other = .waiting thread) :
    Sound config (s.setStages first count (.granted thread)) := by
  refine sound.keep (fun sequence => published_setStages ?_ (fun _ => Stage.noConfusion))
    sound.start.1 ?_ ?_
  · intro other above below author
    rw [waiting other above below]
    exact Stage.noConfusion
  · intro sequence outside
    have free := sound.free sequence outside
    by_cases inside : first ≤ sequence ∧ sequence < first + count
    · have stage := waiting sequence inside.1 inside.2
      rw [free] at stage
      cases stage
    · rw [if_neg inside]
      exact free
  · intro sequence admitted
    by_cases inside : first ≤ sequence ∧ sequence < first + count
    · exact .inr (by omega)
    · rw [if_neg inside] at admitted
      exact .inl admitted

def publishes (config : Config) (s : Ledger) (thread : Nat) (sequence : Int) : Ledger :=
  { s.setStages sequence 1 (.published thread) with
    generations := update s.generations (config.slotIndex sequence)
      (config.generationOf sequence) }

theorem publishes_published {other : Int} :
    (publishes config s thread sequence).Published other ↔
      other = sequence ∨ s.Published other := by
  change (s.setStages sequence 1 (.published thread)).Published other ↔ _
  unfold Published
  by_cases same : other = sequence
  · subst same
    rw [setStages_inside (by omega) (by omega)]
    simp
  · rw [setStages_outside (by omega)]
    simp [same]

theorem Sound.publishes (sound : Sound config s) (granted : s.stage sequence = .granted thread) :
    Sound config (publishes config s thread sequence) := by
  have positive := config.capacity_pos
  have room := sound.room sequence (by rw [granted]; rfl)
  have owned : 0 ≤ sequence := by
    by_contra early
    have free := sound.free sequence (.inl (by omega))
    rw [granted] at free
    cases free
  have pending : ¬ s.Published sequence := by
    rintro (early | ⟨author, published⟩)
    · omega
    · rw [granted] at published
      cases published
  refine ⟨sound.start, ?_, ?_, ?_, ?_⟩
  · intro other outside
    have differs : other ≠ sequence := by
      rintro rfl
      rw [sound.free other outside] at granted
      cases granted
    change (s.setStages sequence 1 _).stage other = .free
    rw [setStages_outside (by omega)]
    exact sound.free other outside
  · intro other admitted
    change ((s.setStages sequence 1 _).stage other).admitted = true at admitted
    by_cases same : other = sequence
    · rw [same]
      exact room
    · rw [setStages_outside (by omega)] at admitted
      exact sound.room other admitted
  · intro other below
    exact publishes_published.mpr (.inr (sound.consumed other below))
  · intro other recent now later
    rw [publishes_published] at now later
    rw [not_or] at later
    change update s.generations _ _ _ = _
    by_cases same : other = sequence
    · rw [same, update_self]
    · have published := now.resolve_left same
      -- A later sequence of the slot would be published only after this one has been consumed, and
      -- an earlier one is followed by a published lap.
      have apart : config.slotIndex other ≠ config.slotIndex sequence := by
        intro slot
        rcases config.apart_of_slotIndex slot same with earlier | after
        · have next := config.apart_of_slotIndex
            ((config.slotIndex_previous (other + config.capacity)).symm.trans
              (by rw [Int.add_sub_cancel]; exact slot)) later.1
          exact later.2 (sound.consumed _ (by omega))
        · have bound := sound.published_le published
          exact pending (sound.consumed sequence (by omega))
      rw [update_of_ne apart]
      exact sound.generation other recent published later.2

theorem Sound.consumes (sound : Sound config s) (forward : s.consumed ≤ sequence)
    (published : ∀ other, s.consumed < other → other ≤ sequence → s.Published other) :
    Sound config { s with consumed := sequence } where
  start := ⟨sound.start.1, by
    have start := sound.start.2
    change -1 ≤ sequence
    omega⟩
  free := sound.free
  room other admitted := by
    have before := sound.room other admitted
    change other - config.capacity ≤ sequence
    omega
  consumed other below := by
    by_cases old : other ≤ s.consumed
    · exact sound.consumed other old
    · exact published other (by omega) below
  generation := sound.generation

theorem Sound.step {event : Event} (sound : Sound config s)
    (stepped : Ledger.step config s event = some s') : Sound config s' := by
  revert stepped
  fun_cases Ledger.step config s event
  case case1 thread count =>
    rintro ⟨⟩
    exact sound.claims (fun _ => Stage.noConfusion) Bool.noConfusion
  case case3 thread first count room waiting =>
    rintro ⟨⟩
    refine sound.grants (by omega) fun other above below => ?_
    have stage := waiting (other - first).toNat (by omega)
    rwa [show first + ((other - first).toNat : Int) = other by omega] at stage
  case case6 thread room =>
    rintro ⟨⟩
    exact @Sound.claims _ _ 1 _ sound (fun _ => Stage.noConfusion) (fun _ => by omega)
  case case7 thread sequence granted =>
    rintro ⟨⟩
    exact sound.publishes granted
  case case9 sequence allowed =>
    rintro ⟨⟩
    refine sound.consumes allowed.1 fun other above below => ?_
    have published := allowed.2 (other - s.consumed - 1).toNat (by omega)
    rw [show s.consumed + 1 + ((other - s.consumed - 1).toNat : Int) = other by omega,
      isPublished_iff] at published
    exact published
  all_goals exact nofun

end Steps

/-- A new slot has the generation of the lap before the first. -/
theorem Sound.initial (config : Config) : Sound config {} := by
  refine ⟨⟨le_rfl, le_rfl⟩, fun _ _ => rfl, fun _ admitted => Bool.noConfusion admitted, ?_, ?_⟩
  · intro sequence below
    have early : sequence ≤ -1 := below
    exact .inl (by omega)
  · intro sequence recent published _
    rcases published with early | ⟨thread, stage⟩
    · exact (config.generationOf_unpublished early recent).symm
    · cases stage

theorem reachable_sound (reached : (system config).Reachable s) : Sound config s := by
  refine reached.invariant ?_ fun state event next _ sound _ stepped => sound.step stepped
  rintro _ rfl
  exact .initial config

/-- In every reachable state the frontier beyond the consumed position is the greatest one, and at
most a lap ahead of the consumer. -/
theorem published_sequence_exact (config : Config) (s : Ledger)
    (reached : (system config).Reachable s) :
    IsGreatest {position | s.consumed + 1 - 1 ≤ position ∧
        ∀ sequence, s.consumed + 1 ≤ sequence → sequence ≤ position → s.Published sequence}
      (s.getPublishedSequence config (s.consumed + 1)) ∧
    s.getPublishedSequence config (s.consumed + 1) ≤ s.consumed + config.capacity := by
  have sound := reachable_sound reached
  have inside : s.consumed ≤ s.claimed := by
    by_contra beyond
    have free := sound.free s.consumed (.inr (by omega))
    have start := sound.start
    have admitted := (sound.consumed s.consumed le_rfl).admitted (by omega)
    rw [free] at admitted
    cases admitted
  have frontier : s.IsFrontier (s.getPublishedSequence config (s.consumed + 1)) :=
    sound.scan_isFrontier (by omega) (by omega) (by omega) fun other above below => by omega
  obtain ⟨start, published, stops⟩ := frontier
  refine ⟨⟨⟨by omega, fun sequence above below => published sequence (by omega) below⟩, ?_⟩, ?_⟩
  · rintro position ⟨-, all⟩
    by_contra beyond
    exact stops (all _ (by omega) (by omega))
  · by_contra beyond
    have lap := sound.published_le (published _ (by omega) le_rfl)
    omega

/-- Three claims in a ring of two slots: the second is published first, the third one waits. -/
theorem published_sequence_exact_two_slots : ∃ s : Ledger, (system twoSlots).Reachable s ∧
    s.consumed = 0 ∧ s.claimed = 2 ∧ s.getPublishedSequence twoSlots 1 = 1 ∧
    IsGreatest {position | s.consumed + 1 - 1 ≤ position ∧
        ∀ sequence, s.consumed + 1 ≤ sequence → sequence ≤ position → s.Published sequence}
      (s.getPublishedSequence twoSlots (s.consumed + 1)) := by
  obtain ⟨s, executed, consumed, claimed, first, second⟩ : ∃ s,
      (system twoSlots).run {} [.claim 0 1, .claim 1 1, .claim 0 1, .grant 0 0 1, .grant 1 1 1,
        .publishSlot 1 1, .publishSlot 0 0, .consume 0] = some s ∧ s.consumed = 0 ∧ s.claimed = 2 ∧
      s.generations (twoSlots.slotIndex 1) = twoSlots.generationOf 1 ∧
      s.generations (twoSlots.slotIndex (1 + 1)) ≠ twoSlots.generationOf (1 + 1) :=
    ⟨_, rfl, rfl, rfl, by decide, by decide⟩
  have reached : (system twoSlots).Reachable s :=
    ⟨_, rfl, Transition.System.leads_of_run executed⟩
  have scanned : s.getPublishedSequence twoSlots 1 = 1 := by
    rw [getPublishedSequence, claimed, scanPublished, if_pos (by decide),
      if_neg (not_not.mpr first), scanPublished, if_pos (by decide), if_pos second]
    rfl
  exact ⟨s, reached, consumed, claimed, scanned, (published_sequence_exact twoSlots s reached).1⟩

end Ledger

end Menagerie.Starling.Disruptor
