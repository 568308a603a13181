import Menagerie.Bowerbird.Conservation

/-!
# What a pass emits and keeps

With sorting enabled the window is sorted between any two calls: `reconfigure` empties it before the
comparator changes. A pass that a call makes therefore emits and keeps a sorted list, which is the
stable sort of the window and the buffer when `insertion_sort` has sorted the buffer. Neither
`use_inplace_merge` nor the capacity of the window has an effect on any call.
-/

namespace Menagerie.Bowerbird

open WeakOrder List

variable {T : Type}

/-- The configuration without the merge in place. -/
def SlidingWindowConfig.standard (config : SlidingWindowConfig T) : SlidingWindowConfig T :=
  { config with useInplaceMerge := false }

/-- The call without room for a merge in place. -/
def Operation.standard : Operation T → Operation T
  | .add delivery _ => .add delivery false
  | .flush _ => .flush false
  | .reconfigure config _ => .reconfigure config.standard false

namespace SlidingWindowSorter

/-- The sorter without the merge in place. -/
def standard (s : SlidingWindowSorter T) : SlidingWindowSorter T :=
  { s with config := s.config.standard }

/-- The sorter with the entries of a call in the buffer. -/
def received (s : SlidingWindowSorter T) (operation : Operation T) : SlidingWindowSorter T :=
  { s with newEntries := s.newEntries ++ operation.content }

/-- Whether a call makes a processing pass. -/
def processes (s : SlidingWindowSorter T) (operation : Operation T) : Bool :=
  match operation with
  | .add delivery _ => !delivery.content.isEmpty && (s.received operation).shouldProcess
  | .flush _ | .reconfigure _ _ => !(s.newEntries.isEmpty && s.sortedWindow.isEmpty)

variable (std : SortContract T)

section Standard

section

variable (s : SlidingWindowSorter T)

include s

theorem sortAndMerge_standard (roomy : Bool) :
    s.standard.sortAndMerge std false = (s.sortAndMerge std roomy).standard := by
  have entries : s.standard.newEntries = s.newEntries := rfl
  have window : s.standard.sortedWindow = s.sortedWindow := rfl
  unfold sortAndMerge
  simp only [mergeWithWindow_eq, entries, window]
  split_ifs
  · rfl
  · rfl
  · rfl

theorem gather_standard (roomy : Bool) :
    s.standard.gather std false = (s.gather std roomy).standard := by
  have enabled : s.standard.config.enableSorting = s.config.enableSorting := rfl
  unfold gather
  rw [enabled]
  split_ifs
  · exact sortAndMerge_standard std s roomy
  · rfl

theorem outputEntries_standard (count : Nat) :
    s.standard.outputEntries count = (s.outputEntries count).standard := by
  rw [outputEntries_eq, outputEntries_eq]
  rfl

theorem maintainWindowSize_standard :
    s.standard.maintainWindowSize = s.maintainWindowSize.standard := by
  have size : s.standard.config.windowSize = s.config.windowSize := rfl
  have window : s.standard.sortedWindow = s.sortedWindow := rfl
  unfold maintainWindowSize
  rw [size, window]
  split_ifs
  · rfl
  · rfl

theorem processBatch_standard (forceAll roomy : Bool) :
    s.standard.processBatch std forceAll false = (s.processBatch std forceAll roomy).standard := by
  have entries : s.standard.newEntries = s.newEntries := rfl
  have window (t : SlidingWindowSorter T) : t.standard.sortedWindow = t.sortedWindow := rfl
  have count (t : SlidingWindowSorter T) :
      t.standard.calculateOutputCount = t.calculateOutputCount := rfl
  unfold processBatch
  simp only [entries, window, gather_standard std s roomy, count, outputEntries_standard,
    ← apply_ite standard, maintainWindowSize_standard]

theorem deliver_standard (delivery : Delivery T) (roomy : Bool) :
    s.standard.deliver std delivery false = (s.deliver std delivery roomy).standard := by
  have received (entries : List T) :
      { s.standard with newEntries := s.standard.newEntries ++ entries } =
        standard { s with newEntries := s.newEntries ++ entries } := rfl
  have process (t : SlidingWindowSorter T) : t.standard.shouldProcess = t.shouldProcess := rfl
  cases delivery with
  | entry one =>
    unfold deliver addEntry
    simp only [received, process, processBatch_standard std _ _ roomy, ← apply_ite standard]
  | entries many =>
    unfold deliver addEntries
    simp only [received, process, processBatch_standard std _ _ roomy, ← apply_ite standard]

theorem flush_standard (roomy : Bool) :
    s.standard.flush std false = (s.flush std roomy).standard := by
  have entries : s.standard.newEntries = s.newEntries := rfl
  have window : s.standard.sortedWindow = s.sortedWindow := rfl
  unfold flush
  rw [entries, window, processBatch_standard std s true roomy, ← apply_ite standard]

theorem step_standard (operation : Operation T) :
    s.standard.step std operation.standard = (s.step std operation).standard := by
  cases operation with
  | add delivery roomy => exact deliver_standard std s delivery roomy
  | flush roomy => exact flush_standard std s roomy
  | reconfigure config roomy =>
    change { s.standard.flush std false with config := config.standard } = _
    rw [flush_standard std s roomy]
    rfl

end

end Standard

section Passes

variable {s : SlidingWindowSorter T}

theorem flush_processes (operation : Operation T) (none : operation.content = [])
    (makes : (!(s.newEntries.isEmpty && s.sortedWindow.isEmpty)) = true) (roomy : Bool) :
    s.flush std roomy = (s.received operation).processBatch std true roomy := by
  have same : s.received operation = s := by
    unfold received
    rw [none, append_nil]
  have some : ¬ (s.newEntries = [] ∧ s.sortedWindow = []) := by
    rintro ⟨entries, window⟩
    rw [entries, window] at makes
    cases makes
  rw [same, flush, if_neg some]

theorem step_processes {operation : Operation T} (makes : s.processes operation = true) :
    ∃ forceAll roomy,
      (s.step std operation).chunks =
        ((s.received operation).processBatch std forceAll roomy).chunks ∧
      (s.step std operation).sortedWindow =
        ((s.received operation).processBatch std forceAll roomy).sortedWindow := by
  cases operation with
  | add delivery roomy =>
    rw [processes, Bool.and_eq_true, Bool.not_eq_true'] at makes
    obtain ⟨some, enough⟩ := makes
    have same : s.deliver std delivery roomy =
        (s.received (.add delivery roomy)).processBatch std false roomy := by
      cases delivery with
      | entry one => exact if_pos enough
      | entries many =>
        have filled : many ≠ [] := by
          rintro rfl
          cases some
        exact (if_neg filled).trans (if_pos enough)
    exact ⟨false, roomy, congrArg chunks same, congrArg sortedWindow same⟩
  | flush roomy =>
    have same := flush_processes std (.flush roomy) rfl makes roomy
    exact ⟨true, roomy, congrArg chunks same, congrArg sortedWindow same⟩
  | reconfigure config roomy =>
    have same := flush_processes std (.reconfigure config roomy) rfl makes roomy
    refine ⟨true, roomy, ?_, ?_⟩
    · rw [← same]
      rfl
    · rw [← same]
      rfl

/-- The window is sorted, if asked for. -/
def Ready (s : SlidingWindowSorter T) : Prop :=
  s.config.enableSorting = true → Sorted s.config.comparator s.sortedWindow

theorem Ready.process (ready : Ready s) (forceAll roomy : Bool) :
    Ready (s.processBatch std forceAll roomy) := by
  have pass := processBatch_pass std s forceAll roomy
  unfold Ready
  rw [pass.config, pass.window]
  intro sorting
  exact (gathered_sorted std sorting (ready sorting)).drop

theorem Ready.step (ready : Ready s) (operation : Operation T) :
    Ready (s.step std operation) := by
  cases operation with
  | add delivery roomy =>
    change Ready (s.deliver std delivery roomy)
    rcases deliver_eq std s delivery roomy with ⟨same, -⟩ | same | same
    · rw [same]
      exact ready
    · rw [same]
      exact ready
    · rw [same]
      have full : Ready { s with newEntries := s.newEntries ++ delivery.content } := ready
      exact full.process std false roomy
  | flush roomy =>
    change Ready (s.flush std roomy)
    unfold Ready
    rw [(flush_spec std s roomy).1]
    exact fun _ => Pairwise.nil
  | reconfigure config roomy =>
    -- The window is empty when the comparator changes.
    intro sorting
    change Sorted config.comparator (s.flush std roomy).sortedWindow
    rw [(flush_spec std s roomy).1]
    exact Pairwise.nil

theorem run_ready (config : SlidingWindowConfig T) (operations : List (Operation T)) :
    Ready (run std config operations) := by
  induction operations using reverseRecOn with
  | nil => exact fun _ => Pairwise.nil
  | append_singleton before last ih =>
    unfold run at ih ⊢
    rw [foldl_append]
    exact ih.step std last

end Passes

/-- With sorting enabled, every pass emits at most one chunk, which with the remaining window is a
sorted permutation of the old window and the buffer, their stable sort when the buffer has at most
`merge_threshold` entries, whatever `use_inplace_merge` and the room in the window are. -/
theorem pass_specification (config : SlidingWindowConfig T) (operations : List (Operation T))
    (operation : Operation T) (s s' : SlidingWindowSorter T)
    (reached : run std config operations = s) (passes : s.step std operation = s')
    (sorting : s.config.enableSorting = true) (makes : s.processes operation = true) :
    ∃ chunk, s'.chunks = s.chunks ++ emission chunk ∧
      (chunk ++ s'.sortedWindow).Perm (s.sortedWindow ++ (s.newEntries ++ operation.content)) ∧
      Sorted s.config.comparator (chunk ++ s'.sortedWindow) ∧
      ((s.newEntries ++ operation.content).length ≤ s.config.mergeThreshold →
        chunk ++ s'.sortedWindow = stableSort s.config.comparator
          (s.sortedWindow ++ (s.newEntries ++ operation.content))) ∧
      ∀ (other : SlidingWindowSorter T) (call : Operation T),
        other.standard = s.standard → call.standard = operation.standard →
        (other.step std call).chunks = s'.chunks ∧
          (other.step std call).sortedWindow = s'.sortedWindow := by
  have window : Sorted s.config.comparator s.sortedWindow := by
    rw [← reached] at sorting ⊢
    exact run_ready std config operations sorting
  obtain ⟨forceAll, roomy, chunks, rest⟩ := step_processes std makes
  have pass := processBatch_pass std (s.received operation) forceAll roomy
  rw [pass.chunks, passes] at chunks
  rw [pass.window, passes] at rest
  refine ⟨_, chunks, ?_⟩
  rw [rest, take_append_drop]
  have enabled : (s.received operation).config.enableSorting = true := sorting
  refine ⟨gathered_perm std _, gathered_sorted std enabled window,
    gathered_stable std enabled window, ?_⟩
  intro other call same alike
  have equal : (other.step std call).standard = s'.standard := by
    rw [← passes, ← step_standard, ← step_standard, same, alike]
  rw [← rest]
  refine ⟨?_, ?_⟩
  · change (other.step std call).standard.chunks = s'.standard.chunks
    rw [equal]
  · change (other.step std call).standard.sortedWindow = s'.standard.sortedWindow
    rw [equal]

theorem keys_strictWeak : StrictWeak (fun a b : Nat × Nat => decide (a.1 < b.1)) where
  irrefl a := by simp
  trans a b c first second := by
    rw [decide_eq_true_eq] at first second ⊢
    omega
  ties a b c first second third fourth := by
    rw [decide_eq_false_iff_not] at first second third fourth ⊢
    omega

/-- A window of three pairs sorted by first component, and batches of one. -/
def keyed : SlidingWindowConfig (Nat × Nat) where
  windowSize := 3
  batchSize := 1
  comparator a b := decide (a.1 < b.1)
  ordered := keys_strictWeak

/-- Pairs with the same keys in the window and in the buffer. -/
theorem pass_specification_keyed :
    let s := run mergeSorting keyed [.add (.entries [(2, 0), (1, 0)]) true]
    ∃ chunk, (s.step mergeSorting (.add (.entries [(1, 1), (2, 1)]) true)).chunks =
        s.chunks ++ emission chunk ∧
      chunk ++ (s.step mergeSorting (.add (.entries [(1, 1), (2, 1)]) true)).sortedWindow =
        stableSort keyed.comparator (s.sortedWindow ++ [(1, 1), (2, 1)]) := by
  obtain ⟨chunk, emitted, -, -, stable, -⟩ := pass_specification mergeSorting keyed
    [.add (.entries [(2, 0), (1, 0)]) true] (.add (.entries [(1, 1), (2, 1)]) true) _ _ rfl rfl
    (by decide) (by decide)
  exact ⟨chunk, emitted, stable (by decide)⟩

end SlidingWindowSorter

end Menagerie.Bowerbird
