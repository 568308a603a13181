import Menagerie.Bowerbird.Sorter

/-!
# A processing pass of the sorter

A pass gathers the window and the buffer in one list. The consumer is given a front of the list and
the window keeps the rest. After the output the window has at most `window_size` entries, so nothing
is left to erase.
-/

namespace Menagerie.Bowerbird.SlidingWindowSorter

open WeakOrder List

variable {T : Type} (std : SortContract T) {comp : T → T → Bool}

theorem insertionSort_stable (order : StrictWeak comp) (entries : List T) :
    StableSort comp entries (insertionSort comp entries) := by
  -- The invariant of the loop: the range before the iterator is stably sorted.
  have inserted : ∀ (rest seen sorted : List T), StableSort comp seen sorted →
      StableSort comp (seen ++ rest)
        (rest.foldl (fun sorted key => sorted.take (upperBound comp sorted key) ++
          key :: sorted.drop (upperBound comp sorted key)) sorted) := by
    intro rest
    induction rest with
    | nil =>
      intro seen sorted before
      rw [append_nil]
      exact before
    | cons key rest ih =>
      intro seen sorted before
      have next := ih (seen ++ [key]) _ (before.insert order key)
      rw [append_assoc, singleton_append] at next
      exact next
  cases entries with
  | nil => exact Sorted.stableSort Pairwise.nil
  | cons first rest =>
    have single : Sorted comp [first] := pairwise_singleton _ _
    exact inserted rest [first] [first] single.stableSort

section

variable (s : SlidingWindowSorter T)

include s

theorem mergeWithWindow_eq (roomy : Bool) :
    s.mergeWithWindow roomy = { s with
      sortedWindow := merge s.config.comparator s.sortedWindow s.newEntries,
      newEntries := [] } := by
  have inplace : s.performInplaceMerge = s.performStandardMerge := by
    unfold performInplaceMerge performStandardMerge
    simp only [take_left, drop_left]
  unfold mergeWithWindow
  rw [inplace, ite_self]
  rfl

theorem sortNewEntries_spec :
    (s.sortNewEntries std).Perm s.newEntries ∧
      Sorted s.config.comparator (s.sortNewEntries std) := by
  have order := s.config.ordered
  unfold sortNewEntries
  split_ifs
  · have stable := insertionSort_stable order s.newEntries
    exact ⟨stable.perm, stable.sorted⟩
  · exact ⟨std.perm _ _ order, std.sorted _ _ order⟩

theorem sortNewEntries_stable (few : s.newEntries.length ≤ s.config.mergeThreshold) :
    StableSort s.config.comparator s.newEntries (s.sortNewEntries std) := by
  unfold sortNewEntries
  rw [if_pos few]
  exact insertionSort_stable s.config.ordered s.newEntries

end

/-- Window and new entries together. -/
def gathered (s : SlidingWindowSorter T) : List T :=
  if s.config.enableSorting then
    merge s.config.comparator s.sortedWindow (s.sortNewEntries std)
  else s.sortedWindow ++ s.newEntries

theorem gathered_perm (s : SlidingWindowSorter T) :
    (s.gathered std).Perm (s.sortedWindow ++ s.newEntries) := by
  unfold gathered
  split_ifs
  · exact (merge_perm _ _).trans ((sortNewEntries_spec std s).1.append_left _)
  · exact Perm.refl _

section Sorting

variable {s : SlidingWindowSorter T} (sorting : s.config.enableSorting = true)
  (window : Sorted s.config.comparator s.sortedWindow)

include sorting window

theorem gathered_sorted : Sorted s.config.comparator (s.gathered std) := by
  unfold gathered
  rw [if_pos sorting]
  exact s.config.ordered.merge_sorted window (sortNewEntries_spec std s).2

theorem gathered_stable (few : s.newEntries.length ≤ s.config.mergeThreshold) :
    s.gathered std = stableSort s.config.comparator (s.sortedWindow ++ s.newEntries) := by
  have order := s.config.ordered
  have stable := window.stableSort.merge order (sortNewEntries_stable std s few)
  unfold gathered
  rw [if_pos sorting]
  exact stable.unique order (order.stableSort_spec _)

end Sorting

/-- What gathering leaves alone. -/
structure Framed (s s' : SlidingWindowSorter T) : Prop where
  config : s'.config = s.config
  chunks : s'.chunks = s.chunks
  total : s'.totalProcessed = s.totalProcessed

theorem sortAndMerge_spec (s : SlidingWindowSorter T) (roomy : Bool) :
    Framed s (s.sortAndMerge std roomy) ∧ (s.sortAndMerge std roomy).newEntries = [] ∧
      (s.sortAndMerge std roomy).sortedWindow =
        merge s.config.comparator s.sortedWindow (s.sortNewEntries std) := by
  unfold sortAndMerge
  by_cases empty : s.newEntries = []
  · rw [if_pos empty]
    have nothing : s.sortNewEntries std = [] := by
      have perm := (sortNewEntries_spec std s).1
      rw [empty] at perm
      exact perm.eq_nil
    rw [nothing]
    exact ⟨⟨rfl, rfl, rfl⟩, empty, (merge_right _).symm⟩
  · rw [if_neg empty]
    by_cases first : s.sortedWindow = []
    · simp only [if_pos first]
      rw [first]
      exact ⟨⟨rfl, rfl, rfl⟩, trivial, (nil_merge _).symm⟩
    · simp only [if_neg first, mergeWithWindow_eq]
      exact ⟨⟨rfl, rfl, rfl⟩, trivial, trivial⟩

theorem gather_spec (s : SlidingWindowSorter T) (roomy : Bool) :
    Framed s (s.gather std roomy) ∧ (s.gather std roomy).newEntries = [] ∧
      (s.gather std roomy).sortedWindow = s.gathered std := by
  unfold gather gathered
  split_ifs
  · exact sortAndMerge_spec std s roomy
  · exact ⟨⟨rfl, rfl, rfl⟩, rfl, rfl⟩

/-- The call of the consumer, none for an empty output. -/
def emission (output : List T) : List (List T) :=
  if output = [] then [] else [output]

@[simp]
theorem emission_flatten (output : List T) : (emission output).flatten = output := by
  unfold emission
  split_ifs with empty
  · rw [empty, flatten_nil]
  · exact flatten_singleton

theorem outputEntries_eq (s : SlidingWindowSorter T) (count : Nat) :
    s.outputEntries count = { s with
      sortedWindow := s.sortedWindow.drop count
      chunks := s.chunks ++ emission (s.sortedWindow.take count)
      totalProcessed := s.totalProcessed + (s.sortedWindow.take count).length } := by
  unfold outputEntries emission
  by_cases nothing : count = 0 ∨ s.sortedWindow = []
  · have empty : s.sortedWindow.take count = [] := take_eq_nil_iff.mpr nothing
    have whole : s.sortedWindow.drop count = s.sortedWindow := by
      rcases nothing with rfl | none
      · exact drop_zero
      · rw [none, drop_nil]
    rw [if_pos nothing, if_pos empty, empty, whole, append_nil, length_nil, Nat.add_zero]
  · have some : s.sortedWindow.take count ≠ [] := fun empty =>
      nothing (take_eq_nil_iff.mp empty)
    have front : s.sortedWindow.take (min count s.sortedWindow.length) =
        s.sortedWindow.take count := by
      rw [take_eq_take_iff]
      omega
    have rest : s.sortedWindow.drop (min count s.sortedWindow.length) =
        s.sortedWindow.drop count := by
      by_cases short : count ≤ s.sortedWindow.length
      · rw [Nat.min_eq_left short]
      · rw [Nat.min_eq_right (by omega), drop_length, drop_of_length_le (by omega)]
    rw [if_neg nothing, if_neg some, front, rest]

/-- How many entries a pass gives to the consumer. -/
def passed (s : SlidingWindowSorter T) (forceAll : Bool) (window : List T) : Nat :=
  if forceAll then window.length
  else if window.length < s.config.windowSize then 0
  else max (window.length - s.config.windowSize) s.config.batchSize

theorem passed_suffices (s : SlidingWindowSorter T) (forceAll : Bool) (window : List T) :
    (window.drop (s.passed forceAll window)).length ≤ s.config.windowSize := by
  unfold passed
  rw [length_drop]
  split_ifs
  · omega
  · omega
  · omega

/-- The first `count` entries go to the consumer, the others to the window. -/
structure Pass (s s' : SlidingWindowSorter T) (list : List T) (count : Nat) : Prop where
  config : s'.config = s.config
  entries : s'.newEntries = []
  window : s'.sortedWindow = list.drop count
  chunks : s'.chunks = s.chunks ++ emission (list.take count)
  total : s'.totalProcessed = s.totalProcessed + (list.take count).length

theorem processBatch_pass (s : SlidingWindowSorter T) (forceAll roomy : Bool) :
    Pass s (s.processBatch std forceAll roomy) (s.gathered std)
      (s.passed forceAll (s.gathered std)) := by
  unfold processBatch
  by_cases idle : s.newEntries = [] ∧ s.sortedWindow = []
  · have nothing : s.gathered std = [] := by
      have perm := gathered_perm std s
      rw [idle.1, idle.2] at perm
      exact perm.eq_nil
    rw [if_pos idle, nothing]
    refine ⟨rfl, idle.1, ?_, ?_, ?_⟩
    · rw [idle.2, drop_nil]
    · rw [take_nil, emission, if_pos rfl, append_nil]
    · rw [take_nil, length_nil, Nat.add_zero]
  · rw [if_neg idle]
    obtain ⟨framed, empty, window⟩ := gather_spec std s roomy
    have count : (if forceAll then (s.gather std roomy).sortedWindow.length
        else (s.gather std roomy).calculateOutputCount) =
        s.passed forceAll (s.gathered std) := by
      unfold calculateOutputCount passed
      rw [framed.config, window]
    have output : (if 0 < s.passed forceAll (s.gathered std) then
        (s.gather std roomy).outputEntries (s.passed forceAll (s.gathered std))
        else s.gather std roomy) =
        (s.gather std roomy).outputEntries (s.passed forceAll (s.gathered std)) := by
      split_ifs with some
      · rfl
      · unfold outputEntries
        rw [if_pos (.inl (by omega))]
    simp only [count, output]
    rw [outputEntries_eq, window]
    -- There is no excess for `maintain_window_size`.
    have bound := s.passed_suffices forceAll (s.gathered std)
    unfold maintainWindowSize
    simp only [framed.config]
    rw [if_neg (by omega), framed.chunks, framed.total]
    exact ⟨rfl, empty, rfl, rfl, rfl⟩

end Menagerie.Bowerbird.SlidingWindowSorter
