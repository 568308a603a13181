import Menagerie.Bowerbird.Pass
import Mathlib.Data.List.Induction

/-!
# The sorter keeps its data

Every processing pass moves the buffer into the window and the front of the window to the consumer.
-/

namespace Menagerie.Bowerbird.SlidingWindowSorter

open WeakOrder List

variable {T : Type} (std : SortContract T)

/-- No entry is lost or doubled. -/
structure Conserved (s : SlidingWindowSorter T) (arrived : List T) : Prop where
  perm : (s.chunks.flatten ++ s.sortedWindow ++ s.newEntries).Perm arrived
  total : s.totalProcessed = s.chunks.flatten.length
  bounded : s.sortedWindow.length ≤ s.config.windowSize

section Conserved

variable {s : SlidingWindowSorter T} {arrived : List T}

theorem Conserved.receive (conserved : Conserved s arrived) (entries : List T) :
    Conserved { s with newEntries := s.newEntries ++ entries } (arrived ++ entries) := by
  refine ⟨?_, conserved.total, conserved.bounded⟩
  rw [← append_assoc]
  exact conserved.perm.append_right entries

theorem Conserved.process (conserved : Conserved s arrived) (forceAll roomy : Bool) :
    Conserved (s.processBatch std forceAll roomy) arrived := by
  have pass := processBatch_pass std s forceAll roomy
  refine ⟨?_, ?_, ?_⟩
  · rw [pass.entries, pass.window, pass.chunks, flatten_append, emission_flatten,
      append_nil, append_assoc, take_append_drop]
    refine ((gathered_perm std s).append_left s.chunks.flatten).trans ?_
    rw [← append_assoc]
    exact conserved.perm
  · rw [pass.total, pass.chunks, flatten_append, emission_flatten, length_append,
      conserved.total]
  · rw [pass.window, pass.config]
    exact s.passed_suffices forceAll _

theorem flush_spec (s : SlidingWindowSorter T) (roomy : Bool) :
    (s.flush std roomy).sortedWindow = [] ∧ (s.flush std roomy).newEntries = [] := by
  unfold flush
  split_ifs with idle
  · exact ⟨idle.2, idle.1⟩
  · have pass := processBatch_pass std s true roomy
    have all : s.passed true (s.gathered std) = (s.gathered std).length := rfl
    rw [pass.window, all, drop_length]
    exact ⟨rfl, pass.entries⟩

theorem Conserved.flush (conserved : Conserved s arrived) (roomy : Bool) :
    Conserved (s.flush std roomy) arrived := by
  unfold SlidingWindowSorter.flush
  split_ifs
  · exact conserved
  · exact conserved.process std true roomy

theorem deliver_eq (s : SlidingWindowSorter T) (delivery : Delivery T) (roomy : Bool) :
    s.deliver std delivery roomy = s ∧ delivery.content = [] ∨
      s.deliver std delivery roomy = { s with newEntries := s.newEntries ++ delivery.content } ∨
      s.deliver std delivery roomy =
        processBatch std { s with newEntries := s.newEntries ++ delivery.content } false roomy := by
  cases delivery with
  | entry one =>
    unfold deliver addEntry
    simp only
    split_ifs
    · exact .inr (.inr rfl)
    · exact .inr (.inl rfl)
  | entries many =>
    unfold deliver addEntries
    simp only
    split_ifs with empty
    · exact .inl ⟨rfl, empty⟩
    · exact .inr (.inr rfl)
    · exact .inr (.inl rfl)

theorem Conserved.step (conserved : Conserved s arrived) (operation : Operation T) :
    Conserved (s.step std operation) (arrived ++ operation.content) := by
  cases operation with
  | add delivery roomy =>
    change Conserved (s.deliver std delivery roomy) (arrived ++ delivery.content)
    have received := conserved.receive delivery.content
    rcases deliver_eq std s delivery roomy with ⟨same, empty⟩ | same | same
    · rw [same, empty, append_nil]
      exact conserved
    · rw [same]
      exact received
    · rw [same]
      exact received.process std false roomy
  | flush roomy =>
    change Conserved (s.flush std roomy) (arrived ++ [])
    rw [append_nil]
    exact conserved.flush std roomy
  | reconfigure config roomy =>
    change Conserved { s.flush std roomy with config } (arrived ++ [])
    rw [append_nil]
    have flushed := conserved.flush std roomy
    refine ⟨flushed.perm, flushed.total, ?_⟩
    rw [(flush_spec std s roomy).1]
    exact Nat.zero_le _

end Conserved

theorem run_conserved (config : SlidingWindowConfig T) (operations : List (Operation T)) :
    Conserved (run std config operations) (operations.flatMap Operation.content) := by
  induction operations using reverseRecOn with
  | nil => exact ⟨Perm.refl _, rfl, Nat.zero_le _⟩
  | append_singleton before last ih =>
    unfold run at ih ⊢
    rw [foldl_append, flatMap_append, flatMap_singleton]
    exact ih.step std last

/-- The chunks given to the consumer, the window and the buffer are a permutation of the entries
added so far, `total_processed` counts those given, and the window has at most `window_size`. After
`flush` the window and the buffer are empty. -/
theorem sorter_conserves_entries (config : SlidingWindowConfig T)
    (operations : List (Operation T)) :
    ((run std config operations).chunks.flatten ++ (run std config operations).sortedWindow ++
        (run std config operations).newEntries).Perm (operations.flatMap Operation.content) ∧
      (run std config operations).totalProcessed =
        (run std config operations).chunks.flatten.length ∧
      (run std config operations).sortedWindow.length ≤
        (run std config operations).config.windowSize ∧
      ∀ roomy, ((run std config operations).flush std roomy).sortedWindow = [] ∧
        ((run std config operations).flush std roomy).newEntries = [] := by
  have conserved := run_conserved std config operations
  exact ⟨conserved.perm, conserved.total, conserved.bounded, flush_spec std _⟩

/-- Between two calls less than a batch is buffered. -/
def Short (s : SlidingWindowSorter T) : Prop :=
  s.newEntries = [] ∨ s.newEntries.length < s.config.batchSize

theorem short_received (s : SlidingWindowSorter T) (roomy : Bool) :
    Short (if s.shouldProcess then s.processBatch std false roomy else s) := by
  split
  case isTrue => exact .inl (processBatch_pass std s false roomy).entries
  case isFalse few => exact .inr (by simpa [shouldProcess] using few)

theorem Short.step {s : SlidingWindowSorter T} (short : Short s) (operation : Operation T) :
    Short (s.step std operation) := by
  cases operation with
  | add delivery roomy =>
    cases delivery with
    | entry one => exact short_received std _ roomy
    | entries many =>
      change Short (s.addEntries std many roomy)
      unfold addEntries
      split
      · exact short
      · exact short_received std _ roomy
  | flush roomy | reconfigure _ roomy => exact .inl (flush_spec std s roomy).2

theorem run_short (config : SlidingWindowConfig T) (operations : List (Operation T)) :
    Short (run std config operations) := by
  induction operations using reverseRecOn with
  | nil => exact .inl rfl
  | append_singleton before last ih =>
    unfold run at ih ⊢
    rw [foldl_append]
    exact ih.step std last

/-- After any calls less than a batch is buffered, and the consumer has been given all entries but
at most a window and the rest of a batch. -/
theorem sorter_lag_bounded (config : SlidingWindowConfig T) (operations : List (Operation T)) :
    let s := run std config operations
    Short s ∧
      (operations.flatMap Operation.content).length ≤
        s.chunks.flatten.length + s.config.windowSize + (s.config.batchSize - 1) := by
  intro s
  have short : Short s := run_short std config operations
  have conserved : Conserved s _ := run_conserved std config operations
  have count := conserved.perm.length_eq
  have bounded := conserved.bounded
  rw [length_append, length_append] at count
  have buffered : s.newEntries.length ≤ s.config.batchSize - 1 := by
    rcases short with none | few
    · simp [none]
    · omega
  exact ⟨short, by omega⟩

end Menagerie.Bowerbird.SlidingWindowSorter
