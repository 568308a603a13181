import Menagerie.Bowerbird.Conservation

/-!
# The sorter sorts boundedly disordered streams

When a pass gives entries to the consumer, at least `window_size - batch_size` entries stay behind
that need not stand before them. An entry that arrives later and has to stand before an emitted one
would have to stand before all of these as well, so it arrives too late for the bound on the
disorder of the stream.
-/

namespace Menagerie.Bowerbird.SlidingWindowSorter

open WeakOrder List

variable {T : Type} (std : SortContract T) {config : SlidingWindowConfig T}

/-- What holds between two calls while the sorter is only added to. -/
structure Ordered (config : SlidingWindowConfig T) (s : SlidingWindowSorter T) (arrived : List T) :
    Prop where
  same : s.config = config
  conserved : Conserved s arrived
  window : Sorted config.comparator s.sortedWindow
  emitted : Sorted config.comparator s.chunks.flatten
  ahead : ∀ e ∈ s.chunks.flatten, ∀ later ∈ s.sortedWindow ++ s.newEntries,
    config.comparator later e = false
  surpassed : ∀ e ∈ s.chunks.flatten, ∀ x, config.comparator x e = true →
    config.windowSize - config.batchSize < arrived.countP (config.comparator x)

section Ordered

variable {s : SlidingWindowSorter T} {arrived : List T}

section

variable (ordered : Ordered config s arrived)

include ordered

theorem Ordered.receive {entries : List T}
    (disorder : BoundedDisorder config.comparator (config.windowSize - config.batchSize)
      (arrived ++ entries)) :
    Ordered config { s with newEntries := s.newEntries ++ entries } (arrived ++ entries) where
  same := ordered.same
  conserved := ordered.conserved.receive entries
  window := ordered.window
  emitted := ordered.emitted
  ahead e member later there := by
    rw [← append_assoc] at there
    rcases mem_append.mp there with old | new
    · exact ordered.ahead e member later old
    · by_contra before
      rw [Bool.not_eq_false] at before
      have many := ordered.surpassed e member later before
      have few := disorder.late new
      omega
  surpassed e member x before := by
    have many := ordered.surpassed e member x before
    rw [countP_append]
    omega

theorem Ordered.merged {window : List T} (perm : window.Perm (s.sortedWindow ++ s.newEntries)) :
    ∀ e ∈ s.chunks.flatten, ∀ later ∈ window, config.comparator later e = false :=
  fun e member later there => ordered.ahead e member later (perm.mem_iff.mp there)

theorem Ordered.gathered (sorting : config.enableSorting = true) :
    Sorted config.comparator (s.gathered std) := by
  obtain ⟨rfl, -, window, -, -, -⟩ := ordered
  exact gathered_sorted std sorting window

end

/-- A pass that emits something leaves enough entries behind. -/
theorem passed_leaves (fits : s.config.batchSize ≤ s.config.windowSize) {window : List T}
    (emits : 0 < s.passed false window) :
    s.config.windowSize - s.config.batchSize ≤ (window.drop (s.passed false window)).length := by
  unfold passed at emits ⊢
  rw [length_drop]
  simp only [Bool.false_eq_true, if_false] at emits ⊢
  split_ifs at emits ⊢
  · omega
  · omega

section

variable (ordered : Ordered config s arrived) (sorting : config.enableSorting = true)

include ordered sorting

theorem Ordered.process (fits : config.batchSize ≤ config.windowSize) (roomy : Bool) :
    Ordered config (s.processBatch std false roomy) arrived := by
  have conserved := ordered.conserved.process std false roomy
  have pass := processBatch_pass std s false roomy
  have ascending := ordered.gathered std sorting
  have before := ordered.merged (gathered_perm std s)
  obtain ⟨front, back, across⟩ := ascending.cut (s.passed false (s.gathered std))
  have chunks : (s.processBatch std false roomy).chunks.flatten = s.chunks.flatten ++
      (s.gathered std).take (s.passed false (s.gathered std)) := by
    rw [pass.chunks, flatten_append, emission_flatten]
  refine ⟨pass.config.trans ordered.same, conserved, ?_, ?_, ?_, ?_⟩
  · rw [pass.window]
    exact back
  · rw [chunks]
    refine ordered.emitted.append front ?_
    exact fun e member later there => before e member later (mem_of_mem_take there)
  · rw [chunks, pass.window, pass.entries, append_nil]
    intro e member later there
    rcases mem_append.mp member with old | new
    · exact before e old later (mem_of_mem_drop there)
    · exact across e new later there
  · rw [chunks]
    intro e member x less
    rcases mem_append.mp member with old | new
    · exact ordered.surpassed e old x less
    · have emits : 0 < s.passed false (s.gathered std) := by
        by_contra nothing
        have zero : s.passed false (s.gathered std) = 0 := by omega
        rw [zero, take_zero] at new
        cases new
      have stays := passed_leaves (by rw [ordered.same]; exact fits) emits
      rw [ordered.same] at stays
      have beyond := config.ordered.count_beyond ascending new less
      have inside : (s.gathered std).countP (config.comparator x) ≤
          arrived.countP (config.comparator x) := by
        rw [(gathered_perm std s).countP_eq, ← ordered.conserved.perm.countP_eq]
        simp only [countP_append]
        omega
      omega

theorem Ordered.deliver (fits : config.batchSize ≤ config.windowSize) {delivery : Delivery T}
    (roomy : Bool)
    (disorder : BoundedDisorder config.comparator (config.windowSize - config.batchSize)
      (arrived ++ delivery.content)) :
    Ordered config (s.deliver std delivery roomy) (arrived ++ delivery.content) := by
  have received := ordered.receive disorder
  rcases deliver_eq std s delivery roomy with ⟨same, empty⟩ | same | same
  · rw [same, empty, append_nil]
    exact ordered
  · rw [same]
    exact received
  · rw [same]
    exact received.process std sorting fits roomy

/-- After `flush` everything has been emitted in order. -/
theorem Ordered.flush (roomy : Bool) :
    Sorted config.comparator (s.flush std roomy).chunks.flatten := by
  unfold SlidingWindowSorter.flush
  split_ifs
  · exact ordered.emitted
  · have pass := processBatch_pass std s true roomy
    have all : s.passed true (s.gathered std) = (s.gathered std).length := rfl
    rw [pass.chunks, flatten_append, emission_flatten, all, take_length]
    exact ordered.emitted.append (ordered.gathered std sorting)
      (ordered.merged (gathered_perm std s))

end

end Ordered

/-- A sequence of adds, with the choices of the allocator. -/
def adds (deliveries : List (Delivery T × Bool)) : List (Operation T) :=
  deliveries.map fun delivery => .add delivery.1 delivery.2

theorem run_ordered (sorting : config.enableSorting = true)
    (fits : config.batchSize ≤ config.windowSize) (deliveries : List (Delivery T × Bool))
    (disorder : BoundedDisorder config.comparator (config.windowSize - config.batchSize)
      (deliveries.flatMap fun delivery => delivery.1.content)) :
    Ordered config (run std config (adds deliveries))
      (deliveries.flatMap fun delivery => delivery.1.content) := by
  induction deliveries using reverseRecOn with
  | nil =>
    exact ⟨rfl, ⟨Perm.refl _, rfl, Nat.zero_le _⟩, Pairwise.nil, Pairwise.nil,
      nofun, nofun⟩
  | append_singleton before last ih =>
    unfold run adds at ih ⊢
    rw [flatMap_append, flatMap_singleton] at disorder ⊢
    rw [map_append, foldl_append]
    exact (ih disorder.start).deliver std sorting fits last.2 disorder

/-- With sorting enabled and `batch_size` at most `window_size`, a stream in which every entry comes
after at most `window_size - batch_size` entries that it has to stand before is emitted in order by
adds and one final `flush`. -/
theorem sorter_sorts_bounded_disorder (sorting : config.enableSorting = true)
    (fits : config.batchSize ≤ config.windowSize) (deliveries : List (Delivery T × Bool))
    (disorder : BoundedDisorder config.comparator (config.windowSize - config.batchSize)
      (deliveries.flatMap fun delivery => delivery.1.content)) (roomy : Bool) :
    Sorted config.comparator
      ((run std config (adds deliveries)).flush std roomy).chunks.flatten :=
  (run_ordered std sorting fits deliveries disorder).flush std sorting roomy

theorem ascending_strictWeak : StrictWeak (fun a b : Nat => decide (a < b)) where
  irrefl a := by simp
  trans a b c first second := by
    rw [decide_eq_true_eq] at first second ⊢
    omega
  ties a b c first second third fourth := by
    rw [decide_eq_false_iff_not] at first second third fourth ⊢
    omega

/-- A window of two entries and batches of one. -/
def narrow : SlidingWindowConfig Nat where
  windowSize := 2
  batchSize := 1
  comparator a b := decide (a < b)
  ordered := ascending_strictWeak

/-- The stream 2, 1, 3 through a window of two entries. -/
theorem sorter_sorts_bounded_disorder_narrow :
    BoundedDisorder narrow.comparator (narrow.windowSize - narrow.batchSize) [2, 1, 3] ∧
      Sorted narrow.comparator
        ((run mergeSorting narrow (adds [(.entry 2, true), (.entries [1, 3], false)])).flush
          mergeSorting true).chunks.flatten := by
  have disorder :
      BoundedDisorder narrow.comparator (narrow.windowSize - narrow.batchSize) [2, 1, 3] := by
    intro before x after split
    rcases before with _ | ⟨a, _ | ⟨b, _ | ⟨c, rest⟩⟩⟩
    · exact Nat.zero_le _
    · exact countP_le_length
    · cases split
      decide
    · simp at split
  refine ⟨disorder, ?_⟩
  exact sorter_sorts_bounded_disorder mergeSorting rfl (by decide) _ disorder true

end Menagerie.Bowerbird.SlidingWindowSorter
