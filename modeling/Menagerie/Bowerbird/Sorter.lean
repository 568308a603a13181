import Menagerie.Library.WeakOrder

/-!
# The sliding window sorter

`SlidingWindowSorter` collects entries in a buffer, merges the buffer into a sorted window and gives
the front of the window to its consumer. `std::sort` is any function with its contract. Whether the
capacity of the window suffices for a merge in place is decided by the allocator.
-/

namespace Menagerie.Bowerbird

open WeakOrder

/-- `SlidingWindowConfig`, with a comparator for `std::sort`. -/
structure SlidingWindowConfig (T : Type) where
  windowSize : Nat := 1024
  batchSize : Nat := 512
  enableSorting : Bool := true
  comparator : T → T → Bool
  useInplaceMerge : Bool := true
  mergeThreshold : Nat := 64
  ordered : StrictWeak comparator

/-- `SlidingWindowSorter` between calls, where `merge_buffer_` is empty. -/
structure SlidingWindowSorter (T : Type) where
  config : SlidingWindowConfig T
  sortedWindow : List T := []
  newEntries : List T := []
  totalProcessed : Nat := 0
  mergeOperations : Nat := 0
  sortOperations : Nat := 0
  chunks : List (List T) := []

namespace SlidingWindowSorter

variable {T : Type}

/-- `insertion_sort` of a range that is not empty. -/
def insertionSort (comp : T → T → Bool) : List T → List T
  | [] => []
  | first :: rest =>
    rest.foldl (fun sorted key => sorted.take (upperBound comp sorted key) ++
      key :: sorted.drop (upperBound comp sorted key)) [first]

/-- `should_process`. -/
def shouldProcess (s : SlidingWindowSorter T) : Bool :=
  s.config.batchSize ≤ s.newEntries.length

/-- `perform_inplace_merge`: append, then `std::inplace_merge`. -/
def performInplaceMerge (s : SlidingWindowSorter T) : SlidingWindowSorter T :=
  let oldSize := s.sortedWindow.length
  let appended := s.sortedWindow ++ s.newEntries
  { s with
    sortedWindow := merge s.config.comparator (appended.take oldSize) (appended.drop oldSize) }

/-- `perform_standard_merge`. -/
def performStandardMerge (s : SlidingWindowSorter T) : SlidingWindowSorter T :=
  { s with sortedWindow := merge s.config.comparator s.sortedWindow s.newEntries }

/-- `merge_with_window`; `roomy` is the answer of `can_use_inplace_merge`. -/
def mergeWithWindow (s : SlidingWindowSorter T) (roomy : Bool) : SlidingWindowSorter T :=
  let merged :=
    if s.config.useInplaceMerge && roomy then s.performInplaceMerge else s.performStandardMerge
  { merged with newEntries := [] }

variable (std : SortContract T)

/-- The first part of `sort_and_merge`: sort the new entries. -/
def sortNewEntries (s : SlidingWindowSorter T) : List T :=
  if s.newEntries.length ≤ s.config.mergeThreshold then
    insertionSort s.config.comparator s.newEntries
  else std.sort s.config.comparator s.newEntries

/-- `sort_and_merge`. -/
def sortAndMerge (s : SlidingWindowSorter T) (roomy : Bool) : SlidingWindowSorter T :=
  if s.newEntries = [] then s
  else
    let sorted :=
      { s with newEntries := s.sortNewEntries std, sortOperations := s.sortOperations + 1 }
    if sorted.sortedWindow = [] then
      { sorted with sortedWindow := sorted.newEntries, newEntries := [] }
    else
      let merged := sorted.mergeWithWindow roomy
      { merged with mergeOperations := merged.mergeOperations + 1 }

/-- `calculate_output_count`. -/
def calculateOutputCount (s : SlidingWindowSorter T) : Nat :=
  if s.sortedWindow.length < s.config.windowSize then 0
  else max (s.sortedWindow.length - s.config.windowSize) s.config.batchSize

/-- `output_entries`. -/
def outputEntries (s : SlidingWindowSorter T) (count : Nat) : SlidingWindowSorter T :=
  if count = 0 ∨ s.sortedWindow = [] then s
  else
    let output := s.sortedWindow.take (min count s.sortedWindow.length)
    { s with
      sortedWindow := s.sortedWindow.drop (min count s.sortedWindow.length)
      chunks := s.chunks ++ [output]
      totalProcessed := s.totalProcessed + output.length }

/-- `maintain_window_size`. -/
def maintainWindowSize (s : SlidingWindowSorter T) : SlidingWindowSorter T :=
  if s.config.windowSize < s.sortedWindow.length then
    { s with sortedWindow := s.sortedWindow.drop (s.sortedWindow.length - s.config.windowSize) }
  else s

/-- The first part of `process_batch`: the buffer goes to the window. -/
def gather (s : SlidingWindowSorter T) (roomy : Bool) : SlidingWindowSorter T :=
  if s.config.enableSorting then s.sortAndMerge std roomy
  else { s with sortedWindow := s.sortedWindow ++ s.newEntries, newEntries := [] }

/-- `process_batch`. -/
def processBatch (s : SlidingWindowSorter T) (forceAll roomy : Bool) : SlidingWindowSorter T :=
  if s.newEntries = [] ∧ s.sortedWindow = [] then s
  else
    let gathered := s.gather std roomy
    let outputCount :=
      if forceAll then gathered.sortedWindow.length else gathered.calculateOutputCount
    let output := if 0 < outputCount then gathered.outputEntries outputCount else gathered
    output.maintainWindowSize

/-- `add_entries`. -/
def addEntries (s : SlidingWindowSorter T) (entries : List T) (roomy : Bool) :
    SlidingWindowSorter T :=
  if entries = [] then s
  else
    let received := { s with newEntries := s.newEntries ++ entries }
    if received.shouldProcess then received.processBatch std false roomy else received

/-- `add_entry`. -/
def addEntry (s : SlidingWindowSorter T) (entry : T) (roomy : Bool) : SlidingWindowSorter T :=
  let received := { s with newEntries := s.newEntries ++ [entry] }
  if received.shouldProcess then received.processBatch std false roomy else received

/-- `flush`. -/
def flush (s : SlidingWindowSorter T) (roomy : Bool) : SlidingWindowSorter T :=
  if s.newEntries = [] ∧ s.sortedWindow = [] then s else s.processBatch std true roomy

/-- `reconfigure`. -/
def reconfigure (s : SlidingWindowSorter T) (config : SlidingWindowConfig T) (roomy : Bool) :
    SlidingWindowSorter T :=
  { s.flush std roomy with config }

end SlidingWindowSorter

/-- A call that adds entries. -/
inductive Delivery (T : Type)
  | entry (entry : T)
  | entries (entries : List T)

/-- The entries of a call. -/
def Delivery.content {T : Type} : Delivery T → List T
  | .entry one => [one]
  | .entries many => many

/-- The public calls, with the choices of the allocator. -/
inductive Operation (T : Type)
  | add (delivery : Delivery T) (roomy : Bool)
  | flush (roomy : Bool)
  | reconfigure (config : SlidingWindowConfig T) (roomy : Bool)

/-- The entries that a call adds. -/
def Operation.content {T : Type} : Operation T → List T
  | .add delivery _ => delivery.content
  | .flush _ | .reconfigure _ _ => []

namespace SlidingWindowSorter

variable {T : Type} (std : SortContract T)

/-- A call. -/
def deliver (s : SlidingWindowSorter T) (delivery : Delivery T) (roomy : Bool) :
    SlidingWindowSorter T :=
  match delivery with
  | .entry entry => s.addEntry std entry roomy
  | .entries entries => s.addEntries std entries roomy

/-- One call. -/
def step (s : SlidingWindowSorter T) : Operation T → SlidingWindowSorter T
  | .add delivery roomy => s.deliver std delivery roomy
  | .flush roomy => s.flush std roomy
  | .reconfigure config roomy => s.reconfigure std config roomy

/-- A sequence of calls on a new sorter. -/
def run (config : SlidingWindowConfig T) (operations : List (Operation T)) :
    SlidingWindowSorter T :=
  operations.foldl (step std) { config }

end SlidingWindowSorter

end Menagerie.Bowerbird
