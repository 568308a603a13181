import Mathlib.Data.List.Sort

/-!
# Strict weak orders and sorted lists

A comparator is a Boolean function that says when one element has to stand before another. The
results of the sorting algorithms of a standard library are fixed by their contracts: a sort is any
function that returns a sorted permutation, a merge takes the left element unless the right one has
to stand before it.
-/

namespace Menagerie.WeakOrder

open List

variable {α : Type}

/-- The comparator is a strict weak order. -/
structure StrictWeak (comp : α → α → Bool) : Prop where
  irrefl : ∀ a, comp a a = false
  trans : ∀ a b c, comp a b = true → comp b c = true → comp a c = true
  ties : ∀ a b c, comp a b = false → comp b a = false → comp b c = false → comp c b = false →
    comp a c = false

/-- No element has to stand before an earlier one. -/
def Sorted (comp : α → α → Bool) (list : List α) : Prop :=
  list.Pairwise (fun a b => comp b a = false)

/-- Every element comes after at most `bound` elements that it has to stand before. -/
def BoundedDisorder (comp : α → α → Bool) (bound : Nat) (stream : List α) : Prop :=
  ∀ before x after, stream = before ++ x :: after → before.countP (comp x) ≤ bound

section StrictWeak

variable {comp : α → α → Bool}

section

variable (order : StrictWeak comp) {a b : α}

include order

theorem StrictWeak.asymm (before : comp a b = true) :
    comp b a = false := by
  by_contra after
  rw [Bool.not_eq_false] at after
  have loop := order.trans a b a before after
  rw [order.irrefl] at loop
  cases loop

theorem StrictWeak.not_trans {c : α} (first : comp a b = false) (second : comp b c = false) :
    comp a c = false := by
  by_contra before
  rw [Bool.not_eq_false] at before
  have left : comp b a = false := by
    by_contra less
    rw [Bool.not_eq_false] at less
    rw [order.trans b a c less before] at second
    cases second
  have right : comp c b = false := by
    by_contra less
    rw [Bool.not_eq_false] at less
    rw [order.trans a c b before less] at first
    cases first
  rw [order.ties a b c first left second right] at before
  cases before

/-- What stands before an element stands before all that need not precede it. -/
theorem StrictWeak.before_of_not {c : α} (before : comp a b = true) (later : comp c b = false) :
    comp a c = true := by
  by_contra other
  rw [Bool.not_eq_true] at other
  rw [order.not_trans other later] at before
  cases before

end

end StrictWeak

/-- The contract of `std::sort`. -/
structure SortContract (α : Type) where
  sort : (α → α → Bool) → List α → List α
  perm : ∀ comp list, StrictWeak comp → (sort comp list).Perm list
  sorted : ∀ comp list, StrictWeak comp → Sorted comp (sort comp list)

/-- The result of `std::upper_bound` on a sorted list. -/
def upperBound (comp : α → α → Bool) (list : List α) (key : α) : Nat :=
  list.findIdx (comp key)

/-- The result of `std::merge`. -/
def merge (comp : α → α → Bool) (left right : List α) : List α :=
  left.merge right (fun a b => !comp b a)

section Algorithms

variable {comp : α → α → Bool}

/-- The order as `List.merge` wants it. -/
theorem StrictWeak.le_trans (order : StrictWeak comp) (a b c : α) (first : (!comp b a) = true)
    (second : (!comp c b) = true) : (!comp c a) = true := by
  rw [Bool.not_eq_true'] at first second ⊢
  exact order.not_trans second first

theorem StrictWeak.le_total (order : StrictWeak comp) (a b : α) :
    (!comp b a || !comp a b) = true := by
  cases before : comp b a with
  | false => rfl
  | true => rw [order.asymm before, Bool.not_false, Bool.or_true]

theorem sorted_iff {list : List α} :
    Sorted comp list ↔ list.Pairwise (fun a b => (!comp b a) = true) := by
  simp only [Sorted, Bool.not_eq_true']

theorem StrictWeak.merge_sorted (order : StrictWeak comp) {left right : List α}
    (first : Sorted comp left) (second : Sorted comp right) :
    Sorted comp (merge comp left right) := by
  rw [sorted_iff] at first second ⊢
  exact pairwise_merge order.le_trans order.le_total left right first second

theorem merge_perm (left right : List α) : (merge comp left right).Perm (left ++ right) :=
  merge_perm_append _

/-- A sorting function, by merging. -/
def mergeSorting : SortContract α where
  sort comp list := list.mergeSort (fun a b => !comp b a)
  perm _ _ _ := List.mergeSort_perm _ _
  sorted comp list order := by
    rw [sorted_iff]
    exact List.pairwise_mergeSort order.le_trans order.le_total list

theorem upperBound_before {list : List α} {key a : α}
    (member : a ∈ list.take (upperBound comp list key)) : comp key a = false := by
  obtain ⟨index, bound, found⟩ := mem_take_iff_getElem.mp member
  rw [← found]
  have earlier : index < upperBound comp list key := by omega
  exact Bool.not_eq_true _ ▸ not_of_lt_findIdx earlier

theorem StrictWeak.upperBound_behind (order : StrictWeak comp) {list : List α} {key b : α}
    (sorted : Sorted comp list) (member : b ∈ list.drop (upperBound comp list key)) :
    comp key b = true := by
  have right : Sorted comp (list.drop (upperBound comp list key)) := sorted.drop
  cases rest : list.drop (upperBound comp list key) with
  | nil =>
    rw [rest] at member
    cases member
  | cons head tail =>
    have inside : upperBound comp list key < list.length := by
      by_contra outside
      rw [drop_of_length_le (Nat.le_of_not_lt outside)] at rest
      cases rest
    have first : comp key head = true := by
      have here : list.get ⟨upperBound comp list key, inside⟩ = head := by
        have shifted := drop_eq_getElem_cons inside
        rw [rest] at shifted
        exact (cons.inj shifted).1.symm
      rw [← here]
      exact findIdx_getElem
    rw [rest] at member right
    rcases mem_cons.mp member with rfl | later
    · exact first
    · exact order.before_of_not first ((pairwise_cons.mp right).1 b later)

/-- Inserting behind everything that need not stand behind. -/
theorem StrictWeak.insert_sorted (order : StrictWeak comp) {list : List α} (key : α)
    (sorted : Sorted comp list) :
    Sorted comp (list.take (upperBound comp list key) ++
      key :: list.drop (upperBound comp list key)) := by
  have split : Sorted comp (list.take (upperBound comp list key) ++
      list.drop (upperBound comp list key)) := by
    rw [take_append_drop]
    exact sorted
  unfold Sorted at split ⊢
  rw [pairwise_append] at split ⊢
  obtain ⟨left, right, across⟩ := split
  have behind : ∀ b ∈ list.drop (upperBound comp list key), comp b key = false :=
    fun b member => order.asymm (order.upperBound_behind sorted member)
  refine ⟨left, pairwise_cons.mpr ⟨behind, right⟩, ?_⟩
  intro a here b there
  rcases mem_cons.mp there with rfl | later
  · exact upperBound_before here
  · exact across a here b later

theorem insert_perm (list : List α) (index : Nat) (key : α) :
    (list.take index ++ key :: list.drop index).Perm (key :: list) := by
  have moved : (list.take index ++ key :: list.drop index).Perm
      (key :: (list.take index ++ list.drop index)) := perm_middle
  rw [take_append_drop] at moved
  exact moved

theorem Sorted.cut {list : List α} (sorted : Sorted comp list) (index : Nat) :
    Sorted comp (list.take index) ∧ Sorted comp (list.drop index) ∧
      ∀ a ∈ list.take index, ∀ b ∈ list.drop index, comp b a = false := by
  unfold Sorted at sorted ⊢
  rw [← take_append_drop index list, pairwise_append] at sorted
  exact sorted

theorem Sorted.append {left right : List α} (first : Sorted comp left) (second : Sorted comp right)
    (across : ∀ a ∈ left, ∀ b ∈ right, comp b a = false) : Sorted comp (left ++ right) :=
  pairwise_append.mpr ⟨first, second, across⟩

/-- Few elements of the start have to stand after an element of the rest. -/
theorem BoundedDisorder.late {bound : Nat} {start rest : List α}
    (disorder : BoundedDisorder comp bound (start ++ rest)) {x : α} (member : x ∈ rest) :
    start.countP (comp x) ≤ bound := by
  obtain ⟨before, after, split⟩ := append_of_mem member
  have total : (start ++ before).countP (comp x) ≤ bound := by
    refine disorder (start ++ before) x after ?_
    rw [split, append_assoc]
  rw [countP_append] at total
  omega

theorem BoundedDisorder.start {bound : Nat} {start rest : List α}
    (disorder : BoundedDisorder comp bound (start ++ rest)) : BoundedDisorder comp bound start := by
  intro before x after split
  refine disorder before x (after ++ rest) ?_
  rw [split, append_assoc, cons_append]

/-- What stands before an element of the front stands before the rest as well. -/
theorem StrictWeak.count_beyond (order : StrictWeak comp) {list : List α}
    (sorted : Sorted comp list) {index : Nat} {x e : α} (member : e ∈ list.take index)
    (before : comp x e = true) : (list.drop index).length < list.countP (comp x) := by
  obtain ⟨-, -, across⟩ := sorted.cut index
  have rest : (list.drop index).countP (comp x) = (list.drop index).length := by
    rw [countP_eq_length]
    intro r later
    exact order.before_of_not before (across e member r later)
  have front : 0 < (list.take index).countP (comp x) := by
    rw [countP_pos_iff]
    exact ⟨e, member, before⟩
  have split : list.countP (comp x) =
      (list.take index).countP (comp x) + (list.drop index).countP (comp x) := by
    rw [← countP_append, take_append_drop]
  omega

end Algorithms

section Stable

variable {comp : α → α → Bool}

/-- Neither element has to stand before the other. -/
def tied (comp : α → α → Bool) (a b : α) : Bool :=
  !comp a b && !comp b a

/-- Elements that are tied keep their order. -/
structure StableSort (comp : α → α → Bool) (list result : List α) : Prop where
  perm : result.Perm list
  sorted : Sorted comp result
  stable : ∀ x, result.filter (tied comp x) = list.filter (tied comp x)

theorem tied_iff {a b : α} : tied comp a b = true ↔ comp a b = false ∧ comp b a = false := by
  rw [tied, Bool.and_eq_true, Bool.not_eq_true', Bool.not_eq_true']

/-- An element and one behind it are not tied with a third. -/
theorem StrictWeak.not_tied (order : StrictWeak comp) {x a b : α} (here : tied comp x a = true)
    (before : comp a b = true) : tied comp x b = false := by
  by_contra also
  rw [Bool.not_eq_false] at also
  rw [tied_iff] at here also
  rw [order.ties a x b here.2 here.1 also.1 also.2] at before
  cases before

theorem StableSort.unique (order : StrictWeak comp) {list result other : List α}
    (first : StableSort comp list result) (second : StableSort comp list other) :
    result = other := by
  have perm : result.Perm other := first.perm.trans second.perm.symm
  have same : ∀ x, result.filter (tied comp x) = other.filter (tied comp x) := by
    intro x
    rw [first.stable, second.stable]
  have left := first.sorted
  have right := second.sorted
  clear first second
  induction result generalizing other with
  | nil => exact (nil_perm.mp perm).symm
  | cons a rest ih =>
    cases other with
    | nil => exact absurd perm.symm (not_perm_nil_cons a rest)
    | cons b others =>
      obtain ⟨lower, leftRest⟩ := pairwise_cons.mp left
      obtain ⟨above, rightRest⟩ := pairwise_cons.mp right
      -- The two heads are tied, so both are the first element of the same class.
      have below : comp b a = false := by
        rcases mem_cons.mp (perm.mem_iff.mpr mem_cons_self) with rfl | later
        · exact order.irrefl _
        · exact lower b later
      have beyond : comp a b = false := by
        rcases mem_cons.mp (perm.mem_iff.mp mem_cons_self) with rfl | later
        · exact order.irrefl _
        · exact above a later
      have mine : tied comp a a = true := tied_iff.mpr ⟨order.irrefl a, order.irrefl a⟩
      have heads := same a
      rw [filter_cons_of_pos mine, filter_cons_of_pos (tied_iff.mpr ⟨beyond, below⟩)]
        at heads
      obtain rfl := (cons.inj heads).1
      refine congrArg (a :: ·) (ih perm.cons_inv ?_ leftRest rightRest)
      intro x
      have classes := same x
      rw [filter_cons, filter_cons] at classes
      split_ifs at classes
      · exact (cons.inj classes).2
      · exact classes

/-- A stable sort. -/
def stableSort (comp : α → α → Bool) (list : List α) : List α :=
  list.mergeSort (fun a b => !comp b a)

section

variable (order : StrictWeak comp)

include order

theorem StrictWeak.stableSort_spec (list : List α) :
    StableSort comp list (stableSort comp list) where
  perm := mergeSort_perm _ _
  sorted := mergeSorting.sorted comp list order
  stable x := by
    have level : (list.filter (tied comp x)).Pairwise (fun a b => (!comp b a) = true) := by
      rw [pairwise_filter]
      refine pairwise_of_forall ?_
      intro a b left right
      rw [tied_iff] at left right
      rw [order.ties b x a right.2 right.1 left.1 left.2, Bool.not_false]
    have inside := (sublist_mergeSort order.le_trans order.le_total level
      filter_sublist).filter (tied comp x)
    rw [filter_filter] at inside
    simp only [Bool.and_self] at inside
    have size := ((mergeSort_perm list (fun a b => !comp b a)).filter (tied comp x)).length_eq
    exact (inside.eq_of_length size.symm).symm

/-- Merging keeps every class in order. -/
theorem StrictWeak.merge_filter (x : α) (left right : List α) (ascending : Sorted comp left) :
    (merge comp left right).filter (tied comp x) =
      left.filter (tied comp x) ++ right.filter (tied comp x) := by
  unfold merge
  induction left generalizing right with
  | nil => rw [nil_merge, filter_nil, nil_append]
  | cons a left ih =>
    obtain ⟨lower, rest⟩ := pairwise_cons.mp ascending
    induction right with
    | nil => rw [merge_right, filter_nil, append_nil]
    | cons b right ihRight =>
      rw [cons_merge_cons]
      split_ifs with front
      · rw [filter_cons, ih (b :: right) rest, filter_cons (x := a)]
        split_ifs
        · rw [cons_append]
        · rfl
      · rw [Bool.not_eq_true', Bool.not_eq_false] at front
        rw [filter_cons, ihRight, filter_cons (x := b)]
        split_ifs with here
        · -- The right element stands before all of the left list, which has none of its class.
          have none : (a :: left).filter (tied comp x) = [] := by
            rw [filter_eq_nil_iff]
            intro c member
            rw [Bool.not_eq_true]
            rcases mem_cons.mp member with rfl | later
            · exact order.not_tied here front
            · exact order.not_tied here (order.before_of_not front (lower c later))
          rw [none, nil_append, nil_append]
        · rfl

theorem StableSort.merge {list more result other : List α} (first : StableSort comp list result)
    (second : StableSort comp more other) :
    StableSort comp (list ++ more) (merge comp result other) where
  perm := (merge_perm result other).trans (first.perm.append second.perm)
  sorted := order.merge_sorted first.sorted second.sorted
  stable x := by
    rw [order.merge_filter x result other first.sorted, first.stable, second.stable,
      filter_append]

theorem StableSort.insert {list result : List α} (before : StableSort comp list result) (key : α) :
    StableSort comp (list ++ [key]) (result.take (upperBound comp result key) ++
      key :: result.drop (upperBound comp result key)) where
  perm := by
    refine (insert_perm result _ key).trans ?_
    exact (before.perm.cons key).trans (perm_append_singleton key list).symm
  sorted := order.insert_sorted key before.sorted
  stable x := by
    rw [filter_append, filter_append, ← before.stable x, filter_cons,
      filter_cons, filter_nil]
    have split : result.filter (tied comp x) =
        (result.take (upperBound comp result key)).filter (tied comp x) ++
          (result.drop (upperBound comp result key)).filter (tied comp x) := by
      rw [← filter_append, take_append_drop]
    rw [split]
    split_ifs with here
    · -- The key stands before what follows it.
      have none : (result.drop (upperBound comp result key)).filter (tied comp x) = [] := by
        rw [filter_eq_nil_iff]
        intro b member
        rw [Bool.not_eq_true]
        exact order.not_tied here (order.upperBound_behind before.sorted member)
      rw [none, append_nil]
    · rw [append_nil]

end

theorem Sorted.stableSort {list : List α} (sorted : Sorted comp list) :
    StableSort comp list list :=
  ⟨Perm.refl _, sorted, fun _ => rfl⟩

end Stable

end Menagerie.WeakOrder
