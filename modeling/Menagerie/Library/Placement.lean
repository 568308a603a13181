import Mathlib.Algebra.BigOperators.Group.Finset.Basic

/-!
# Exclusive placement of items

A component that hands items from one owner to another is described by a relation between
places and items. `Allotted` says that every item of a finite domain is at exactly one place.
A `Transfer` moves some of the items of one place to another and touches nothing else; it
keeps the allotment and changes the size of a class of places by the number of items moved.
-/

namespace Menagerie.Placement

variable {Item Place Kind : Type}

/-- Nothing is at two places. -/
def Unshared (holds : Place → Item → Prop) : Prop :=
  ∀ item left right, holds left item → holds right item → left = right

section Unshared

variable {before after : Place → Item → Prop} {source target : Place} {item : Item}

theorem Unshared.keep (unshared : Unshared before)
    (kept : ∀ place other, after place other → before place other) : Unshared after :=
  fun item left right first second =>
    unshared item left right (kept left item first) (kept right item second)

theorem Unshared.arrive (unshared : Unshared before)
    (vacated : ∀ place, before place item → ¬ after place item)
    (kept : ∀ place other, after place other →
      before place other ∨ place = target ∧ other = item) : Unshared after := by
  intro other left right first second
  rcases kept left other first with here | ⟨rfl, rfl⟩
  · rcases kept right other second with there | ⟨rfl, rfl⟩
    · exact unshared other left right here there
    · exact absurd first (vacated left here)
  · rcases kept right other second with there | ⟨rfl, -⟩
    · exact absurd second (vacated right there)
    · rfl

theorem Unshared.handOver (unshared : Unshared before) (present : before source item)
    (gone : ¬ after source item)
    (kept : ∀ place other, after place other →
      before place other ∨ place = target ∧ other = item) : Unshared after := by
  refine unshared.arrive ?_ kept
  intro place held
  rw [unshared item place source held present]
  exact gone

end Unshared

/-- Every item of the domain is at exactly one place, and nothing else is. -/
structure Allotted (domain : Item → Prop) (holds : Place → Item → Prop) : Prop where
  inside : ∀ place item, holds place item → domain item
  covered : ∀ item, domain item → ∃ place, holds place item
  unshared : Unshared holds

theorem Allotted.exists_unique {domain : Item → Prop} {holds : Place → Item → Prop}
    (allotted : Allotted domain holds) {item : Item} (known : domain item) :
    ∃! place, holds place item := by
  obtain ⟨place, held⟩ := allotted.covered item known
  exact ⟨place, held, fun other also => allotted.unshared item other place also held⟩

theorem Allotted.congr {domain : Item → Prop} {before after : Place → Item → Prop}
    (allotted : Allotted domain before)
    (same : ∀ place item, after place item ↔ before place item) :
    Allotted domain after := by
  have equal : after = before := by
    funext place item
    exact propext (same place item)
  rw [equal]
  exact allotted

/-- The items with `moved` go from `source` to `target`; the other places stay. -/
structure Transfer (before after : Place → Item → Prop) (source target : Place)
    (moved : Item → Prop) : Prop where
  distinct : source ≠ target
  present : ∀ item, moved item → before source item
  gone : ∀ item, after source item ↔ before source item ∧ ¬ moved item
  arrived : ∀ item, after target item ↔ moved item ∨ before target item
  others : ∀ place, place ≠ source → place ≠ target → ∀ item,
    after place item ↔ before place item

namespace Transfer

variable {before after : Place → Item → Prop} {source target : Place} {moved : Item → Prop}

theorem one [DecidableEq Item] {item : Item} (distinct : source ≠ target)
    (present : before source item)
    (gone : ∀ other, after source other ↔ before source other ∧ other ≠ item)
    (arrived : ∀ other, after target other ↔ other = item ∨ before target other)
    (others : ∀ place, place ≠ source → place ≠ target → ∀ other,
      after place other ↔ before place other) :
    Transfer before after source target (· ∈ ({item} : Finset Item)) where
  distinct := distinct
  present other moves := by
    rw [Finset.mem_singleton.mp moves]
    exact present
  gone other := by
    rw [gone other, Finset.mem_singleton]
  arrived other := by
    rw [arrived other, Finset.mem_singleton]
  others := others

section

variable (transfer : Transfer before after source target moved)

include transfer

theorem moved_iff (unshared : Unshared before) {item : Item} (moves : moved item) (place : Place) :
    after place item ↔ place = target := by
  constructor
  · intro held
    by_contra other
    by_cases same : place = source
    · subst same
      exact ((transfer.gone item).mp held).2 moves
    · have still := (transfer.others place same other item).mp held
      exact same (unshared item place source still (transfer.present item moves))
  · rintro rfl
    exact (transfer.arrived item).mpr (.inl moves)

theorem unmoved_iff {item : Item} (stays : ¬ moved item) (place : Place) :
    after place item ↔ before place item := by
  by_cases first : place = source
  · subst first
    rw [transfer.gone item]
    exact and_iff_left stays
  · by_cases second : place = target
    · subst second
      rw [transfer.arrived item]
      exact or_iff_right stays
    · exact transfer.others place first second item

theorem allotted {domain : Item → Prop} (start : Allotted domain before) :
    Allotted domain after where
  inside place item held := by
    by_cases moves : moved item
    · exact start.inside source item (transfer.present item moves)
    · exact start.inside place item ((transfer.unmoved_iff moves place).mp held)
  covered item known := by
    by_cases moves : moved item
    · exact ⟨target, (transfer.arrived item).mpr (.inl moves)⟩
    · obtain ⟨place, held⟩ := start.covered item known
      exact ⟨place, (transfer.unmoved_iff moves place).mpr held⟩
  unshared item left right first second := by
    by_cases moves : moved item
    · rw [(transfer.moved_iff start.unshared moves left).mp first,
        (transfer.moved_iff start.unshared moves right).mp second]
    · exact start.unshared item left right ((transfer.unmoved_iff moves left).mp first)
        ((transfer.unmoved_iff moves right).mp second)

end

end Transfer

section Classes

variable {before after : Place → Nat → Prop} {source target : Place} {items : Finset Nat}
  {kind : Place → Kind} {size : Nat} {wanted : Kind}

open Classical in
/-- The items below `size` at a place of one kind. -/
noncomputable def ofKind (kind : Place → Kind) (holds : Place → Nat → Prop) (size : Nat)
    (wanted : Kind) : Finset Nat :=
  (Finset.range size).filter (fun item => ∃ place, kind place = wanted ∧ holds place item)

theorem mem_ofKind {holds : Place → Nat → Prop} {item : Nat} :
    item ∈ ofKind kind holds size wanted ↔
      item < size ∧ ∃ place, kind place = wanted ∧ holds place item := by
  simp [ofKind]

theorem Allotted.mem_ofKind_iff (allotted : Allotted (· < size) before) {place : Place}
    {item : Nat} (held : before place item) :
    item ∈ ofKind kind before size wanted ↔ kind place = wanted := by
  rw [mem_ofKind]
  constructor
  · rintro ⟨-, other, named, also⟩
    rw [allotted.unshared item place other held also]
    exact named
  · intro named
    exact ⟨allotted.inside place item held, place, named, held⟩

namespace Transfer

theorem mem_ofKind_of_stays (transfer : Transfer before after source target (· ∈ items))
    {item : Nat} (stays : item ∉ items) :
    item ∈ ofKind kind after size wanted ↔ item ∈ ofKind kind before size wanted := by
  simp only [mem_ofKind, transfer.unmoved_iff stays]

/-- A set that has the items of another one and some more. -/
theorem card_added {small large items : Finset Nat} (outside : ∀ item ∈ items, item ∉ small)
    (inside : ∀ item ∈ items, item ∈ large)
    (others : ∀ item, item ∉ items → (item ∈ large ↔ item ∈ small)) :
    large.card = small.card + items.card := by
  rw [← Finset.card_union_of_disjoint (Finset.disjoint_right.mpr outside)]
  congr 1
  ext item
  by_cases moves : item ∈ items
  · simp [moves, inside item moves]
  · simp [moves, others item moves]

section

variable (transfer : Transfer before after source target (· ∈ items))
  (allotted : Allotted (· < size) before)

include transfer allotted

theorem mem_ofKind_of_moves {item : Nat} (moves : item ∈ items) :
    item ∈ ofKind kind after size wanted ↔ kind target = wanted :=
  (transfer.allotted allotted).mem_ofKind_iff ((transfer.arrived item).mpr (.inl moves))

theorem mem_ofKind_of_moved {item : Nat} (moves : item ∈ items) :
    item ∈ ofKind kind before size wanted ↔ kind source = wanted :=
  allotted.mem_ofKind_iff (transfer.present item moves)

/-- A class of neither end, or of both, keeps its items. -/
theorem ofKind_unchanged (ends : kind source = wanted ↔ kind target = wanted) :
    ofKind kind after size wanted = ofKind kind before size wanted := by
  ext item
  by_cases moves : item ∈ items
  · rw [transfer.mem_ofKind_of_moves allotted moves,
      transfer.mem_ofKind_of_moved allotted moves, ends]
  · exact transfer.mem_ofKind_of_stays moves

theorem card_eq [DecidableEq Kind] :
    (ofKind kind after size wanted).card = (ofKind kind before size wanted).card +
      (if kind target = wanted then items.card else 0) -
      (if kind source = wanted then items.card else 0) := by
  by_cases here : kind source = wanted
  · by_cases there : kind target = wanted
    · have same := transfer.ofKind_unchanged allotted (iff_of_true here there)
      rw [same, if_pos here, if_pos there]
      omega
    · have fewer := card_added
        (fun _ moves inside => there ((transfer.mem_ofKind_of_moves allotted moves).mp inside))
        (fun _ moves => (transfer.mem_ofKind_of_moved allotted moves).mpr here)
        (fun _ stays => (transfer.mem_ofKind_of_stays stays).symm)
      rw [if_pos here, if_neg there]
      omega
  · by_cases there : kind target = wanted
    · have more := card_added
        (fun _ moves inside => here ((transfer.mem_ofKind_of_moved allotted moves).mp inside))
        (fun _ moves => (transfer.mem_ofKind_of_moves allotted moves).mpr there)
        (fun _ stays => transfer.mem_ofKind_of_stays stays)
      rw [if_neg here, if_pos there]
      omega
    · have same := transfer.ofKind_unchanged allotted (iff_of_false here there)
      rw [same, if_neg here, if_neg there]
      omega

end

end Transfer

/-- The classes of an allotment partition its domain. -/
theorem Allotted.sum_card [Fintype Kind] (allotted : Allotted (· < size) before) :
    ∑ wanted : Kind, (ofKind kind before size wanted).card = size := by
  classical
  let placeOf : Nat → Option Place := fun item =>
    if known : item < size then some (allotted.covered item known).choose else none
  have located : ∀ item place, item < size → placeOf item = some place → before place item := by
    intro item place known named
    simp only [placeOf, dif_pos known, Option.some.injEq] at named
    rw [← named]
    exact (allotted.covered item known).choose_spec
  have counted := Finset.card_eq_sum_card_fiberwise (s := Finset.range size)
    (t := Finset.univ.image (some : Kind → Option Kind))
    (f := fun item => (placeOf item).map kind) (by
      intro item inside
      have known : item < size := by simpa using inside
      simp [placeOf, known])
  rw [Finset.card_range, Finset.sum_image (Option.some_injective Kind).injOn] at counted
  conv_rhs => rw [counted]
  apply Finset.sum_congr rfl
  intro wanted _
  congr 1
  ext item
  rw [mem_ofKind, Finset.mem_filter, Finset.mem_range]
  refine and_congr_right fun known => ?_
  constructor
  · rintro ⟨place, named, held⟩
    obtain ⟨other, found⟩ : ∃ other, placeOf item = some other := by simp [placeOf, known]
    rw [found, Option.map_some, allotted.unshared item other place
      (located item other known found) held, named]
  · intro named
    obtain ⟨place, found, named⟩ := Option.map_eq_some_iff.mp named
    exact ⟨place, named, located item place known found⟩

end Classes

end Menagerie.Placement
