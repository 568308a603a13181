import Mathlib.Data.List.Nodup

/-!
# First come, first served

A queue with withdrawals serves from the front only. Then those served, followed by those
still waiting, are a subsequence of the arrivals, and whoever arrived before the front of the
queue is no longer waiting.
-/

namespace Menagerie.ServiceOrder

open List

variable {Client : Type} {arrivals served waiting rest : List Client} {client other : Client}

/-- Those served and those waiting, in order of arrival. -/
structure InOrder (arrivals served waiting : List Client) : Prop where
  once : arrivals.Nodup
  ordered : (served ++ waiting).Sublist arrivals

theorem InOrder.empty : InOrder ([] : List Client) [] [] :=
  ⟨nodup_nil, Sublist.refl []⟩

section

variable (order : InOrder arrivals served waiting) (fresh : client ∉ arrivals)

include order fresh

theorem InOrder.arrive :
    InOrder (arrivals ++ [client]) served (waiting ++ [client]) where
  once := by
    rw [nodup_append]
    refine ⟨order.once, nodup_singleton client, ?_⟩
    intro earlier member later last same
    rw [mem_singleton.mp last] at same
    exact fresh (same ▸ member)
  ordered := by
    rw [← append_assoc]
    exact order.ordered.append (Sublist.refl [client])

theorem InOrder.pass :
    InOrder (arrivals ++ [client]) served waiting where
  once := (order.arrive fresh).once
  ordered := order.ordered.trans (sublist_append_left arrivals [client])

end

theorem InOrder.serve (order : InOrder arrivals served (client :: rest)) :
    InOrder arrivals (served ++ [client]) rest where
  once := order.once
  ordered := by
    rw [append_assoc]
    exact order.ordered

section

variable (order : InOrder arrivals served waiting)

include order

theorem InOrder.leave [DecidableEq Client] (client : Client) :
    InOrder arrivals served (waiting.erase client) where
  once := order.once
  ordered := ((Sublist.refl served).append erase_sublist).trans order.ordered

theorem InOrder.clear : InOrder arrivals served [] where
  once := order.once
  ordered := by
    rw [append_nil]
    exact (sublist_append_left served waiting).trans order.ordered

theorem InOrder.nodup : waiting.Nodup :=
  order.once.sublist ((sublist_append_right served waiting).trans order.ordered)

end

theorem entry_unique {Entry : Type} {record : List Entry} {name : Entry → Option Client}
    (once : (record.filterMap name).Nodup) {first second : Entry} (left : first ∈ record)
    (right : second ∈ record) (named : name first = some client)
    (again : name second = some client) : first = second := by
  induction record with
  | nil => cases left
  | cons head tail ih =>
    have listed : ∀ entry ∈ tail, name entry = some client → client ∈ tail.filterMap name :=
      fun entry member named => mem_filterMap.mpr ⟨entry, member, named⟩
    rcases mem_cons.mp left with rfl | before
    · rcases mem_cons.mp right with same | after
      · exact same.symm
      · rw [filterMap_cons_some named] at once
        exact absurd (listed second after again) (nodup_cons.mp once).1
    · rcases mem_cons.mp right with rfl | after
      · rw [filterMap_cons_some again] at once
        exact absurd (listed first before named) (nodup_cons.mp once).1
      · have shorter := (sublist_cons_self head tail).filterMap name
        exact ih (once.sublist shorter) before after

theorem before_asymm (once : arrivals.Nodup) (first : [client, other].Sublist arrivals)
    (second : [other, client].Sublist arrivals) : False := by
  induction arrivals with
  | nil => cases first
  | cons head tail ih =>
    obtain ⟨absent, once⟩ := nodup_cons.mp once
    have behind : ∀ left right : Client, [left, right].Sublist (head :: tail) → right ∈ tail := by
      intro left right sub
      cases sub with
      | cons _ sub | cons_cons _ sub => exact sub.subset (by simp)
    have forward := behind client other first
    have backward := behind other client second
    have here : ∀ left right : Client, left ∈ tail → [left, right].Sublist (head :: tail) →
        [left, right].Sublist tail := by
      intro left right member sub
      cases sub with
      | cons _ sub => exact sub
      | cons_cons _ sub => exact absurd member absent
    exact ih once (here client other backward first) (here other client forward second)

/-- Whoever arrived before the front is not waiting. -/
theorem InOrder.passed (order : InOrder arrivals served (client :: rest))
    (earlier : [other, client].Sublist arrivals) : other ∉ client :: rest := by
  intro member
  have queue : (client :: rest).Sublist arrivals :=
    (sublist_append_right served (client :: rest)).trans order.ordered
  rcases mem_cons.mp member with rfl | behind
  · exact before_asymm order.once earlier earlier
  · have later : [client, other].Sublist (client :: rest) :=
      (singleton_sublist.mpr behind).cons_cons client
    exact before_asymm order.once earlier (later.trans queue)

end Menagerie.ServiceOrder
