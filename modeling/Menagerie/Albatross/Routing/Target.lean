import Menagerie.Albatross.Routing.Resolution

/-!
# Targets that are no paths

A lookup path that does not begin with a slash is in no exact table, but `for_each_segment` skips
its first character whatever it is, so a template can match the rest.
-/

namespace Menagerie.Albatross

open Beaver List

variable {Handler : Type}

def NotFound (answer : Except LookupError (ResolvedRoute Handler)) : Prop :=
  ∃ resource id, answer = .error (.notFound resource id)

theorem collapseSlashes_head? (path : Text) : (collapseSlashes false path).head? = path.head? := by
  cases path with
  | nil => rfl
  | cons c rest =>
    rw [collapseSlashes, if_neg (by simp)]
    rfl

theorem stripTrailingSlash_head? (path : Text) : (stripTrailingSlash path).head? = path.head? := by
  unfold stripTrailingSlash
  split
  · rename_i long
    match path, long.1 with
    | c :: d :: rest, _ => rfl
  · rfl

theorem normalizeOwned_head? (norm : PathNormalization) (path : Text) :
    (normalizeOwned norm path).head? = path.head? := by
  cases norm with
  | none => rfl
  | collapseTrailingSlash => exact stripTrailingSlash_head? path
  | collapseMultiSlash =>
    exact (stripTrailingSlash_head? _).trans (collapseSlashes_head? path)

section

variable {registry after : RouteRegistry Handler}

theorem RouteRegistry.addRoute_head? {registration : Registration Handler}
    (added : registry.addRoute registration = (.ok (), after)) :
    registration.path.head? = some '/' := by
  by_contra foreign
  unfold addRoute at added
  repeat' split at added
  all_goals cases added

theorem addRoutes_head? {registrations : List (Registration Handler)}
    (added : registry.addRoutes registrations = .ok after) :
    ∀ registration ∈ registrations, registration.path.head? = some '/' := by
  induction registrations generalizing registry with
  | nil => simp
  | cons registration rest ih =>
    rw [RouteRegistry.addRoutes, foldlM_cons] at added
    rcases first : registry.addRoute registration with ⟨outcome, middle⟩
    cases outcome with
    | error error => simp [first, bind, Except.bind, Except.map] at added
    | ok _ =>
      simp only [first, bind, Except.bind, Except.map] at added
      rw [forall_mem_cons]
      exact ⟨RouteRegistry.addRoute_head? first, ih added⟩

end

/-- A lookup path without a slash at the front is not found exactly when no route with parameters
matches what stands behind its first character. -/
theorem foreign_target_not_found_iff (norm : PathNormalization)
    (registrations : List (Registration Handler)) {registry : RouteRegistry Handler}
    (added : RouteRegistry.addRoutes { norm := norm } registrations = .ok registry)
    (method : HttpMethod) (path : Text) (foreign : path.head? ≠ some '/') :
    NotFound (registry.freeze.2.findRoute method path) ↔
      ∀ route ∈ registered (routesOf norm registrations), route.parametric →
        ∀ params, ¬Captures route.template (segmentsOf (normalizeOwned norm path)) params := by
  obtain ⟨same, represents⟩ := (Represents.empty norm).addRoutes added
  rw [nil_append] at represents
  have answer := represents.findRoute method path
  rw [same] at answer
  have inexact : ∀ route ∈ registered (routesOf norm registrations),
      route.isAt (normalizeOwned norm path) ≠ true := by
    intro route member here
    have known := (mem_filter.mp member).1
    obtain ⟨registration, listed, read⟩ := mem_filterMap.mp known
    obtain ⟨handler, -, rfl⟩ := Option.map_eq_some_iff.mp read
    have slash := addRoutes_head? added registration listed
    have paths : normalizeOwned norm registration.path = normalizeOwned norm path := by
      simpa using (Bool.and_eq_true_iff.mp here).2
    rw [← normalizeOwned_head? norm, paths, normalizeOwned_head?] at slash
    exact foreign slash
  change NotFound (registry.findRoute method path) ↔ _
  constructor
  · rintro ⟨resource, id, found⟩
    rw [found] at answer
    cases answer with
    | notFound _ unmatched => exact unmatched
  · intro unmatched
    generalize registry.findRoute method path = result at answer
    cases answer with
    | exactHandler first =>
      have here := find?_some first
      exact absurd (Bool.and_eq_true_iff.mp here).1 (inexact _ (mem_of_find?_eq_some first))
    | exactMethods known =>
      obtain ⟨route, member, here⟩ := known
      exact absurd here (inexact route member)
    | templateHandler _ split parametric captures | templateMethods _ split parametric captures =>
      exact absurd captures (unmatched _ (by rw [split]; simp) parametric _)
    | notFound => exact ⟨_, _, rfl⟩

/-- One route with a parameter. -/
def oneUser : List (Registration Nat) := [⟨.get, "/users/\x7bid\x7d".toList, some 1⟩]

/-- A target with another number of segments is not found. -/
theorem foreign_target_not_found_short : ∃ registry,
    RouteRegistry.addRoutes { norm := .none } oneUser = .ok registry ∧
    NotFound (registry.freeze.2.findRoute .get "*".toList) := by
  refine ⟨_, rfl, (foreign_target_not_found_iff .none oneUser rfl .get _ (by decide)).mpr ?_⟩
  intro route member _ params captures
  have only : route ∈ routesOf .none oneUser := (mem_filter.mp member).1
  rw [show routesOf .none oneUser = [⟨.get, "/users/\x7bid\x7d".toList,
    [⟨"users".toList, false⟩, ⟨"id".toList, true⟩], 1⟩] from rfl, mem_singleton] at only
  rw [only] at captures
  cases captures

/-- A target without a slash at the front is answered. -/
theorem foreign_target_found : ∃ registry,
    RouteRegistry.addRoutes { norm := .none } oneUser = .ok registry ∧
    registry.freeze.2.findRoute .get "xusers/42".toList =
      .ok ⟨1, [("id".toList, "42".toList)]⟩ ∧
    ¬NotFound (registry.freeze.2.findRoute .get "xusers/42".toList) := by
  have found : ∀ registry, RouteRegistry.addRoutes { norm := .none } oneUser = .ok registry →
      registry.freeze.2.findRoute .get "xusers/42".toList =
        .ok ⟨1, [("id".toList, "42".toList)]⟩ := by
    rintro registry ⟨⟩
    decide +kernel
  refine ⟨_, rfl, found _ rfl, ?_⟩
  rintro ⟨resource, id, missing⟩
  rw [found _ rfl] at missing
  cases missing

end Menagerie.Albatross
