import Menagerie.Albatross.Routing.Template
import Mathlib.Data.List.Induction

/-!
# Routes and what they determine

The routes of a history of registrations, those of them that stay, and the answer that routes
determine for a method and a path.
-/

namespace Menagerie.Albatross

open Beaver List Option

section Routes

variable {Handler : Type}

/-- Calls of `add_route`, none of which throws. -/
def RouteRegistry.addRoutes (registry : RouteRegistry Handler)
    (registrations : List (Registration Handler)) :
    Except RegistrationError (RouteRegistry Handler) :=
  registrations.foldlM (fun registry registration =>
    (registry.addRoute registration).1.map fun _ => (registry.addRoute registration).2) registry

/-- A registration read as a route. -/
structure Route (Handler : Type) where
  method : HttpMethod
  path : Text
  template : List PathSegment
  handler : Handler

/-- The route has parameters. -/
def Route.parametric (route : Route Handler) : Bool := route.template.any PathSegment.isParam

def Route.isAt (path : Text) (route : Route Handler) : Bool :=
  !route.parametric && route.path = path

def Route.shapedAs (first route : Route Handler) : Bool :=
  shape route.template = shape first.template

/-- What a registration adds. -/
def Registration.route (norm : PathNormalization) (registration : Registration Handler) :
    Option (Route Handler) :=
  registration.handler.map (fun handler =>
    { method := registration.method
      path := normalizeOwned norm registration.path
      template := templateOf (normalizeOwned norm registration.path)
      handler := handler })

/-- The routes of registrations. -/
def routesOf (norm : PathNormalization) (registrations : List (Registration Handler)) :
    List (Route Handler) :=
  registrations.filterMap (Registration.route norm)

/-- The routes with the names of the first route of their shape. -/
def registered (routes : List (Route Handler)) : List (Route Handler) :=
  routes.filter (fun route => (routes.find? route.shapedAs).all
    (fun first => first.template = route.template))

/-- The answer that routes determine for a method and a normalized path. -/
inductive Resolves (routes : List (Route Handler)) (method : HttpMethod) (path : Text) :
    Except LookupError (ResolvedRoute Handler) → Prop
  | exactHandler {route : Route Handler}
      (first : routes.find? (fun route => route.isAt path && route.method = method) = some route) :
      Resolves routes method path (.ok ⟨route.handler, []⟩)
  | exactMethods {allowed : List HttpMethod} (known : ∃ route ∈ routes, route.isAt path)
      (other : ∀ route ∈ routes, route.isAt path → route.method ≠ method)
      (methods : ∀ method, method ∈ allowed ↔ ∃ route ∈ routes, route.isAt path ∧
        route.method = method)
      (nonempty : allowed ≠ []) (distinct : allowed.Nodup) :
      Resolves routes method path (.error (.methodNotAllowed allowed))
  | templateHandler {earlier later : List (Route Handler)} {first route : Route Handler}
      {params : List (Text × Text)} (inexact : ∀ route ∈ routes, route.isAt path = false)
      (split : routes = earlier ++ first :: later)
      (parametric : first.parametric) (captures : Captures first.template (segmentsOf path) params)
      (earliest : ∀ route ∈ earlier, route.parametric →
        ∀ params, ¬Captures route.template (segmentsOf path) params)
      (found : routes.find? (fun route => first.shapedAs route && route.method = method) =
        some route) :
      Resolves routes method path (.ok ⟨route.handler, params⟩)
  | templateMethods {earlier later : List (Route Handler)} {first : Route Handler}
      {params : List (Text × Text)} {allowed : List HttpMethod}
      (inexact : ∀ route ∈ routes, route.isAt path = false)
      (split : routes = earlier ++ first :: later)
      (parametric : first.parametric) (captures : Captures first.template (segmentsOf path) params)
      (earliest : ∀ route ∈ earlier, route.parametric →
        ∀ params, ¬Captures route.template (segmentsOf path) params)
      (other : ∀ route ∈ routes, first.shapedAs route → route.method ≠ method)
      (methods : ∀ method, method ∈ allowed ↔ ∃ route ∈ routes, first.shapedAs route ∧
        route.method = method)
      (distinct : allowed.Nodup) :
      Resolves routes method path (.error (.methodNotAllowed allowed))
  | notFound (inexact : ∀ route ∈ routes, route.isAt path = false)
      (unmatched : ∀ route ∈ routes, route.parametric →
        ∀ params, ¬Captures route.template (segmentsOf path) params) :
      Resolves routes method path (.error (.notFound "route".toList path))

theorem Route.shapedAs_iff {first route : Route Handler} :
    first.shapedAs route = true ↔ shape route.template = shape first.template :=
  decide_eq_true_iff

section

variable {α : Type} {p : α → Bool} {list : List α} {last : α}

theorem find?_append_of_isSome (found : (list.find? p).isSome) :
    (list ++ [last]).find? p = list.find? p := by
  rw [find?_append, or_of_isSome found]

theorem find?_append_of_not (fails : p last = false) : (list ++ [last]).find? p = list.find? p := by
  simp [find?_append, fails]

end

theorem registered_append (routes : List (Route Handler)) (route : Route Handler) :
    registered (routes ++ [route]) = registered routes ++
      if (routes.find? route.shapedAs).all (fun first => first.template = route.template)
      then [route] else [] := by
  unfold registered
  rw [filter_append]
  congr 1
  · apply filter_congr
    intro old member
    have found : (routes.find? old.shapedAs).isSome := by
      rw [find?_isSome]
      exact ⟨old, member, by simp [Route.shapedAs]⟩
    rw [find?_append_of_isSome found]
  · have self : route.shapedAs route = true := by simp [Route.shapedAs]
    rw [filter_singleton, find?_append, find?_singleton, if_pos self]
    cases routes.find? route.shapedAs with
    | none => simp
    | some first => simp

theorem find?_registered {routes : List (Route Handler)} {p : Route Handler → Bool}
    (shapes : ∀ first second : Route Handler, first.shapedAs second → p first = p second) :
    (registered routes).find? p = routes.find? p := by
  induction routes using reverseRecOn with
  | nil => rfl
  | append_singleton routes route ih =>
    rw [registered_append, find?_append, find?_append, ih]
    split
    · rfl
    · rename_i replaced
      cases found : routes.find? route.shapedAs with
      | none => simp [found] at replaced
      | some first =>
        have same : p route = p first := shapes route first (find?_some found)
        cases holds : p route with
        | false => simp [holds]
        | true =>
          have earlier : (routes.find? p).isSome := by
            rw [find?_isSome]
            exact ⟨first, mem_of_find?_eq_some found, by rw [← same, holds]⟩
          rw [or_of_isSome earlier, or_of_isSome earlier]

theorem registered_template {routes : List (Route Handler)} {first second : Route Handler}
    (member : first ∈ registered routes) (other : second ∈ registered routes)
    (same : first.shapedAs second) : second.template = first.template := by
  have shapes := Route.shapedAs_iff.mp same
  have equal : second.shapedAs = first.shapedAs := by
    funext route
    simp only [Route.shapedAs, shapes]
  simp only [registered, mem_filter] at member other
  cases found : routes.find? first.shapedAs with
  | none =>
    rw [find?_eq_none] at found
    exact absurd (by simp [Route.shapedAs]) (found first member.1)
  | some earliest =>
    rw [equal] at other
    simp only [found, all_some, decide_eq_true_eq] at member other
    rw [← member.2, ← other.2]

theorem registered_append_literal (routes : List (Route Handler)) {route : Route Handler}
    (literal : route.parametric = false) :
    registered (routes ++ [route]) = registered routes ++ [route] := by
  rw [registered_append, if_pos]
  rw [Option.all_eq_true]
  intro first found
  have same := Route.shapedAs_iff.mp (find?_some found)
  exact decide_eq_true (eq_of_shape same literal)

/-- The first handler by method. -/
def firstHandlers (routes : List (Route Handler)) (p : Route Handler → Bool) :
    MethodSlots Handler :=
  fun method => (routes.find? (fun route => p route && route.method = method)).map Route.handler

section FirstHandlers

variable {routes : List (Route Handler)} {p : Route Handler → Bool} {route : Route Handler}

theorem firstHandlers_append_of_not (fails : p route = false) :
    firstHandlers (routes ++ [route]) p = firstHandlers routes p := by
  funext method
  rw [firstHandlers, find?_append_of_not (by simp [fails]), firstHandlers]

theorem firstHandlers_append_taken (taken : (firstHandlers routes p route.method).isSome) :
    firstHandlers (routes ++ [route]) p = firstHandlers routes p := by
  rw [firstHandlers, isSome_map] at taken
  funext method
  unfold firstHandlers
  by_cases same : route.method = method
  · rw [← same, find?_append_of_isSome taken]
  · rw [find?_append_of_not (by simp [same])]

theorem firstHandlers_append_free (holds : p route = true)
    (free : firstHandlers routes p route.method = none) :
    firstHandlers (routes ++ [route]) p =
      Function.update (firstHandlers routes p) route.method (some route.handler) := by
  rw [firstHandlers, map_eq_none_iff] at free
  funext method
  by_cases same : method = route.method
  · rw [same, Function.update_self, firstHandlers, find?_append, free]
    simp [holds]
  · rw [Function.update_of_ne same, firstHandlers,
      find?_append_of_not (by simp [Ne.symm same]), firstHandlers]

theorem firstHandlers_eq_none (none : ∀ route ∈ routes, p route = false) :
    firstHandlers routes p = fun _ => Option.none := by
  funext method
  rw [firstHandlers, Option.map_eq_none_iff, find?_eq_none]
  intro route member
  simp [none route member]

theorem firstHandlers_isSome_iff {method : HttpMethod} :
    (firstHandlers routes p method).isSome = true ↔
      ∃ route ∈ routes, p route ∧ route.method = method := by
  rw [firstHandlers, isSome_map, find?_isSome]
  simp

theorem firstHandlers_congr {q : Route Handler → Bool}
    (same : ∀ route ∈ routes, p route = q route) : firstHandlers routes p =
      firstHandlers routes q := by
  funext method
  unfold firstHandlers
  rw [← head?_filter, ← head?_filter]
  congr 2
  refine filter_congr (fun route member => ?_)
  rw [same route member]

theorem mem_allowedMethods (known : ∀ route ∈ routes, route.method ≠ .unknown)
    (method : HttpMethod) : method ∈ allowedMethods (firstHandlers routes p) ↔
      ∃ route ∈ routes, p route ∧ route.method = method := by
  rw [allowedMethods, mem_filter, firstHandlers_isSome_iff, and_iff_right_iff_imp]
  rintro ⟨route, member, _, rfl⟩
  have proper := known route member
  cases kind : route.method <;> simp_all [HttpMethod.registrable]

theorem nodup_allowedMethods (slots : MethodSlots Handler) : (allowedMethods slots).Nodup :=
  Nodup.sublist filter_sublist (by decide)

theorem firstHandlers_eq_some {method : HttpMethod} {handler : Handler}
    (found : firstHandlers routes p method = some handler) : ∃ route, route.handler = handler ∧
      routes.find? (fun route => p route && route.method = method) = some route := by
  obtain ⟨route, first, equal⟩ := map_eq_some_iff.mp found
  exact ⟨route, equal, first⟩

theorem method_ne_of_firstHandlers {method : HttpMethod}
    (absent : firstHandlers routes p method = none) :
    ∀ route ∈ routes, p route → route.method ≠ method := by
  intro route member holds same
  have present := firstHandlers_isSome_iff.mpr ⟨route, member, holds, same⟩
  rw [absent] at present
  cases present

end FirstHandlers

end Routes

end Menagerie.Albatross
