import Menagerie.Albatross.Routing.Routes
import Mathlib.Data.List.Pairwise

/-!
# What a lookup finds

The tables of a registry hold the routes that its registrations leave behind, so `find_route` gives
the answer that these routes determine.
-/

namespace Menagerie.Albatross

open Beaver Function RouteRegistry List

section Tables

variable {Handler : Type}

theorem Route.shapedAs_congr {reference : Route Handler} (first second : Route Handler)
    (same : first.shapedAs second) : reference.shapedAs first = reference.shapedAs second := by
  simp only [Route.shapedAs, Route.shapedAs_iff.mp same]

theorem RouteRegistry.addExact_norm (registry : RouteRegistry Handler) (method : HttpMethod)
    (normalized : Text) (handler : Handler) :
    (registry.addExact method normalized handler).norm = registry.norm := by
  unfold addExact
  dsimp only
  split <;> rfl

theorem RouteRegistry.addParametric_norm (registry : RouteRegistry Handler) (method : HttpMethod)
    (normalized : Text) (segments : List PathSegment) (handler : Handler) :
    (registry.addParametric method normalized segments handler).norm = registry.norm := by
  unfold addParametric
  split <;> rfl

theorem addTemplate_cases (method : HttpMethod) (segments : List PathSegment) (handler : Handler)
    (templates : List (ParamTemplate Handler)) :
    ((∀ template ∈ templates, shape template.segments ≠ shape segments) ∧
      addTemplate method segments handler templates = .ok (templates ++
        [⟨segments, update (fun _ => none) method (some handler)⟩])) ∨
    (∃ before template after, templates = before ++ template :: after ∧
      shape template.segments = shape segments ∧
      ((template.segments ≠ segments ∧ addTemplate method segments handler templates =
          .error "parametric route already registered with different parameter names".toList) ∨
        (template.segments = segments ∧ (template.byMethod method).isSome ∧
          ∃ detail, addTemplate method segments handler templates = .error detail) ∨
        (template.segments = segments ∧ template.byMethod method = none ∧
          addTemplate method segments handler templates =
            .ok (before ++ template.setMethod method handler :: after)))) := by
  induction templates with
  | nil => exact .inl ⟨by simp, rfl⟩
  | cons template rest ih =>
    by_cases same : shape template.segments = shape segments
    · refine .inr ⟨[], template, rest, rfl, same, ?_⟩
      simp only [addTemplate, sameShape_iff.mpr same, Bool.not_true, Bool.false_eq_true, if_false]
      by_cases equal : template.segments = segments
      · have names := (namesMatch_iff same).mpr equal
        simp only [names, Bool.not_true, Bool.false_eq_true, if_false]
        cases slot : template.byMethod method with
        | some other => exact .inr (.inl ⟨equal, rfl, _, rfl⟩)
        | none => exact .inr (.inr ⟨equal, rfl, rfl⟩)
      · have names : namesMatch template.segments segments = false := by
          rw [← Bool.not_eq_true, namesMatch_iff same]
          exact equal
        simp only [names, Bool.not_false, if_true]
        exact .inl ⟨equal, trivial⟩
    · have differs : sameShape template.segments segments = false := by
        rw [← Bool.not_eq_true, sameShape_iff]
        exact same
      simp only [addTemplate, differs, Bool.not_false, if_true]
      rcases ih with ⟨fresh, added⟩ | ⟨before, found, after, rfl, shapes, outcome⟩
      · refine .inl ⟨?_, by rw [added]; rfl⟩
        intro other member
        rcases mem_cons.mp member with rfl | member
        · exact same
        · exact fresh other member
      · refine .inr ⟨template :: before, found, after, rfl, shapes, ?_⟩
        rcases outcome with ⟨names, added⟩ | ⟨names, slot, detail, added⟩ | ⟨names, slot, added⟩
        · exact .inl ⟨names, by rw [added]; rfl⟩
        · exact .inr (.inl ⟨names, slot, detail, by rw [added]; rfl⟩)
        · exact .inr (.inr ⟨names, slot, by rw [added]; rfl⟩)

/-- The tables of a registry against the routes that stay. -/
structure Represents (routes : List (Route Handler)) (registry : RouteRegistry Handler) : Prop where
  known : ∀ route ∈ routes, route.method ≠ .unknown
  exact : ∀ path, registry.exact path = if routes.any (Route.isAt path) then
    some (firstHandlers routes (Route.isAt path)) else none
  order : ∀ p : List PathSegment → Bool,
    (∀ first second, shape first = shape second → p first = p second) →
    (registry.parametric.map ParamTemplate.segments).find? p =
      (routes.find? (fun route => route.parametric && p route.template)).map Route.template
  byMethod : ∀ template ∈ registry.parametric, template.byMethod = firstHandlers routes
    (fun route => route.parametric && route.template = template.segments)
  shapes : (registry.parametric.map ParamTemplate.segments).Pairwise
    (fun first second => shape first ≠ shape second)

namespace Represents

variable {routes : List (Route Handler)} {registry : RouteRegistry Handler} {route : Route Handler}

section

variable (represents : Represents routes registry)

include represents

theorem known_append (known : route.method ≠ .unknown) :
    ∀ other ∈ routes ++ [route], other.method ≠ .unknown := by
  intro other member
  rcases mem_append.mp member with member | member
  · exact represents.known other member
  · rw [mem_singleton.mp member]
    exact known

theorem exact_getD (path : Text) :
    (registry.exact path).getD (fun _ => none) = firstHandlers routes (Route.isAt path) := by
  rw [represents.exact path]
  split
  · rfl
  · rename_i absent
    rw [Bool.not_eq_true, any_eq_false] at absent
    rw [firstHandlers_eq_none (fun route member => Bool.eq_false_iff.mpr (absent route member))]
    rfl

theorem addExact (known : route.method ≠ .unknown) (literal : route.parametric = false) :
    Represents (routes ++ [route]) (registry.addExact route.method route.path route.handler) := by
  have atSelf : route.isAt route.path = true := by simp [Route.isAt, literal]
  have elsewhere : ∀ path, path ≠ route.path → route.isAt path = false := by
    intro path differs
    simp [Route.isAt, Ne.symm differs]
  have order : ∀ p : List PathSegment → Bool,
      (routes ++ [route]).find? (fun route => route.parametric && p route.template) =
        routes.find? (fun route => route.parametric && p route.template) :=
    fun p => find?_append_of_not (by simp [literal])
  have byMethod : ∀ segments, firstHandlers (routes ++ [route])
      (fun route => route.parametric && route.template = segments) = firstHandlers routes
        (fun route => route.parametric && route.template = segments) :=
    fun segments => firstHandlers_append_of_not (by simp [literal])
  unfold RouteRegistry.addExact
  rw [represents.exact_getD]
  dsimp only
  split
  · rename_i taken
    refine ⟨represents.known_append known, ?_, ?_, ?_, represents.shapes⟩
    · intro path
      have present := firstHandlers_isSome_iff.mp taken
      by_cases same : path = route.path
      · subst same
        obtain ⟨other, member, there, _⟩ := present
        have any : routes.any (Route.isAt route.path) = true :=
          any_eq_true.mpr ⟨other, member, there⟩
        rw [represents.exact, if_pos any, any_append, any, Bool.true_or, if_pos rfl,
          firstHandlers_append_taken taken]
      · rw [represents.exact, any_append, firstHandlers_append_of_not (elsewhere path same)]
        simp [elsewhere path same]
    · intro p respects
      rw [order p]
      exact represents.order p respects
    · intro template member
      rw [byMethod]
      exact represents.byMethod template member
  · rename_i free
    rw [Bool.not_eq_true, Option.isSome_eq_false_iff, Option.isNone_iff_eq_none] at free
    refine ⟨represents.known_append known, ?_, ?_, ?_, represents.shapes⟩
    · intro path
      dsimp only
      by_cases same : path = route.path
      · subst same
        rw [update_self, firstHandlers_append_free atSelf free]
        simp [atSelf]
      · rw [update_of_ne same, represents.exact, any_append,
          firstHandlers_append_of_not (elsewhere path same)]
        simp [elsewhere path same]
    · intro p respects
      rw [order p]
      exact represents.order p respects
    · intro template member
      rw [byMethod]
      exact represents.byMethod template member

theorem find?_shapedAs (parametric : route.parametric = true) :
    (registry.parametric.map ParamTemplate.segments).find?
        (fun template => shape template = shape route.template) =
      (routes.find? route.shapedAs).map Route.template := by
  have same : route.shapedAs = fun other => other.parametric &&
      decide (shape other.template = shape route.template) := by
    funext other
    rw [Bool.eq_iff_iff, Route.shapedAs_iff, Bool.and_eq_true, decide_eq_true_eq, iff_and_self]
    intro same
    rw [Route.parametric, any_isParam_of_shape same]
    exact parametric
  rw [same]
  refine represents.order (fun template => shape template = shape route.template) ?_
  intro first second equal
  simp only [equal]

theorem find?_shapedAs_template {template : ParamTemplate Handler}
    (member : template ∈ registry.parametric)
    (same : shape template.segments = shape route.template) (parametric : route.parametric = true) :
    (routes.find? route.shapedAs).map Route.template = some template.segments := by
  rw [← represents.find?_shapedAs parametric]
  have there := mem_map_of_mem (f := ParamTemplate.segments) member
  cases found : (registry.parametric.map ParamTemplate.segments).find?
      (fun template => shape template = shape route.template) with
  | none => simpa [same] using find?_eq_none.mp found _ there
  | some other =>
    have shapes : shape other = shape route.template := by
      simpa using find?_some found
    have : Std.Symm (fun first second : List PathSegment => shape first ≠ shape second) :=
      ⟨fun _ _ => Ne.symm⟩
    by_contra differs
    have apart := represents.shapes.forall (mem_of_find?_eq_some found) there
      (fun equal => differs (by rw [equal]))
    exact apart (shapes.trans same.symm)

theorem find?_shapedAs_fresh
    (fresh : ∀ template ∈ registry.parametric, shape template.segments ≠ shape route.template)
    (parametric : route.parametric = true) : routes.find? route.shapedAs = none := by
  have first := represents.find?_shapedAs parametric
  have none : (registry.parametric.map ParamTemplate.segments).find?
      (fun template => shape template = shape route.template) = none := by
    rw [find?_eq_none]
    intro segments member
    obtain ⟨template, there, rfl⟩ := mem_map.mp member
    simpa using fresh template there
  rw [none, Eq.comm, Option.map_eq_none_iff] at first
  exact first

theorem exact_append (parametric : route.parametric = true) (path : Text) : registry.exact path =
      if (routes ++ [route]).any (Route.isAt path) then
        some (firstHandlers (routes ++ [route]) (Route.isAt path)) else none := by
  have elsewhere : route.isAt path = false := by simp [Route.isAt, parametric]
  rw [represents.exact, firstHandlers_append_of_not elsewhere, any_append]
  simp [elsewhere]

theorem order_append {template : ParamTemplate Handler} (member : template ∈ registry.parametric)
    (same : template.segments = route.template) (p : List PathSegment → Bool)
    (respects : ∀ first second, shape first = shape second → p first = p second) :
    (registry.parametric.map ParamTemplate.segments).find? p = ((routes ++ [route]).find?
      (fun route => route.parametric && p route.template)).map Route.template := by
  have before := represents.order p respects
  rw [before]
  cases found : routes.find? (fun route => route.parametric && p route.template) with
  | some first => rw [find?_append_of_isSome (by rw [found]; rfl), found]
  | none =>
    rw [found, Option.map_none, find?_eq_none] at before
    have fails := before _ (mem_map_of_mem (f := ParamTemplate.segments) member)
    rw [same, Bool.not_eq_true] at fails
    rw [find?_append_of_not (by simp [fails]), found]

section

variable (known : route.method ≠ .unknown)

include known

theorem append_template (parametric : route.parametric = true)
    (fresh : ∀ template ∈ registry.parametric, shape template.segments ≠ shape route.template) :
    Represents (routes ++ [route]) { registry with parametric := registry.parametric ++
      [⟨route.template, update (fun _ => none) route.method (some route.handler)⟩] } := by
  refine ⟨represents.known_append known, represents.exact_append parametric, ?_, ?_, ?_⟩
  · intro p respects
    rw [map_append, find?_append, represents.order p respects, find?_append]
    cases holds : p route.template <;> simp [parametric, holds]
  · intro template member
    rcases mem_append.mp member with member | member
    · have differs : route.template ≠ template.segments :=
        fun same => fresh template member (by rw [same])
      rw [firstHandlers_append_of_not (by simp [differs])]
      exact represents.byMethod template member
    · rw [mem_singleton.mp member]
      have first := represents.find?_shapedAs_fresh fresh parametric
      have none : firstHandlers routes
          (fun other => other.parametric && other.template = route.template) = fun _ => none := by
        refine firstHandlers_eq_none (fun other member => ?_)
        have apart := find?_eq_none.mp first other member
        rw [Bool.and_eq_false_iff, decide_eq_false_iff_not]
        exact .inr (fun same => apart (Route.shapedAs_iff.mpr (by rw [same])))
      rw [firstHandlers_append_free (by simp [parametric]) (by rw [none]), none]
  · rw [map_append, pairwise_append]
    refine ⟨represents.shapes, pairwise_singleton .., ?_⟩
    intro first member second last
    obtain ⟨template, there, rfl⟩ := mem_map.mp member
    rw [mem_singleton.mp last]
    exact fresh template there

theorem update_template (parametric : route.parametric = true)
    {before after : List (ParamTemplate Handler)} {template : ParamTemplate Handler}
    (split : registry.parametric = before ++ template :: after)
    (same : template.segments = route.template) (free : template.byMethod route.method = none) :
    Represents (routes ++ [route]) { registry with
      parametric := before ++ template.setMethod route.method route.handler :: after } := by
  have member : template ∈ registry.parametric := by simp [split]
  have segments : (before ++ template.setMethod route.method route.handler :: after).map
      ParamTemplate.segments = registry.parametric.map ParamTemplate.segments := by
    simp [split, ParamTemplate.setMethod]
  have slots := represents.byMethod template member
  have apart : ∀ other ∈ before ++ after, route.template ≠ other.segments := by
    have shapes := represents.shapes
    simp only [split, map_append, map_cons, pairwise_append, pairwise_cons,
      mem_map, mem_cons, forall_exists_index, and_imp, forall_apply_eq_imp_iff₂] at shapes
    intro other there equal
    rw [← same] at equal
    rcases mem_append.mp there with there | there
    · exact shapes.2.2 other there _ (.inl rfl) (by rw [equal])
    · exact shapes.2.1.1 other there (by rw [equal])
  refine ⟨represents.known_append known, represents.exact_append parametric, ?_, ?_, ?_⟩
  · intro p respects
    rw [segments]
    exact represents.order_append member same p respects
  · intro other there
    have place : other ∈ before ++ after ∨
        other = template.setMethod route.method route.handler := by
      simp only [mem_append, mem_cons] at there ⊢
      tauto
    rcases place with there | rfl
    · rw [firstHandlers_append_of_not (by simp [apart other there])]
      refine represents.byMethod other ?_
      simp only [split, mem_append, mem_cons] at there ⊢
      tauto
    · change update template.byMethod route.method (some route.handler) = firstHandlers _
        (fun other => other.parametric && decide (other.template = template.segments))
      rw [slots] at free ⊢
      rw [firstHandlers_append_free (by simp [parametric, same]) free]
  · rw [segments]
    exact represents.shapes

theorem taken_template (parametric : route.parametric = true)
    {template : ParamTemplate Handler} (member : template ∈ registry.parametric)
    (same : template.segments = route.template) (taken : (template.byMethod route.method).isSome) :
    Represents (routes ++ [route]) registry := by
  refine ⟨represents.known_append known, represents.exact_append parametric,
    represents.order_append member same, ?_, represents.shapes⟩
  intro other there
  rw [represents.byMethod other there]
  by_cases equal : route.template = other.segments
  · rw [represents.byMethod template member, same, equal] at taken
    rw [firstHandlers_append_taken taken]
  · rw [firstHandlers_append_of_not (by simp [equal])]

end

theorem note (conflicts : List RouteConflictError) :
    Represents routes { registry with conflicts := conflicts } :=
  ⟨represents.known, represents.exact, represents.order, represents.byMethod, represents.shapes⟩

theorem addParametric (known : route.method ≠ .unknown) (parametric : route.parametric = true) :
    Represents (routes ++ if (routes.find? route.shapedAs).all
        (fun first => first.template = route.template) then [route] else [])
      (registry.addParametric route.method route.path route.template route.handler) := by
  unfold RouteRegistry.addParametric
  rcases addTemplate_cases route.method route.template route.handler registry.parametric with
    ⟨fresh, added⟩ | ⟨before, template, after, split, same, outcome⟩
  · rw [added, represents.find?_shapedAs_fresh fresh parametric]
    exact represents.append_template known parametric fresh
  · have member : template ∈ registry.parametric := by simp [split]
    obtain ⟨first, found, equal⟩ := Option.map_eq_some_iff.mp
      (represents.find?_shapedAs_template member same parametric)
    simp only [found, Option.all_some, equal, decide_eq_true_eq]
    rcases outcome with ⟨names, added⟩ | ⟨names, taken, detail, added⟩ | ⟨names, free, added⟩
    · rw [added, if_neg names, append_nil]
      exact represents.note _
    · rw [added, if_pos names]
      exact (represents.taken_template known parametric member names taken).note _
    · rw [added, if_pos names]
      exact represents.update_template known parametric split names free

end

section

variable {routes : List (Route Handler)} {next : RouteRegistry Handler}
  (represents : Represents (registered routes) registry)

include represents

theorem addRoute {registration : Registration Handler}
    (added : registry.addRoute registration = (.ok (), next)) :
    next.norm = registry.norm ∧ ∃ route, registration.route registry.norm = some route ∧
      Represents (registered (routes ++ [route])) next := by
  unfold RouteRegistry.addRoute at added
  split at added
  · cases added
  split at added
  · cases added
  rename_i known
  split at added
  · cases added
  rename_i handler given
  split at added
  · cases added
  dsimp only at added
  split at added
  · cases added
  rename_i segments parsed
  obtain rfl := parseSegments_eq_ok parsed
  split at added
  · rename_i parametric
    cases added
    refine ⟨addParametric_norm .., _,
      by rw [Registration.route, given, Option.map_some], ?_⟩
    rw [registered_append, ← find?_registered Route.shapedAs_congr]
    exact represents.addParametric known parametric
  · rename_i literal
    rw [Bool.not_eq_true] at literal
    cases added
    refine ⟨addExact_norm .., _,
      by rw [Registration.route, given, Option.map_some], ?_⟩
    rw [registered_append_literal]
    · exact represents.addExact known literal
    · exact literal

theorem addRoutes {registrations : List (Registration Handler)}
    (added : registry.addRoutes registrations = .ok next) : next.norm = registry.norm ∧
      Represents (registered (routes ++ routesOf registry.norm registrations)) next := by
  induction registrations generalizing routes registry with
  | nil =>
    cases added
    exact ⟨rfl, by simpa [routesOf] using represents⟩
  | cons registration rest ih =>
    rw [addRoutes, foldlM_cons] at added
    rcases first : registry.addRoute registration with ⟨outcome, middle⟩
    cases outcome with
    | error error => simp [first, bind, Except.bind, Except.map] at added
    | ok _ =>
      simp only [first, bind, Except.bind, Except.map] at added
      obtain ⟨norm, route, known, kept⟩ := represents.addRoute first
      obtain ⟨later, represented⟩ := ih kept added
      refine ⟨later.trans norm, ?_⟩
      rw [norm] at represented
      rwa [routesOf, filterMap_cons_some known, ← singleton_append, ← append_assoc]

end

theorem empty (norm : PathNormalization) :
    @Represents Handler (registered []) { norm := norm } := by
  refine ⟨by simp [registered], ?_, ?_, by simp, by simp⟩
  · intro path
    simp [registered]
  · intro p _
    simp [registered]

theorem dispatch_exact (represents : Represents routes registry) {path : Text} (method : HttpMethod)
    (present : ∃ route ∈ routes, route.isAt path) : Resolves routes method path
      (dispatch (firstHandlers routes (Route.isAt path)) method []) := by
  unfold dispatch
  cases found : firstHandlers routes (Route.isAt path) method with
  | some handler =>
    obtain ⟨route, rfl, first⟩ := firstHandlers_eq_some found
    exact .exactHandler first
  | none =>
    have methods := mem_allowedMethods (p := Route.isAt path) represents.known
    refine .exactMethods present (method_ne_of_firstHandlers found) methods ?_
      (nodup_allowedMethods _)
    obtain ⟨route, member, there⟩ := present
    exact ne_nil_of_mem ((methods route.method).mpr ⟨route, member, there, rfl⟩)

end Represents

/-! ## The lookup -/

/-- The template matches. -/
def matchesPath (path : Text) (template : List PathSegment) : Bool :=
  (@matchTemplate Unit ⟨template, fun _ => none⟩ path).isSome

theorem matchesPath_iff {path : Text} {template : List PathSegment} :
    matchesPath path template = true ↔ ∃ params, Captures template (segmentsOf path) params := by
  simp only [matchesPath, Option.isSome_iff_exists, matchTemplate_eq_some_iff]

theorem matchesPath_congr {path : Text} (first second : List PathSegment)
    (same : shape first = shape second) : matchesPath path first = matchesPath path second := by
  rw [Bool.eq_iff_iff, matchesPath_iff, matchesPath_iff]
  exact captures_shape same

theorem findTemplate_cases (method : HttpMethod) (path : Text)
    (templates : List (ParamTemplate Handler)) :
    ((templates.map ParamTemplate.segments).find? (matchesPath path) = none ∧
      findTemplate method path templates = .error (.notFound "route".toList path)) ∨
    ∃ template ∈ templates, ∃ params,
      (templates.map ParamTemplate.segments).find? (matchesPath path) = some template.segments ∧
      Captures template.segments (segmentsOf path) params ∧
      findTemplate method path templates = dispatch template.byMethod method params := by
  induction templates with
  | nil => exact .inl ⟨rfl, rfl⟩
  | cons template rest ih =>
    rw [map_cons, findTemplate]
    cases matched : matchTemplate template path with
    | some params =>
      have captures := matchTemplate_eq_some_iff.mp matched
      have here : matchesPath path template.segments = true := matchesPath_iff.mpr ⟨_, captures⟩
      exact .inr ⟨template, mem_cons_self, params, find?_cons_of_pos here, captures, rfl⟩
    | none =>
      have fails : ¬matchesPath path template.segments = true := by
        rw [matchesPath_iff]
        rintro ⟨params, captures⟩
        rw [matchTemplate_eq_some_iff.mpr captures] at matched
        cases matched
      rw [find?_cons_of_neg fails]
      rcases ih with found | ⟨other, member, params, facts⟩
      · exact .inl found
      · exact .inr ⟨other, mem_cons_of_mem _ member, params, facts⟩

namespace Represents

variable {routes : List (Route Handler)} {registry : RouteRegistry Handler}

section

variable (represents : Represents (registered routes) registry) (method : HttpMethod)

include represents method

theorem findTemplate {path : Text}
    (inexact : ∀ route ∈ registered routes, route.isAt path = false) :
    Resolves (registered routes) method path
      (findTemplate method path registry.parametric) := by
  have order := represents.order (matchesPath path) matchesPath_congr
  rcases findTemplate_cases method path registry.parametric with
    ⟨unmatched, answer⟩ | ⟨template, member, params, first, captures, answer⟩
  · rw [answer]
    rw [unmatched, Eq.comm, Option.map_eq_none_iff, find?_eq_none] at order
    refine .notFound inexact ?_
    intro route member parametric params captures
    refine order route member ?_
    rw [parametric, Bool.true_and, matchesPath_iff]
    exact ⟨params, captures⟩
  · rw [answer]
    rw [first, Eq.comm] at order
    obtain ⟨route, found, same⟩ := Option.map_eq_some_iff.mp order
    obtain ⟨holds, earlier, later, split, before⟩ := find?_eq_some_iff_append.mp found
    rw [Bool.and_eq_true] at holds
    have here : route ∈ registered routes := mem_of_find?_eq_some found
    have earliest : ∀ other ∈ earlier, other.parametric →
        ∀ params, ¬Captures other.template (segmentsOf path) params := by
      intro other member parametric params captures
      have fails := before other member
      rw [parametric, Bool.true_and, Bool.not_eq_true', ← Bool.not_eq_true,
        matchesPath_iff] at fails
      exact fails ⟨params, captures⟩
    have slots : template.byMethod = firstHandlers (registered routes) route.shapedAs := by
      rw [represents.byMethod template member, ← same]
      refine firstHandlers_congr (fun other there => ?_)
      rw [Bool.eq_iff_iff, Bool.and_eq_true, decide_eq_true_eq]
      constructor
      · intro equal
        exact Route.shapedAs_iff.mpr (by rw [equal.2])
      · intro shaped
        have equal := registered_template here there shaped
        refine ⟨?_, equal⟩
        rw [Route.parametric, equal]
        exact holds.1
    rw [← same] at captures
    rw [slots, dispatch]
    cases handler : firstHandlers (registered routes) route.shapedAs method with
    | some handler =>
      obtain ⟨chosen, rfl, first⟩ := firstHandlers_eq_some handler
      exact .templateHandler inexact split holds.1 captures earliest first
    | none =>
      exact .templateMethods inexact split holds.1 captures earliest
        (method_ne_of_firstHandlers handler) (mem_allowedMethods represents.known)
        (nodup_allowedMethods _)

theorem findRoute (path : Text) :
    Resolves (registered routes) method (normalizeOwned registry.norm path)
      (registry.findRoute method path) := by
  unfold RouteRegistry.findRoute
  rw [normalizeLookup_eq]
  dsimp only
  rw [represents.exact]
  split
  · rename_i slots found
    rw [Option.ite_none_right_eq_some, any_eq_true, Option.some.injEq] at found
    rw [← found.2]
    exact represents.dispatch_exact method found.1
  · rename_i absent
    rw [ite_eq_right_iff, imp_iff_not (by simp), Bool.not_eq_true, any_eq_false] at absent
    refine represents.findTemplate method (fun route member => ?_)
    exact Bool.eq_false_iff.mpr (absent route member)

end

end Represents

end Tables

/-- A frozen registry answers as its routes determine, after calls of `add_route` that do not throw.
A path with the shape of an earlier one but other names is only noted as a conflict. -/
theorem find_route_characterised {Handler : Type} (norm : PathNormalization)
    (registrations : List (Registration Handler)) {registry : RouteRegistry Handler}
    (added : RouteRegistry.addRoutes { norm := norm } registrations = .ok registry)
    (method : HttpMethod) (path : Text) :
    (∀ path, normalizeOwned norm path = normalizeLookup norm path) ∧
      Resolves (registered (routesOf norm registrations)) method (normalizeOwned norm path)
        (registry.freeze.2.findRoute method path) := by
  refine ⟨fun path => (normalizeLookup_eq norm path).symm, ?_⟩
  obtain ⟨same, represents⟩ := (Represents.empty norm).addRoutes added
  rw [nil_append] at represents
  have answer := represents.findRoute method path
  rw [same] at answer
  exact answer

/-- Two methods of a template, and a path with an escape and a slash at the end. -/
theorem find_route_characterised_escape : ∃ registry,
    RouteRegistry.addRoutes { norm := .collapseTrailingSlash }
      [⟨.get, "/u/\x7bid\x7d".toList, some 1⟩, ⟨.post, "/u/\x7bid\x7d".toList, some 2⟩] =
        .ok registry ∧
    registry.freeze.2.findRoute .post "/u/a%20b/".toList =
      .ok ⟨2, [("id".toList, "a b".toList)]⟩ ∧
    (∀ path, normalizeOwned .collapseTrailingSlash path =
      normalizeLookup .collapseTrailingSlash path) ∧
    Resolves (registered (routesOf .collapseTrailingSlash
        [⟨.get, "/u/\x7bid\x7d".toList, some 1⟩, ⟨.post, "/u/\x7bid\x7d".toList, some 2⟩]))
      .post (normalizeOwned .collapseTrailingSlash "/u/a%20b/".toList)
      (registry.freeze.2.findRoute .post "/u/a%20b/".toList) :=
  ⟨_, rfl, by decide +kernel, find_route_characterised .collapseTrailingSlash _ rfl .post _⟩

/-- Two methods of one shape, with two names of the parameter. -/
def twoNames : List (Registration Nat) :=
  [⟨.get, "/u/\x7bid\x7d".toList, some 1⟩, ⟨.post, "/u/\x7buid\x7d".toList, some 2⟩]

/-- Neither call throws, and the second one registers nothing. -/
theorem other_names_register_nothing : ∃ registry,
    RouteRegistry.addRoutes { norm := .none } twoNames = .ok registry ∧
    ¬Resolves (routesOf .none twoNames) .post (normalizeOwned .none "/u/5".toList)
      (registry.freeze.2.findRoute .post "/u/5".toList) := by
  refine ⟨_, rfl, ?_⟩
  intro resolves
  generalize answer : findRoute _ _ _ = result at resolves
  have refused : result = .error (.methodNotAllowed [.get]) := by
    rw [← answer]
    decide +kernel
  subst refused
  clear answer
  cases resolves with
  | exactMethods known => exact absurd known (by decide +kernel)
  | @templateMethods _ _ first _ _ _ split _ _ _ other =>
    have posted : ∀ first ∈ routesOf .none twoNames, ∃ route ∈ routesOf .none twoNames,
        first.shapedAs route = true ∧ route.method = .post := by
      decide +kernel
    obtain ⟨route, member, shaped, method⟩ := posted first (by rw [split]; simp)
    exact other route member shaped method

end Menagerie.Albatross
