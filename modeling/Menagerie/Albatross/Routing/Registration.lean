import Menagerie.Albatross.Routing.Resolution
import Mathlib.Data.Set.Card

/-!
# Histories of registrations

`add_route` with the exceptions that it throws on its way, and what any calls of it, some of which
throw, leave in the tables: each slot holds the first handler that was accepted for it, and every
call that returns has filled a slot or is recorded as a conflict.
-/

namespace Menagerie.Albatross

open Beaver Function RouteRegistry List

variable {Handler : Type}

/-- What a slot is for: a literal path, or the shape of a template. -/
inductive RouteKey
  | path (path : Text)
  | shape (shape : List (Option Text))
  deriving DecidableEq

/-- The slot that a path is registered for. -/
def RouteKey.of (norm : PathNormalization) (path : Text) : RouteKey :=
  let template := templateOf (normalizeOwned norm path)
  if template.any PathSegment.isParam then .shape (Albatross.shape template)
  else .path (normalizeOwned norm path)

/-- The slot of a registration. -/
def Registration.place (norm : PathNormalization) (registration : Registration Handler) :
    HttpMethod × RouteKey :=
  (registration.method, .of norm registration.path)

/-- The handler of a key. -/
def RouteRegistry.slot (registry : RouteRegistry Handler) : HttpMethod × RouteKey → Option Handler
  | (method, .path path) => (registry.exact path).bind (· method)
  | (method, .shape key) =>
    (registry.parametric.find? (fun template => shape template.segments = key)).bind
      (ParamTemplate.byMethod · method)

/-- The shapes of the templates. -/
def RouteRegistry.shapes (registry : RouteRegistry Handler) : List (List (Option Text)) :=
  registry.parametric.map (fun template => shape template.segments)

/-- The registry with one more conflict for a registration. -/
def RouteRegistry.report (registry : RouteRegistry Handler) (registration : Registration Handler)
    (detail : Text) : RouteRegistry Handler :=
  { registry with conflicts := registry.conflicts ++
      [⟨registration.method, normalizeOwned registry.norm registration.path, detail⟩] }

/-- A registry, the calls of `add_route` that returned, and those without a conflict. -/
structure RegistrationLog (Handler : Type) where
  registry : RouteRegistry Handler
  returned : List (Registration Handler) := []
  accepted : List (Registration Handler) := []

/-- One more call of `add_route`. -/
def RegistrationLog.call (log : RegistrationLog Handler) (registration : Registration Handler) :
    RegistrationLog Handler :=
  match log.registry.addRoute registration with
  | (.error _, registry) => { log with registry := registry }
  | (.ok (), registry) =>
    { registry := registry
      returned := log.returned ++ [registration]
      accepted := if registry.conflicts.length = log.registry.conflicts.length then
        log.accepted ++ [registration] else log.accepted }

/-! ## One call -/

/-- A call fills an empty slot. -/
structure Fills (registry : RouteRegistry Handler) (registration : Registration Handler)
    (after : RouteRegistry Handler) : Prop where
  free : registry.slot (registration.place registry.norm) = none
  slots : after.slot =
    Function.update registry.slot (registration.place registry.norm) registration.handler
  shapes : after.shapes.Nodup
  conflicts : after.conflicts = registry.conflicts
  norm : after.norm = registry.norm
  frozen : after.frozen = registry.frozen
  handler : registration.handler.isSome

section Call

variable {registry : RouteRegistry Handler} {registration : Registration Handler}
  {handler : Handler}

theorem addExact_fills {normalized : Text} (given : registration.handler = some handler)
    (path : normalizeOwned registry.norm registration.path = normalized)
    (distinct : registry.shapes.Nodup)
    (literal : (templateOf normalized).any PathSegment.isParam = false) :
    (∃ detail, registry.addExact registration.method normalized handler =
        registry.report registration detail) ∨
      Fills registry registration (registry.addExact registration.method normalized handler) := by
  have place : registration.place registry.norm = (registration.method, .path normalized) := by
    rw [Registration.place, RouteKey.of, path, literal]
    rfl
  have held : ∀ method, (registry.exact normalized).getD (fun _ => none) method =
      registry.slot (method, .path normalized) := by
    intro method
    rw [slot]
    cases registry.exact normalized <;> rfl
  unfold addExact
  dsimp only
  rw [held]
  cases slot : registry.slot (registration.method, .path normalized) with
  | some other =>
    left
    exact ⟨"duplicate route".toList, by rw [report, path]; rfl⟩
  | none =>
    right
    refine ⟨place ▸ slot, ?_, distinct, rfl, rfl, rfl, by rw [given]; rfl⟩
    rw [place, given, Option.isSome_none, if_neg Bool.false_ne_true]
    funext ⟨method, key⟩
    cases key with
    | shape key => rw [update_of_ne (by simp)]; rfl
    | path other =>
      by_cases same : other = normalized
      · subst same
        by_cases own : method = registration.method
        · subst own
          simp [RouteRegistry.slot]
        · rw [update_of_ne (by simp [own]), ← held]
          simp [RouteRegistry.slot, own]
      · rw [update_of_ne (by simp [same])]
        simp [RouteRegistry.slot, same]

section

variable {templates : List (ParamTemplate Handler)} {key : List (Option Text)}

theorem fills_parametric (given : registration.handler = some handler)
    (place : registration.place registry.norm = (registration.method, .shape key))
    (free : registry.slot (registration.method, .shape key) = none)
    (distinct : (templates.map (fun template => shape template.segments)).Nodup)
    (own : ∀ method,
      slot { registry with parametric := templates } (method, .shape key) =
        if method = registration.method then some handler else registry.slot (method, .shape key))
    (others : ∀ other, other ≠ key →
      templates.find? (fun template => shape template.segments = other) =
        registry.parametric.find? (fun template => shape template.segments = other)) :
    Fills registry registration { registry with parametric := templates } := by
  refine ⟨place ▸ free, ?_, distinct, rfl, rfl, rfl, by rw [given]; rfl⟩
  rw [place, given]
  funext ⟨method, wanted⟩
  cases wanted with
  | path path =>
    rw [update_of_ne (by simp)]
    rfl
  | shape wanted =>
    by_cases same : wanted = key
    · rw [same, own, update_apply]
      simp
    · rw [update_of_ne (by simp [same]), slot, others wanted same,
        slot]

theorem find?_shape_eq_none (absent : ∀ template ∈ templates, shape template.segments ≠ key) :
    templates.find? (fun template => shape template.segments = key) = none := by
  rw [find?_eq_none]
  intro template member same
  exact absent template member (of_decide_eq_true same)

end

section

variable (given : registration.handler = some handler)

include given

theorem addTemplate_fresh_fills {segments : List PathSegment}
    (place : registration.place registry.norm = (registration.method, .shape (shape segments)))
    (distinct : registry.shapes.Nodup)
    (fresh : ∀ template ∈ registry.parametric, shape template.segments ≠ shape segments) :
    Fills registry registration { registry with
      parametric := registry.parametric ++
        [⟨segments, update (fun _ => none) registration.method (some handler)⟩] } := by
  have absent := find?_shape_eq_none fresh
  have free : ∀ method, registry.slot (method, .shape (shape segments)) = none := by
    intro method
    rw [slot, absent, Option.bind_none]
  refine fills_parametric given place (free _) ?_ ?_ ?_
  · rw [map_append, nodup_append]
    refine ⟨distinct, nodup_singleton _, ?_⟩
    intro old member new last
    obtain ⟨template, stored, rfl⟩ := mem_map.mp member
    rw [mem_singleton.mp last]
    exact fresh template stored
  · intro method
    rw [free, slot, find?_append, absent]
    simp [update_apply]
  · intro other differs
    rw [find?_append]
    simp [Ne.symm differs]

theorem addTemplate_known_fills {before after : List (ParamTemplate Handler)}
    {template : ParamTemplate Handler}
    (place : registration.place registry.norm =
      (registration.method, .shape (shape template.segments))) (distinct : registry.shapes.Nodup)
    (split : registry.parametric = before ++ template :: after)
    (free : template.byMethod registration.method = none) :
    Fills registry registration { registry with
      parametric := before ++ template.setMethod registration.method handler :: after } := by
  rw [shapes, split, map_append, map_cons] at distinct
  have earlier : before.find? (fun other => shape other.segments = shape template.segments) =
      none := by
    refine find?_shape_eq_none (fun other member => ?_)
    exact (nodup_append.mp distinct).2.2 _ (mem_map_of_mem member) _ mem_cons_self
  have slot : ∀ method, registry.slot (method, .shape (shape template.segments)) =
      template.byMethod method := by
    intro method
    rw [slot, split, find?_append, earlier]
    simp
  refine fills_parametric given place (by rw [slot, free]) ?_ ?_ ?_
  · rw [map_append, map_cons]
    exact distinct
  · intro method
    rw [slot, RouteRegistry.slot, find?_append, earlier]
    simp [ParamTemplate.setMethod, update_apply]
  · intro other differs
    rw [split, find?_append, find?_append]
    simp [ParamTemplate.setMethod, Ne.symm differs]

theorem addParametric_fills {normalized : Text}
    (path : normalizeOwned registry.norm registration.path = normalized)
    (distinct : registry.shapes.Nodup)
    (parametric : (templateOf normalized).any PathSegment.isParam = true) :
    (∃ detail, registry.addParametric registration.method normalized (templateOf normalized)
        handler = registry.report registration detail) ∨
      Fills registry registration (registry.addParametric registration.method normalized
        (templateOf normalized) handler) := by
  have place : registration.place registry.norm =
      (registration.method, .shape (shape (templateOf normalized))) := by
    rw [Registration.place, RouteKey.of, path, parametric]
    rfl
  unfold addParametric
  rcases addTemplate_cases registration.method (templateOf normalized) handler registry.parametric
    with ⟨fresh, added⟩ | ⟨before, template, after, split, same,
      ⟨_, added⟩ | ⟨_, _, detail, added⟩ | ⟨_, free, added⟩⟩
  · right
    rw [added]
    exact addTemplate_fresh_fills given place distinct fresh
  · left
    rw [added]
    exact ⟨_, by rw [report, path]⟩
  · left
    rw [added]
    exact ⟨detail, by rw [report, path]⟩
  · right
    rw [added]
    rw [← same] at place
    exact addTemplate_known_fills given place distinct split free

end

/-- A call throws, is reported as a conflict, or fills an empty slot. -/
theorem addRoute_cases (distinct : registry.shapes.Nodup) (registration : Registration Handler) :
    (∃ error, registry.addRoute registration = (.error error, registry)) ∨
      (∃ detail, registry.addRoute registration = (.ok (), registry.report registration detail)) ∨
      ∃ after, registry.addRoute registration = (.ok (), after) ∧
        Fills registry registration after := by
  unfold addRoute
  split
  · exact .inl ⟨_, rfl⟩
  split
  · exact .inl ⟨_, rfl⟩
  split
  · exact .inl ⟨_, rfl⟩
  rename_i handler given
  split
  · exact .inl ⟨_, rfl⟩
  dsimp only
  split
  · exact .inl ⟨_, rfl⟩
  rename_i segments parsed
  rw [parseSegments_eq_ok parsed]
  right
  split
  · rename_i parametric
    rcases addParametric_fills given rfl distinct parametric with ⟨detail, added⟩ | fills
    · exact .inl ⟨detail, by rw [added]⟩
    · exact .inr ⟨_, rfl, fills⟩
  · rename_i literal
    rcases addExact_fills given rfl distinct (Bool.eq_false_of_not_eq_true literal) with
      ⟨detail, added⟩ | fills
    · exact .inl ⟨detail, by rw [added]⟩
    · exact .inr ⟨_, rfl, fills⟩

theorem addRoute_otherNames {segments : List PathSegment} {template : ParamTemplate Handler}
    (unfrozen : registry.frozen = false) (distinct : registry.shapes.Nodup)
    (known : registration.method ≠ .unknown) (given : registration.handler.isSome)
    (rooted : registration.path.head? = some '/')
    (parsed : parseSegments (normalizeOwned registry.norm registration.path) = .ok segments)
    (stored : template ∈ registry.parametric)
    (same : shape template.segments = shape segments) (names : template.segments ≠ segments) :
    registry.addRoute registration = (.ok (), registry.report registration
      "parametric route already registered with different parameter names".toList) := by
  obtain ⟨handler, given⟩ := Option.isSome_iff_exists.mp given
  have parametric : segments.any PathSegment.isParam = true := by
    rw [← Bool.not_eq_false]
    exact fun literal => names (eq_of_shape same literal)
  rw [addRoute, if_neg (by simp [unfrozen]), if_neg known, given]
  dsimp only
  rw [if_neg (by simp [rooted]), parsed]
  dsimp only
  rw [if_pos parametric, addParametric]
  rcases addTemplate_cases registration.method segments handler registry.parametric
    with ⟨fresh, _⟩ | ⟨before, found, after, split, shapes, outcome⟩
  · exact absurd same (fresh template stored)
  · have equal : found = template := by
      refine inj_on_of_nodup_map distinct ?_ stored (shapes.trans same.symm)
      simp [split]
    rw [equal] at outcome
    rcases outcome with ⟨_, added⟩ | ⟨equal, _⟩ | ⟨equal, _⟩
    · rw [added]
      rfl
    · exact absurd equal names
    · exact absurd equal names

end Call

/-! ## All calls -/

/-- What holds after any calls of `add_route`. -/
structure RegistrationLog.Consistent (norm : PathNormalization) (log : RegistrationLog Handler) :
    Prop where
  mode : log.registry.norm = norm
  unfrozen : log.registry.frozen = false
  shapes : log.registry.shapes.Nodup
  slots : ∀ place, log.registry.slot place =
    (log.accepted.find? (fun registration => registration.place norm = place)).bind
      Registration.handler
  places : (log.accepted.map (Registration.place norm)).Nodup
  handlers : ∀ registration ∈ log.accepted, registration.handler.isSome
  count : log.returned.length = log.accepted.length + log.registry.conflicts.length

namespace RegistrationLog.Consistent

variable {norm : PathNormalization} {log : RegistrationLog Handler}

theorem isSome_slot_iff (consistent : log.Consistent norm) (place : HttpMethod × RouteKey) :
    (log.registry.slot place).isSome ↔ place ∈ log.accepted.map (Registration.place norm) := by
  rw [consistent.slots, mem_map]
  cases found : log.accepted.find? (fun registration => registration.place norm = place) with
  | none =>
    rw [find?_eq_none] at found
    simpa using found
  | some registration =>
    have member := mem_of_find?_eq_some found
    have same := find?_some found
    simp only [Option.bind_some, consistent.handlers registration member, true_iff]
    exact ⟨registration, member, of_decide_eq_true same⟩

theorem call (consistent : log.Consistent norm) (registration : Registration Handler) :
    (log.call registration).Consistent norm := by
  unfold RegistrationLog.call
  rcases addRoute_cases consistent.shapes registration with
    ⟨error, threw⟩ | ⟨detail, reported⟩ | ⟨after, returned, fills⟩
  · rw [threw]
    exact consistent
  · rw [reported]
    have count := consistent.count
    refine ⟨consistent.mode, consistent.unfrozen, consistent.shapes, ?_, ?_, ?_, ?_⟩
    all_goals simp only [report, length_append, length_singleton,
      Nat.add_eq_left, Nat.one_ne_zero, if_false]
    · exact consistent.slots
    · exact consistent.places
    · exact consistent.handlers
    · omega
  · rw [returned]
    have count := consistent.count
    have free := fills.free
    have slots := fills.slots
    rw [consistent.mode] at free slots
    have fresh : registration.place norm ∉ log.accepted.map (Registration.place norm) := by
      rw [← consistent.isSome_slot_iff, free]
      exact Bool.false_ne_true
    refine ⟨fills.norm.trans consistent.mode, fills.frozen.trans consistent.unfrozen,
      fills.shapes, ?_, ?_, ?_, ?_⟩
    all_goals simp only [fills.conflicts, if_true]
    · intro place
      rw [slots, update_apply, find?_append]
      by_cases same : place = registration.place norm
      · have earlier : log.accepted.find? (fun other => other.place norm = place) = none := by
          rw [find?_eq_none]
          intro other member equal
          rw [← same, ← of_decide_eq_true equal] at fresh
          exact fresh (mem_map_of_mem member)
        rw [if_pos same, earlier]
        simp [same]
      · rw [if_neg same, consistent.slots, find?_singleton, if_neg (by simp [Ne.symm same]),
          Option.or_none]
    · rw [map_append, map_singleton, ← concat_eq_append]
      exact consistent.places.concat fresh
    · intro other member
      rcases mem_append.mp member with member | last
      · exact consistent.handlers other member
      · rw [mem_singleton.mp last]
        exact fills.handler
    · rw [length_append, length_append, length_singleton]
      omega

theorem calls (norm : PathNormalization) (registrations : List (Registration Handler)) :
    (registrations.foldl RegistrationLog.call { registry := { norm := norm } }).Consistent norm :=
  foldlRecOn registrations RegistrationLog.call
    ⟨rfl, rfl, nodup_nil, fun ⟨_, key⟩ => by cases key <;> rfl, nodup_nil, by simp, rfl⟩
    (fun _ consistent registration _ => consistent.call registration)

theorem filled_eq (consistent : log.Consistent norm) :
    { place | (log.registry.slot place).isSome } =
      ((log.accepted.map (Registration.place norm)).toFinset : Set (HttpMethod × RouteKey)) := by
  ext place
  rw [Set.mem_ofPred_eq, consistent.isSome_slot_iff, coe_toFinset, Set.mem_ofPred_eq]

end RegistrationLog.Consistent

/-- After any calls of `add_route`: no two templates have one shape; each slot holds the handler of
the first accepted registration; a stored shape with other names is only reported as a conflict; the
calls that returned are the filled slots and the conflicts; and a throw changes nothing. -/
theorem registration_invariant (norm : PathNormalization)
    (registrations : List (Registration Handler)) :
    let log := registrations.foldl RegistrationLog.call { registry := { norm := norm } }
    log.registry.shapes.Nodup ∧
      (∀ place, log.registry.slot place =
        (log.accepted.find? (fun registration => registration.place norm = place)).bind
          Registration.handler) ∧
      (∀ registration segments, ∀ template ∈ log.registry.parametric,
        registration.method ≠ .unknown → registration.handler.isSome →
        registration.path.head? = some '/' →
        parseSegments (normalizeOwned norm registration.path) = .ok segments →
        shape template.segments = shape segments → template.segments ≠ segments →
        log.registry.addRoute registration = (.ok (), log.registry.report registration
          "parametric route already registered with different parameter names".toList)) ∧
      { place | (log.registry.slot place).isSome }.Finite ∧
      log.returned.length = { place | (log.registry.slot place).isSome }.ncard +
        log.registry.conflicts.length ∧
      ∀ registration error after, log.registry.addRoute registration = (.error error, after) →
        after = log.registry := by
  intro log
  have consistent : log.Consistent norm := RegistrationLog.Consistent.calls norm registrations
  refine ⟨consistent.shapes, consistent.slots, ?_, ?_, ?_, ?_⟩
  · intro registration segments template stored known given rooted parsed same names
    rw [← consistent.mode] at parsed
    exact addRoute_otherNames consistent.unfrozen consistent.shapes known given rooted parsed
      stored same names
  · rw [consistent.filled_eq]
    exact Finset.finite_toSet _
  · rw [consistent.filled_eq, Set.ncard_coe_finset, toFinset_card_of_nodup consistent.places,
      length_map, consistent.count]
  · intro registration error after threw
    rcases addRoute_cases consistent.shapes registration with
      ⟨_, same⟩ | ⟨_, same⟩ | ⟨_, same, _⟩
    · rw [threw] at same
      exact (Prod.mk.inj same).2
    · rw [threw] at same
      cases same
    · rw [threw] at same
      cases same

end Menagerie.Albatross
