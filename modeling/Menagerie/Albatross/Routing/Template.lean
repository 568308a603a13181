import Menagerie.Albatross.Routing.RouteRegistry

/-!
# Paths and templates

The two normalizations of a path are one function. A path with parameters is read as a template;
its captures are a relation, which `match_template` computes, and its shape forgets the names of the
parameters.
-/

namespace Menagerie.Albatross

open Beaver List

/-! ## Normalization -/

theorem collapseSlashes_of_single {path : Text} {prevSlash : Bool}
    (single : hasDoubleSlash path = false) (first : prevSlash → path.head? ≠ some '/') :
    collapseSlashes prevSlash path = path := by
  induction path generalizing prevSlash with
  | nil => rfl
  | cons c rest ih =>
    simp only [hasDoubleSlash, Bool.or_eq_false_iff, Bool.and_eq_false_iff,
      decide_eq_false_iff_not] at single
    have kept : ¬(c = '/' ∧ prevSlash = true) := by
      rintro ⟨slash, before⟩
      exact first before (by rw [slash, head?_cons])
    rw [collapseSlashes, if_neg kept, ih single.2]
    intro slash
    exact single.1.resolve_left (fun other => other (of_decide_eq_true slash))

theorem normalizeLookup_eq (norm : PathNormalization) (path : Text) :
    normalizeLookup norm path = normalizeOwned norm path := by
  unfold normalizeLookup normalizeOwned
  cases norm with
  | none => simp
  | collapseTrailingSlash => simp
  | collapseMultiSlash =>
    cases double : hasDoubleSlash path with
    | true => simp
    | false => simp [collapseSlashes_of_single double]

/-! ## Templates -/

/-- A literal or a parameter. -/
def readSegment (segment : Text) : PathSegment :=
  if 2 ≤ segment.length ∧ segment.head? = some '\x7b' ∧ segment.getLast? = some '\x7d' then
    ⟨segment.tail.dropLast, true⟩
  else ⟨segment, false⟩

/-- The template of a path. -/
def templateOf (normalized : Text) : List PathSegment :=
  (segmentsOf normalized).map readSegment

section

variable {normalized : Text} {read next : List PathSegment × List Text}

theorem parseSegment_eq_ok {segment : Text}
    (parsed : parseSegment normalized read segment = .ok next) :
    next.1 = read.1 ++ [readSegment segment] := by
  unfold parseSegment at parsed
  unfold readSegment
  split at parsed
  · rename_i braces
    rw [if_pos braces]
    simp only at parsed
    repeat' split at parsed
    all_goals cases parsed
    rfl
  · rename_i braces
    rw [if_neg braces]
    split at parsed <;> cases parsed
    rfl

theorem foldlM_parseSegment {segments : List Text}
    (parsed : segments.foldlM (parseSegment normalized) read = .ok next) :
    next.1 = read.1 ++ segments.map readSegment := by
  induction segments generalizing read with
  | nil =>
    cases parsed
    simp
  | cons segment rest ih =>
    rw [foldlM_cons] at parsed
    cases head : parseSegment normalized read segment with
    | error error => simp [head, bind, Except.bind] at parsed
    | ok middle =>
      simp only [head, bind, Except.bind] at parsed
      rw [ih parsed, parseSegment_eq_ok head, append_assoc, map_cons,
        singleton_append]

end

theorem parseSegments_eq_ok {normalized : Text} {segments : List PathSegment}
    (parsed : parseSegments normalized = .ok segments) : segments = templateOf normalized := by
  unfold parseSegments at parsed
  cases folded : (segmentsOf normalized).foldlM (parseSegment normalized) ([], []) with
  | error error => simp [folded, Except.map] at parsed
  | ok next =>
    simp only [folded, Except.map, Except.ok.injEq] at parsed
    rw [← parsed, foldlM_parseSegment folded]
    rfl

/-- The captures of a template that matches the segments of a path. -/
inductive Captures : List PathSegment → List Text → List (Text × Text) → Prop
  | nil : Captures [] [] []
  | literal {text : Text} {template : List PathSegment} {segments : List Text}
      {params : List (Text × Text)} (later : Captures template segments params) :
      Captures (⟨text, false⟩ :: template) (text :: segments) params
  | param {name segment decoded : Text} {template : List PathSegment} {segments : List Text}
      {params : List (Text × Text)} (nonempty : segment ≠ []) (decodes : Decodes segment decoded)
      (later : Captures template segments params) :
      Captures (⟨name, true⟩ :: template) (segment :: segments) ((name, decoded) :: params)

theorem captures_cons {expected : PathSegment} {template : List PathSegment} {segment : Text}
    {segments : List Text} {params : List (Text × Text)} :
    Captures (expected :: template) (segment :: segments) params ↔
      (expected.isParam = false ∧ segment = expected.text ∧ Captures template segments params) ∨
      (expected.isParam = true ∧ segment ≠ [] ∧ ∃ decoded later, Decodes segment decoded ∧
        Captures template segments later ∧ params = (expected.text, decoded) :: later) := by
  constructor
  · intro captures
    cases captures with
    | literal later => exact .inl ⟨rfl, rfl, later⟩
    | param nonempty decodes later => exact .inr ⟨rfl, nonempty, _, _, decodes, later, rfl⟩
  · obtain ⟨text, isParam⟩ := expected
    rintro (⟨rfl, rfl, later⟩ | ⟨rfl, nonempty, decoded, later, decodes, captures, rfl⟩)
    · exact .literal later
    · exact .param nonempty decodes captures

theorem foldlM_matchSegment {template : List PathSegment} {segments : List Text} {index : Nat}
    {params out : List (Text × Text)} (within : index ≤ template.length) :
    segments.foldlM (matchSegment template) (index, params) = some (template.length, out) ↔
      ∃ later, Captures (template.drop index) segments later ∧ out = params ++ later := by
  induction segments generalizing index params with
  | nil =>
    simp only [foldlM_nil, pure, Option.some.injEq, Prod.mk.injEq]
    constructor
    · rintro ⟨rfl, rfl⟩
      exact ⟨[], by rw [drop_length]; exact .nil, by simp⟩
    · rintro ⟨later, captures, rfl⟩
      generalize dropped : template.drop index = rest at captures
      cases captures
      rw [drop_eq_nil_iff] at dropped
      exact ⟨Nat.le_antisymm within dropped, by simp⟩
  | cons segment rest ih =>
    rw [foldlM_cons]
    cases entry : template[index]? with
    | none =>
      rw [getElem?_eq_none_iff] at entry
      rw [drop_eq_nil_of_le entry]
      have stops : matchSegment template (index, params) segment = none := by
        simp [matchSegment, getElem?_eq_none entry]
      simp only [stops, bind, Option.bind, reduceCtorEq, false_iff]
      rintro ⟨later, captures, _⟩
      cases captures
    | some expected =>
      obtain ⟨inside, here⟩ := List.getElem?_eq_some_iff.mp entry
      rw [drop_eq_getElem_cons inside, here]
      simp only [captures_cons]
      cases isParam : expected.isParam with
      | false =>
        by_cases same : segment = expected.text
        · simp [matchSegment, entry, isParam, same, ih (Nat.succ_le_of_lt inside)]
        · simp [matchSegment, entry, isParam, same]
      | true =>
        by_cases nonempty : segment = []
        · simp [matchSegment, entry, isParam, nonempty]
        · cases decoded : urlDecodeArena segment false with
          | none =>
            have malformed : ∀ out, ¬Decodes segment out := by
              intro out decodes
              rw [urlDecodeArena_eq_some_iff.mpr decodes] at decoded
              cases decoded
            simp [matchSegment, entry, isParam, nonempty, decoded, malformed]
          | some text =>
            have decodes := urlDecodeArena_eq_some_iff.mp decoded
            simp only [matchSegment, entry, isParam, nonempty, decoded, Bool.not_true,
              Bool.false_eq_true, if_false, Option.map_some, bind, Option.bind,
              ih (Nat.succ_le_of_lt inside)]
            constructor
            · rintro ⟨later, captures, rfl⟩
              exact ⟨_, .inr ⟨trivial, nonempty, text, later, decodes, captures, rfl⟩, by simp⟩
            · rintro ⟨_, ⟨absurd, _⟩ | ⟨_, _, other, later, same, captures, rfl⟩, rfl⟩
              · cases absurd
              · rw [same.unique decodes]
                exact ⟨later, captures, by simp⟩

theorem matchTemplate_eq_some_iff {Handler : Type} {template : ParamTemplate Handler} {path : Text}
    {params : List (Text × Text)} : matchTemplate template path = some params ↔
      Captures template.segments (segmentsOf path) params := by
  have walk := @foldlM_matchSegment template.segments (segmentsOf path) 0 [] params (Nat.zero_le _)
  simp only [drop_zero, nil_append, exists_eq_right'] at walk
  rw [← walk]
  unfold matchTemplate
  cases (segmentsOf path).foldlM (matchSegment template.segments) (0, []) with
  | none => simp
  | some walked =>
    simp only [Option.ite_none_right_eq_some, Option.some.injEq, Prod.ext_iff]

/-! ## Shapes -/

/-- A template without the names of its parameters. -/
def shape (template : List PathSegment) : List (Option Text) :=
  template.map (fun segment => if segment.isParam then none else some segment.text)

theorem sameShape_iff {first second : List PathSegment} :
    sameShape first second = true ↔ shape first = shape second := by
  induction first generalizing second with
  | nil => cases second <;> simp [sameShape, shape]
  | cons x xs ih =>
    cases second with
    | nil => simp [sameShape, shape]
    | cons y ys =>
      have rest := @ih ys
      simp only [shape] at rest
      cases hx : x.isParam <;> cases hy : y.isParam <;> simp [sameShape, shape, hx, hy, rest]

section

variable {first second : List PathSegment} (same : shape first = shape second)

include same

theorem namesMatch_iff :
    namesMatch first second = true ↔ first = second := by
  induction first generalizing second with
  | nil => cases second <;> simp_all [namesMatch, shape]
  | cons x xs ih =>
    cases second with
    | nil => simp [shape] at same
    | cons y ys =>
      obtain ⟨name, isParam⟩ := x
      obtain ⟨other, another⟩ := y
      simp only [shape, map_cons, cons.injEq] at same
      have kind : isParam = another := by
        cases isParam <;> cases another <;> simp_all
      simp [namesMatch, ih same.2, kind]

/-- A template without parameters is determined by its shape. -/
theorem eq_of_shape (literal : second.any PathSegment.isParam = false) : first = second := by
  rw [← namesMatch_iff same]
  induction first generalizing second with
  | nil => cases second <;> simp_all [namesMatch, shape]
  | cons x xs ih =>
    cases second with
    | nil => simp [shape] at same
    | cons y ys =>
      simp only [any_cons, Bool.or_eq_false_iff] at literal
      simp only [shape, map_cons, cons.injEq, literal.1, Bool.false_eq_true,
        if_false, Option.ite_none_left_eq_some, Option.some.injEq] at same
      simp only [namesMatch, same.1.2, decide_true, Bool.true_and]
      exact ih same.2 literal.2

theorem any_isParam_of_shape :
    first.any PathSegment.isParam = second.any PathSegment.isParam := by
  have byShape : ∀ template : List PathSegment,
      template.any PathSegment.isParam = (shape template).any Option.isNone := by
    intro template
    rw [shape, any_map]
    congr 1
    funext segment
    cases kind : segment.isParam <;> simp [kind]
  rw [byShape, byShape, same]

theorem captures_shape {segments : List Text} :
    (∃ params, Captures first segments params) ↔ ∃ params, Captures second segments params := by
  suffices half : ∀ {first second : List PathSegment} {params : List (Text × Text)},
      shape first = shape second → Captures first segments params →
      ∃ params, Captures second segments params from
    ⟨fun ⟨_, captures⟩ => half same captures, fun ⟨_, captures⟩ => half same.symm captures⟩
  intro first second params same captures
  induction captures generalizing second with
  | nil =>
    have empty : second = [] := by simpa [shape] using same.symm
    exact ⟨[], empty ▸ .nil⟩
  | literal _ ih =>
    obtain ⟨y, ys, rfl, head, tail⟩ := map_eq_cons_iff.mp same.symm
    obtain ⟨text, isParam⟩ := y
    obtain ⟨params, later⟩ := ih tail.symm
    cases isParam with
    | true => cases head
    | false =>
      cases head
      exact ⟨params, .literal later⟩
  | param nonempty decodes _ ih =>
    obtain ⟨y, ys, rfl, head, tail⟩ := map_eq_cons_iff.mp same.symm
    obtain ⟨text, isParam⟩ := y
    obtain ⟨params, later⟩ := ih tail.symm
    cases isParam with
    | false => cases head
    | true => exact ⟨_, .param nonempty decodes later⟩

end

end Menagerie.Albatross
