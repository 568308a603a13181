import Mathlib.Data.List.Induction
import Menagerie.Savanna.Capture

/-!
# How placeholders are numbered

A literal and a `ParamPlaceholder` both emit `$N`. Tuple mode numbers both by one counter and
returns the values of the literals alone. Sink mode numbers a literal by the size of the sink and a
`ParamPlaceholder` by the counter of the visitor, so one of each gets the same number.
-/

namespace Menagerie.Savanna

open Beaver PostgresDialect List

/-- A piece that emits a placeholder, as a value. -/
def Piece.asValue : Piece → Piece
  | .placeholder => .value .monostate
  | piece => piece

/-- The fixed texts of an expression around its placeholders. -/
def Expression.gaps (expr : Expression) : List Text :=
  Savanna.segments (expr.pieces.map Piece.asValue)

/-- The numbers that are emitted, from these counters on. -/
@[simp] def numbers (settings : Settings) : Counters → List Piece → List Nat
  | _, [] => []
  | counters, piece :: rest =>
    let others := numbers settings (counters.after settings piece) rest
    match piece with
    | .value _ =>
      (if settings.mode = .sink then counters.pushed + 1 else counters.numbered + 1) :: others
    | .placeholder => (counters.numbered + 1) :: others
    | .fragment _ | .identifier _ | .number _ | .raw _ => others

section Numbers

variable {settings : Settings} {counters : Counters} {pieces : List Piece}

attribute [local simp] numbers Counters.after Piece.numbers List.range'_succ

theorem length_numbers : (numbers settings counters pieces).length = (marks pieces).length := by
  induction pieces generalizing counters with
  | nil => rfl
  | cons piece rest ih => cases piece <;> simp [ih, marks, Piece.mark]

/-- Outside inline mode the gaps have numbered placeholders between them. -/
theorem fill_numbers (numbered : settings.mode ≠ .inline) (counters : Counters) :
    fill settings counters pieces = .ok (weave (segments (pieces.map Piece.asValue))
      ((numbers settings counters pieces).map placeholder)) := by
  induction pieces generalizing counters with
  | nil => rfl
  | cons piece rest ih =>
    rw [fill, ih, map_cons]
    cases piece with
    | value val =>
      have spelled : Piece.spell settings counters (.value val) = .ok (placeholder
          (if settings.mode = .sink then counters.pushed + 1 else counters.numbered + 1)) := by
        cases mode : settings.mode with
        | inline => exact absurd mode numbered
        | tuple | sink => simp [Piece.spell, mode]
      rw [spelled, Piece.asValue, numbers, map_cons, weave_value]
      · rfl
      · exact Piece.noConfusion
    | placeholder =>
      rw [Piece.asValue, numbers, map_cons, weave_value]
      rfl
    | _ =>
      rw [Piece.asValue, numbers, weave_plain]
      · rfl
      · exact fun val => Piece.noConfusion
      · exact Piece.noConfusion

theorem numbers_tuple (tuple : settings.mode = .tuple) :
    numbers settings counters pieces = range' (counters.numbered + 1) (marks pieces).length := by
  induction pieces generalizing counters with
  | nil => rfl
  | cons piece rest ih =>
    cases piece <;>
      simp [ih, marks, Piece.mark, tuple]

/-- Without a `ParamPlaceholder` sink mode counts the values. -/
theorem numbers_sink (sink : settings.mode = .sink) (closed : none ∉ marks pieces) :
    numbers settings counters pieces = range' (counters.pushed + 1) (marks pieces).length := by
  induction pieces generalizing counters with
  | nil => rfl
  | cons piece rest ih =>
    rw [marks_cons, mem_append, not_or] at closed
    cases piece with
    | placeholder => exact absurd mem_cons_self closed.1
    | _ =>
      simp [ih closed.2, marks, Piece.mark, sink, Piece.pushes]

/-- Without a value every mode counts the `ParamPlaceholder`s. -/
theorem numbers_parameters (valueless : ∀ val, some val ∉ marks pieces) :
    numbers settings counters pieces =
      range' (counters.numbered + 1) (marks pieces).length := by
  induction pieces generalizing counters with
  | nil => rfl
  | cons piece rest ih =>
    have others : ∀ val, some val ∉ marks rest := fun val member =>
      valueless val (mem_append_right _ member)
    cases piece with
    | value val => exact absurd mem_cons_self (valueless val)
    | _ =>
      simp [ih others, marks, Piece.mark]

section

variable (sink : settings.mode = .sink)

include sink

/-- The first value gets the number after the sink. -/
theorem pushed_mem_numbers {val : FieldValue} (value : some val ∈ marks pieces) :
    counters.pushed + 1 ∈ numbers settings counters pieces := by
  induction pieces generalizing counters with
  | nil => cases value
  | cons piece rest ih =>
    cases piece with
    | value other => simp [sink]
    | placeholder =>
      have later := @ih (counters.after settings .placeholder) (by simpa using value)
      exact mem_cons_of_mem _ later
    | _ => exact ih (by simpa [marks, Piece.mark] using value)

theorem numbered_after_value (val : FieldValue) :
    (counters.after settings (.value val)).numbered = counters.numbered := by
  simp [sink]

/-- The first `ParamPlaceholder` gets the next number. -/
theorem numbered_mem_numbers (parameter : none ∈ marks pieces) :
    counters.numbered + 1 ∈ numbers settings counters pieces := by
  induction pieces generalizing counters with
  | nil => cases parameter
  | cons piece rest ih =>
    cases piece with
    | value other =>
      have later := @ih (counters.after settings (.value other)) (by simpa using parameter)
      rw [numbered_after_value sink] at later
      exact mem_cons_of_mem _ later
    | placeholder => simp
    | _ => exact ih (by simpa [marks, Piece.mark] using parameter)

/-- In sink mode a value and a `ParamPlaceholder` share a number. -/
theorem not_nodup_numbers (same : counters.pushed = counters.numbered) {val : FieldValue}
    (value : some val ∈ marks pieces) (parameter : none ∈ marks pieces) :
    ¬ (numbers settings counters pieces).Nodup := by
  induction pieces generalizing counters with
  | nil => cases value
  | cons piece rest ih =>
    cases piece with
    | value other =>
      have later := @numbered_mem_numbers settings
        (counters.after settings (.value other)) rest sink
        (by simpa using parameter)
      rw [numbered_after_value sink] at later
      simp only [numbers, sink, if_true, nodup_cons, not_and]
      rw [same]
      exact fun fresh => absurd later fresh
    | placeholder =>
      have later := @pushed_mem_numbers settings
        (counters.after settings .placeholder) rest sink val
        (by simpa using value)
      simp only [Counters.after, Piece.pushes, length_nil] at later
      simp only [numbers, nodup_cons, not_and]
      rw [← same]
      exact fun fresh => absurd later fresh
    | _ =>
      exact ih same (by simpa [marks, Piece.mark] using value)
        (by simpa [marks, Piece.mark] using parameter)

end

end Numbers

/-- The placeholders are `$1`, `$2`, …, and each literal is bound at its number. -/
structure Numbered (expr : Expression) (text : Text) (params : List FieldValue) : Prop where
  text : text = weave expr.gaps (placeholders 0 expr.slots.length)
  bound : ∀ (index : Nat) value, expr.slots[index]? = some (.literal value) →
    params[index]? = some value

section Compile

variable (expr : Expression)

/-- Sink mode numbers and binds its placeholders. -/
def SinkNumbered : Prop :=
  ∀ category, ∃ query, compileDynamic .sink category expr = .ok query ∧
    Numbered expr query.sql query.params

/-- Tuple mode throws, or numbers and binds its placeholders. -/
def TupleNumbered : Prop :=
  ∀ evaluation category maxLen,
    compileStatic evaluation .tuple maxLen category expr = .error .outOfRange ∨
    ∃ query, compileStatic evaluation .tuple maxLen category expr = .ok query ∧
      Numbered expr query.sql.view query.params

/-- No `ParamPlaceholder` stands beside a value. -/
def Expression.Unmixed : Prop := .parameter ∉ expr.slots ∨ ∀ slot ∈ expr.slots, slot = .parameter

instance : Decidable expr.Unmixed := inferInstanceAs (Decidable (_ ∨ _))

/-- Nothing else stands before a literal. -/
def Expression.LiteralsFirst : Prop :=
  expr.slots.Pairwise fun first second => second.literal?.isSome → first.literal?.isSome

instance : Decidable expr.LiteralsFirst := inferInstanceAs (Decidable (List.Pairwise _ _))

variable {expr}

theorem length_slots : (marks expr.pieces).length = expr.slots.length := by
  rw [(slots_spec expr).1, length_map]

theorem parameter_mem_iff : none ∈ marks expr.pieces ↔ .parameter ∈ expr.slots := by
  rw [(slots_spec expr).1, mem_map]
  constructor
  · rintro ⟨slot, member, same⟩
    cases slot with
    | parameter => exact member
    | literal => cases same
    | stored => cases same
  · exact fun member => ⟨_, member, rfl⟩

theorem separable_placeholders (first second : Nat) :
    Separable (placeholder first) (placeholder second) := by
  have digits : ∀ n, ∀ c ∈ constexprToString n, numberChar c = true := fun n c member =>
    numberChar_of_isDigit (constexprToString_isDigit n c member)
  intro rest others stops otherStops same
  have tails := (cons.inj same).2
  have similar : SameOrNumbers (constexprToString first) (constexprToString second) :=
    .inr ⟨digits first, digits second⟩
  rw [placeholder, placeholder,
    similar.separable rest others stops otherStops tails]

theorem spacing_asValue (boundary : Boundary) (pieces : List Piece) :
    spacing boundary (pieces.map Piece.asValue) = spacing boundary pieces := by
  induction pieces generalizing boundary with
  | nil => rfl
  | cons piece rest ih =>
    rw [map_cons, spacing, spacing, ih]
    cases piece <;> rfl

theorem length_pieceValues_asValue (pieces : List Piece) :
    (pieceValues (pieces.map Piece.asValue)).length = (marks pieces).length := by
  induction pieces with
  | nil => rfl
  | cons piece rest ih => cases piece <;> simp [Piece.asValue, pieceValues, marks, Piece.mark, ih]

theorem forall_separable {first second : List Nat} (same : first.length = second.length) :
    Forall₂ Separable (first.map placeholder)
      (second.map placeholder) := by
  induction first generalizing second with
  | nil =>
    rw [length_eq_zero_iff.mp same.symm]
    exact .nil
  | cons number first ih =>
    cases second with
    | nil => cases same
    | cons other second => exact .cons (separable_placeholders _ _) (ih (Nat.succ.inj same))

theorem numbers_of_text {first second : List Nat} (count : first.length = expr.slots.length)
    (otherCount : second.length = expr.slots.length)
    (same : weave expr.gaps (first.map placeholder) =
      weave expr.gaps (second.map placeholder)) : first = second := by
  obtain ⟨last, -, spaced⟩ := spaced_pieces expr
  rw [← spacing_asValue] at spaced
  have texts := weave_separable _ _ _ spaced _ _ (forall_separable (count.trans otherCount.symm))
    (by rw [length_map, length_pieceValues_asValue, length_slots, count]) same
  refine map_injective_iff.mpr (fun number other equal => ?_) texts
  exact constexprToString_injective (cons.inj equal).2

theorem marks_eq_map {pieces : List Piece} (closed : none ∉ marks pieces) :
    marks pieces = (pieceValues pieces).map some := by
  induction pieces with
  | nil => rfl
  | cons piece rest ih =>
    rw [marks_cons, mem_append, not_or] at closed
    rw [marks_cons, ih closed.2]
    cases piece with
    | placeholder => exact absurd mem_cons_self closed.1
    | _ => rfl

theorem compileDynamic_numbers (category : ValueCategory) :
    compileDynamic .sink category expr =
      .ok ⟨weave expr.gaps ((numbers ⟨.runtime, .sink⟩ {} expr.pieces).map
        placeholder), expr.values⟩ := by
  have filled := @fill_numbers ⟨.runtime, .sink⟩ expr.pieces ParamMode.noConfusion {}
  rw [compileDynamic_eq .sink category expr filled, pushedValues_sink rfl]
  rfl

theorem sinkNumbered_iff : SinkNumbered expr ↔ expr.Unmixed := by
  have marked := (slots_spec expr).1
  have count : (numbers ⟨.runtime, .sink⟩ {} expr.pieces).length = expr.slots.length := by
    rw [length_numbers, length_slots]
  constructor
  · intro numbered
    by_contra mixed
    rw [Expression.Unmixed, not_or, not_not] at mixed
    obtain ⟨parameter, other⟩ := mixed
    obtain ⟨query, compiled, text, -⟩ := numbered .lvalue
    rw [compileDynamic_numbers] at compiled
    cases compiled
    have all := numbers_of_text count length_range' text
    have value : ∃ val, some val ∈ marks expr.pieces := by
      simp only [not_forall] at other
      obtain ⟨slot, member, differs⟩ := other
      rw [marked]
      cases slot with
      | literal val | stored val => exact ⟨val, mem_map_of_mem member⟩
      | parameter => exact absurd rfl differs
    obtain ⟨val, member⟩ := value
    have twice := @not_nodup_numbers ⟨.runtime, .sink⟩ {} _ rfl rfl val member
      (parameter_mem_iff.mpr parameter)
    rw [all] at twice
    exact twice nodup_range'
  · intro unmixed category
    refine ⟨_, compileDynamic_numbers category, ?_⟩
    rcases unmixed with closed | open'
    · have unmarked := mt parameter_mem_iff.mp closed
      constructor
      · rw [numbers_sink rfl unmarked, length_slots]
        rfl
      · intro index value slot
        have here : (marks expr.pieces)[index]? = some (some value) := by
          rw [marked, getElem?_map, slot]
          rfl
        rw [marks_eq_map unmarked, getElem?_map, Option.map_eq_some_iff] at here
        obtain ⟨bound, found, same⟩ := here
        cases same
        exact found
    · have valueless : ∀ val, some val ∉ marks expr.pieces := by
        intro val member
        rw [marked, mem_map] at member
        obtain ⟨slot, inside, same⟩ := member
        rw [open' slot inside] at same
        cases same
      constructor
      · rw [numbers_parameters valueless, length_slots]
        rfl
      · intro index value slot
        have isParameter := open' _ (mem_of_getElem? slot)
        cases isParameter

/-- A value is at the place of its literal exactly if nothing else comes before. -/
theorem bound_iff_pairwise (slots : List Slot) :
    (∀ (index : Nat) value, slots[index]? = some (.literal value) →
      (slots.filterMap Slot.literal?)[index]? = some value) ↔
    slots.Pairwise fun first second => second.literal?.isSome → first.literal?.isSome := by
  constructor
  · induction slots using reverseRecOn with
    | nil => exact fun _ => .nil
    | append_singleton init last ih =>
      intro bound
      rw [pairwise_append]
      cases isLiteral : last.literal? with
      | none =>
        refine ⟨ih fun index value slot => ?_, pairwise_singleton _ _, ?_⟩
        · have inside := List.getElem?_eq_some_iff.mp slot
          have whole := bound index value (by rw [getElem?_append_left inside.1, slot])
          rwa [filterMap_append, filterMap_cons_none isLiteral, filterMap_nil,
            append_nil] at whole
        · intro first _ second member some
          rw [mem_singleton.mp member, isLiteral] at some
          cases some
      | some value =>
        -- The last literal has a value at its place, so none before it is missing.
        have slot : last = .literal value := by
          cases last with
          | literal other =>
            cases isLiteral
            rfl
          | stored | parameter => cases isLiteral
        have found := bound init.length value (by simp [slot])
        have long := (List.getElem?_eq_some_iff.mp found).1
        rw [filterMap_append, length_append, filterMap_cons_some isLiteral,
          filterMap_nil, length_singleton] at long
        have short := length_filterMap_le Slot.literal? init
        have all := filterMap_length_eq_length.mp
          (show (init.filterMap Slot.literal?).length = init.length by omega)
        refine ⟨pairwise_of_forall_mem_list fun first member _ _ _ => all first member,
          pairwise_singleton _ _, fun first member _ _ _ => all first member⟩
  · intro ordered
    induction slots with
    | nil =>
      intro index value slot
      cases slot
    | cons first rest ih =>
      rw [pairwise_cons] at ordered
      intro index value slot
      cases isLiteral : first.literal? with
      | some head =>
        rw [filterMap_cons_some isLiteral]
        cases index with
        | zero =>
          cases slot
          exact isLiteral.symm
        | succ index => exact ih ordered.2 index value slot
      | none =>
        have before : first.literal?.isSome = true := by
          cases index with
          | zero =>
            cases slot
            cases isLiteral
          | succ index => exact ordered.1 _ (mem_of_getElem? slot) rfl
        rw [isLiteral] at before
        cases before

theorem tupleNumbered_iff : TupleNumbered expr ↔ expr.LiteralsFirst := by
  have captured := (slots_spec expr).2
  have filled : ∀ evaluation, fill ⟨evaluation, .tuple⟩ {} expr.pieces =
      .ok (weave expr.gaps (placeholders 0 expr.slots.length)) := by
    intro evaluation
    have counted := @numbers_tuple ⟨evaluation, .tuple⟩ {} expr.pieces rfl
    rw [fill_numbers ParamMode.noConfusion, counted, length_slots]
    rfl
  rw [Expression.LiteralsFirst, ← bound_iff_pairwise, ← captured]
  constructor
  · intro numbered
    obtain ⟨query, compiled, view, params⟩ := compileStatic_fits .runtime .tuple .lvalue expr
      (filled .runtime) (Nat.le_refl _)
    rcases numbered .runtime .lvalue _ with thrown | ⟨again, compiledAgain, -, bound⟩
    · rw [compiled] at thrown
      cases thrown
    · rw [compiled] at compiledAgain
      cases compiledAgain
      rw [params] at bound
      exact bound
  · intro bound evaluation category maxLen
    by_cases fits : (weave expr.gaps (placeholders 0 expr.slots.length)).length ≤ maxLen
    · obtain ⟨query, compiled, view, params⟩ := compileStatic_fits evaluation .tuple category
        expr (filled evaluation) fits
      refine .inr ⟨query, compiled, view, ?_⟩
      rw [params]
      exact bound
    · exact .inl (compileStatic_overflow evaluation .tuple category expr (filled evaluation)
        (by omega))

/-- Placeholders are numbered and bound in sink mode exactly if no `ParamPlaceholder` stands beside
a value, and in tuple mode exactly if nothing else stands before a literal. -/
theorem placeholder_numbering_iff (expr : Expression) :
    (SinkNumbered expr ↔ expr.Unmixed) ∧ (TupleNumbered expr ↔ expr.LiteralsFirst) :=
  ⟨sinkNumbered_iff, tupleNumbered_iff⟩

end Compile

/-- `DELETE FROM "t" WHERE (("a" = $1) AND ("b" = $1))`: a `ParamPlaceholder` and the literal 7. -/
def mixedQuery : Expression :=
  .deleteWhereExpr (.name ['t'])
    (.binaryExpr .and
      (.binaryExpr .equal (.columnLike (.column ⟨['a'], [], []⟩)) .paramPlaceholder)
      (.binaryExpr .equal (.columnLike (.column ⟨['b'], [], []⟩)) (.literal (.int32 7) [])))

/-- Sink mode emits `$1` twice, and tuple mode returns one value for two. -/
theorem placeholder_numbers_collide :
    (∀ category, compileDynamic .sink category mixedQuery =
      .ok ⟨"DELETE FROM \"t\" WHERE ((\"a\" = $1) AND (\"b\" = $1))".toList, [.int32 7]⟩) ∧
    mixedQuery.slots = [.parameter, .literal (.int32 7)] ∧ mixedQuery.captured = [.int32 7] ∧
    (¬ SinkNumbered mixedQuery) ∧ ¬ TupleNumbered mixedQuery := by
  refine ⟨fun category => ?_, rfl, rfl, ?_, ?_⟩
  · rw [compileDynamic_numbers]
    rfl
  · rw [sinkNumbered_iff]
    decide
  · rw [tupleNumbered_iff]
    decide

end Menagerie.Savanna
