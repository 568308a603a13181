import Mathlib.Data.List.Forall2
import Menagerie.Savanna.Parameters

/-!
# The modes of the compiler agree

Inline, tuple and sink mode emit the same segments around the values. The text of one mode
determines that of the others, up to how constant evaluation writes a floating point value and to
the parameters that `INSERT` and `UPDATE` do not capture.
-/

namespace Menagerie.Savanna

open Beaver PostgresDialect List

section Compile

variable (evaluation : Evaluation) (mode : ParamMode)
variable (category : ValueCategory) (expr : Expression)

theorem compileDynamic_eq {text : Text}
    (filled : fill ⟨.runtime, mode⟩ {} expr.pieces = .ok text) :
    compileDynamic mode category expr =
      .ok ⟨text, pushedValues ⟨.runtime, mode⟩ expr.pieces⟩ := by
  obtain ⟨after, emitted, view, sink⟩ := emitAll_room category expr.pieces
    { sql := (Appendable.empty : PmrString) } text filled trivial
  have sql : after.sql.text = text := view
  simp [compileDynamic, visit_eq, StateT.run, bind, StateT.bind, Except.bind, emitted, pure,
    Visit.pure_apply, Except.pure, sql, sink]

section

variable {text : Text} {maxLen : Nat}
  (filled : fill ⟨evaluation, mode⟩ {} expr.pieces = .ok text)

include filled

theorem compileStatic_fits (fits : text.length ≤ maxLen) :
    ∃ query, compileStatic evaluation mode maxLen category expr = .ok query ∧
      query.sql.view = text ∧ query.params = returned ⟨evaluation, mode⟩ expr.captured := by
  obtain ⟨after, emitted, view, -⟩ := emitAll_room category expr.pieces
    { sql := (Appendable.empty : InlineString maxLen) } text filled
    (by simpa [LawfulAppendable.room, Appendable.empty] using fits)
  refine ⟨⟨after.sql, returned ⟨evaluation, mode⟩ expr.captured⟩, ?_, view, rfl⟩
  simp [compileStatic, visit_eq, StateT.run, bind, StateT.bind, Except.bind, emitted, pure,
    Visit.pure_apply, Except.pure]

theorem compileStatic_overflow (overflow : maxLen < text.length) :
    compileStatic evaluation mode maxLen category expr = .error .outOfRange := by
  have emitted := emitAll_full category expr.pieces
    { sql := (Appendable.empty : InlineString maxLen) } text filled
    (by simp [LawfulAppendable.room, Appendable.empty]; omega)
    (by simp [LawfulAppendable.room, Appendable.empty])
  simp [compileStatic, visit_eq, StateT.run, bind, StateT.bind, Except.bind, emitted]

end

/-- A value without a text fails the compilation, with enough capacity. -/
theorem compileStatic_unspelled {failure : Failure}
    (unfilled : fill ⟨evaluation, mode⟩ {} expr.pieces = .error failure) :
    ∃ maxLen, compileStatic evaluation mode maxLen category expr = .error failure := by
  obtain ⟨n, fails⟩ := emitAll_unspelled category expr.pieces {} failure unfilled
  have emitted := fails { sql := (Appendable.empty : InlineString n) } rfl
    (by simp [LawfulAppendable.room, Appendable.empty])
  refine ⟨n, ?_⟩
  simp [compileStatic, visit_eq, StateT.run, bind, StateT.bind, Except.bind, emitted]

end Compile

section Decode

/-- Two texts of one value: the same, or two numbers. -/
def SameOrNumbers (first second : Text) : Prop :=
  first = second ∨ (∀ c ∈ first, numberChar c = true) ∧ (∀ c ∈ second, numberChar c = true)

/-- A number ends at the first other character. -/
theorem takeWhile_numberChar {text rest : Text} (number : ∀ c ∈ text, numberChar c = true)
    (stops : ∀ c, rest.head? = some c → numberChar c = false) :
    (text ++ rest).takeWhile numberChar = text := by
  rw [takeWhile_append_of_pos number]
  cases rest with
  | nil => simp
  | cons c others => simp [stops c rfl]

/-- After a value comes the end, a blank, a comma or a parenthesis. -/
theorem weave_stops {rest : List Piece} {last : Boundary} (spaced : spacing .word rest = some last)
    {texts : List Text} (count : texts.length = (pieceValues rest).length) :
    ∀ c, (weave (segments rest) texts).head? = some c → numberChar c = false := by
  intro c first
  cases rest with
  | nil =>
    rw [length_eq_zero_iff.mp count] at first
    cases first
  | cons piece others =>
    cases piece with
    | fragment part =>
      have breaks : part.breaks = true := by
        by_contra solid
        simp [spacing, Piece.follows, Fragment.follows, solid] at spaced
      have start : part.text.head? = some c := by
        rw [weave_plain _ _ _ (by simp), Piece.plain] at first
        cases start : part.text with
        | nil => simp [Fragment.breaks, start] at breaks
        | cons head tail => simpa [start] using first
      simp only [Fragment.breaks, start, Option.some.injEq, Bool.and_eq_true, Bool.or_eq_true,
        decide_eq_true_eq] at breaks
      rcases breaks.2 with (rfl | rfl) | rfl <;> decide
    | _ => simp [spacing, Piece.follows] at spaced

/-- The texts still differ when something follows that no number goes on with. -/
def Separable (first second : Text) : Prop :=
  ∀ rest others : Text, (∀ c, rest.head? = some c → numberChar c = false) →
    (∀ c, others.head? = some c → numberChar c = false) → first ++ rest = second ++ others →
    first = second

theorem SameOrNumbers.separable {first second : Text} (similar : SameOrNumbers first second) :
    Separable first second := by
  intro rest others stops otherStops same
  rcases similar with equal | ⟨number, otherNumber⟩
  · exact equal
  · rw [← takeWhile_numberChar number stops, same, takeWhile_numberChar otherNumber otherStops]

/-- Separable texts between segments can be read off the whole. -/
theorem weave_separable (pieces : List Piece) (boundary last : Boundary)
    (spaced : spacing boundary pieces = some last) (first second : List Text)
    (separable : Forall₂ Separable first second)
    (count : first.length = (pieceValues pieces).length)
    (same : weave (segments pieces) first = weave (segments pieces) second) : first = second := by
  induction pieces generalizing boundary first second with
  | nil =>
    rw [length_eq_zero_iff.mp count] at separable ⊢
    cases separable
    rfl
  | cons piece rest ih =>
    have restSpaced : spacing piece.after rest = some last := by
      unfold spacing at spaced
      split at spaced
      · exact spaced
      · cases spaced
    by_cases isValue : ∃ val, piece = .value val
    · obtain ⟨val, rfl⟩ := isValue
      cases separable with
      | nil => simp [pieceValues] at count
      | @cons text other texts others here there =>
        rw [weave_value, weave_value] at same
        have restCount : texts.length = (pieceValues rest).length := by
          simpa [pieceValues] using count
        have otherCount : others.length = (pieceValues rest).length := by
          rw [← there.length_eq, restCount]
        have texts_eq : text = other := here _ _ (weave_stops restSpaced restCount)
          (weave_stops restSpaced otherCount) same
        subst texts_eq
        have tails := ih _ restSpaced texts others there restCount (append_cancel_left same)
        rw [tails]
    · have fixed : ∀ val, piece ≠ .value val := fun val equal => isValue ⟨val, equal⟩
      rw [weave_plain piece rest first fixed, weave_plain piece rest second fixed] at same
      rw [pieceValues_plain piece rest fixed] at count
      exact ih _ restSpaced first second separable count (append_cancel_left same)

theorem weave_injective (pieces : List Piece) (boundary last : Boundary)
    (spaced : spacing boundary pieces = some last) (first second : List Text)
    (similar : Forall₂ SameOrNumbers first second)
    (count : first.length = (pieceValues pieces).length)
    (same : weave (segments pieces) first = weave (segments pieces) second) : first = second :=
  weave_separable pieces boundary last spaced first second
    (similar.imp fun _ _ => SameOrNumbers.separable) count same

end Decode

theorem mapM_eq_ok_iff {α β ε : Type} (f : α → Except ε β) (values : List α) (results : List β) :
    values.mapM f = .ok results ↔
      Forall₂ (fun val result => f val = .ok result) values results := by
  induction values generalizing results with
  | nil => simp [pure, Except.pure, eq_comm]
  | cons val rest ih =>
    rw [mapM_cons]
    cases first : f val with
    | error failure =>
      simp only [bind, Except.bind, reduceCtorEq, false_iff]
      intro all
      cases all with
      | cons here _ => simp [first] at here
    | ok result =>
      cases others : rest.mapM f with
      | error failure =>
        simp only [bind, Except.bind, reduceCtorEq, false_iff]
        intro all
        cases all with
        | cons _ there => simp [(ih _).mpr there] at others
      | ok tail =>
        simp only [bind, Except.bind, pure, Except.pure, Except.ok.injEq]
        constructor
        · rintro rfl
          exact .cons first ((ih tail).mp others)
        · intro all
          cases all with
          | cons here there =>
            rw [first] at here
            rw [(ih _).mpr there] at others
            cases here
            cases others
            rfl

/-- Two loops have the same results exactly if they agree on every value. -/
theorem mapM_agrees_iff {α β ε : Type} {f g : α → Except ε β} {values : List α} {results : List β}
    (known : values.mapM g = .ok results) :
    values.mapM f = .ok results ↔ ∀ val ∈ values, f val = g val := by
  rw [mapM_eq_ok_iff] at known ⊢
  induction known with
  | nil => simp
  | cons here there ih => rw [forall₂_cons, ih, forall_mem_cons, here]

theorem mapM_eq_error {α β ε : Type} {f : α → Except ε β} {values : List α} {failure : ε}
    (fails : values.mapM f = .error failure) : ∃ val ∈ values, f val = .error failure := by
  induction values with
  | nil => cases fails
  | cons val rest ih =>
    rw [mapM_cons] at fails
    cases first : f val with
    | error other =>
      simp only [first, bind, Except.bind, Except.error.injEq] at fails
      exact ⟨val, mem_cons_self, by rw [first, fails]⟩
    | ok result =>
      cases others : rest.mapM f with
      | error other =>
        simp only [first, others, bind, Except.bind, Except.error.injEq] at fails
        obtain ⟨found, member, failed⟩ := ih (by rw [others, fails])
        exact ⟨found, mem_cons_of_mem _ member, failed⟩
      | ok tail => simp [first, others, bind, Except.bind, pure, Except.pure] at fails

section Inline

variable (evaluation : Evaluation) (expr : Expression)

theorem formatValue_runtime (val : FieldValue) :
    ∃ text, formatValue .runtime val = .ok text := by
  cases val <;> exact ⟨_, rfl⟩

theorem fill_runtime (settings : Settings) (atRuntime : settings.evaluation = .runtime)
    (pieces : List Piece) (counters : Counters) :
    ∃ text, fill settings counters pieces = .ok text := by
  induction pieces generalizing counters with
  | nil => exact ⟨[], rfl⟩
  | cons piece rest ih =>
    obtain ⟨others, filled⟩ := ih (counters.after settings piece)
    have spelled : ∃ text, piece.spell settings counters = .ok text := by
      cases piece with
      | value val =>
        obtain ⟨text, formatted⟩ := formatValue_runtime val
        cases mode : settings.mode with
        | inline => exact ⟨text, by simp only [Piece.spell, mode, atRuntime, formatted]⟩
        | tuple =>
          exact ⟨placeholder (counters.numbered + 1), by simp only [Piece.spell, mode]⟩
        | sink =>
          exact ⟨placeholder (counters.pushed + 1), by simp only [Piece.spell, mode]⟩
      | _ => exact ⟨_, rfl⟩
    obtain ⟨text, spelledEq⟩ := spelled
    exact ⟨text ++ others, by rw [fill, spelledEq, filled]; rfl⟩

theorem formatValues_runtime (values : List FieldValue) :
    ∃ texts, values.mapM (formatValue .runtime) = .ok texts := by
  induction values with
  | nil => exact ⟨[], rfl⟩
  | cons val rest ih =>
    obtain ⟨text, formatted⟩ := formatValue_runtime val
    obtain ⟨texts, others⟩ := ih
    exact ⟨text :: texts, by rw [mapM_cons, formatted, others]; rfl⟩

/-- Both evaluations write a value alike, or write a number. -/
theorem formatValue_similar {val : FieldValue} {first second : Text}
    (constant : formatValue .constant val = .ok first)
    (runtime : formatValue .runtime val = .ok second) :
    SameOrNumbers first second := by
  cases val with
  | float val | double val =>
    rw [formatValue] at constant runtime
    exact .inr ⟨(isNumber_formatFloating _ constant).numberChar,
      (isNumber_formatFloating _ runtime).numberChar⟩
  | _ =>
    cases constant
    cases runtime
    exact .inl rfl

theorem formatValues_similar {values : List FieldValue} {first second : List Text}
    (constant : Forall₂ (formatValue .constant · = .ok ·) values first)
    (runtime : Forall₂ (formatValue .runtime · = .ok ·) values second) :
    Forall₂ SameOrNumbers first second := by
  induction constant generalizing second with
  | nil =>
    cases runtime
    exact .nil
  | cons here there ih =>
    cases runtime with
    | cons hereToo thereToo => exact .cons (formatValue_similar here hereToo) (ih thereToo)

/-- A formatter fails only as a call that is no constant expression. -/
theorem formatValue_error {val : FieldValue} {failure : Failure}
    (fails : formatValue evaluation val = .error failure) :
    failure = .notConstant := by
  have floating : ∀ {F : Type} [FloatingPoint F] (val : F),
      formatFloating evaluation val = .error failure → failure = .notConstant := by
    intro F _ val fails
    unfold formatFloating at fails
    split at fails
    · split at fails
      · cases fails
      · cases fails
        rfl
    · cases fails
  cases val with
  | float val | double val => exact floating _ fails
  | _ => cases fails

/-- Inline compilation is sink compilation with the values for the placeholders, in either value
category; a static one throws or gives the same text. -/
structure InlineMatchesSink : Prop where
  sink : ∀ category, compileDynamic .sink category expr =
    .ok ⟨weave expr.segments (placeholders 0 expr.values.length), expr.values⟩
  inline : ∃ texts, expr.values.mapM (PostgresDialect.formatValue .runtime) = .ok texts ∧
    (∀ category, compileDynamic .inline category expr =
      .ok ⟨weave expr.segments texts, []⟩) ∧
    ∀ category maxLen,
      compileStatic evaluation .inline maxLen category expr = .error .outOfRange ∨
      ∃ query, compileStatic evaluation .inline maxLen category expr = .ok query ∧
        query.sql.view = weave expr.segments texts

variable {expr}

section

variable (closed : expr.Closed)

include closed

/-- Sink mode numbers the placeholders and binds the values in order. -/
theorem compileDynamic_sink (category : ValueCategory) :
    compileDynamic .sink category expr =
      .ok ⟨weave expr.segments (placeholders 0 expr.values.length), expr.values⟩ := by
  rw [compileDynamic_eq .sink category expr (fill_sink rfl expr.pieces closed {}),
    pushedValues_sink rfl]
  rfl

theorem fill_inline_ok {texts : List Text}
    (formatted : expr.values.mapM (formatValue evaluation) = .ok texts) :
    fill ⟨evaluation, .inline⟩ {} expr.pieces = .ok (weave expr.segments texts) := by
  rw [Expression.values] at formatted
  rw [fill_inline rfl expr.pieces closed {}, formatted]
  rfl

theorem fill_inline_error {failure : Failure}
    (unformatted : expr.values.mapM (formatValue evaluation) = .error failure) :
    fill ⟨evaluation, .inline⟩ {} expr.pieces = .error failure := by
  rw [Expression.values] at unformatted
  rw [fill_inline rfl expr.pieces closed {}, unformatted]
  rfl

theorem compileStatic_inline {texts : List Text}
    (formatted : expr.values.mapM (formatValue evaluation) = .ok texts)
    (category : ValueCategory) (maxLen : Nat) :
    compileStatic evaluation .inline maxLen category expr = .error .outOfRange ∨
      ∃ query, compileStatic evaluation .inline maxLen category expr = .ok query ∧
        query.sql.view = weave expr.segments texts := by
  have filled := fill_inline_ok evaluation closed formatted
  by_cases fits : (weave expr.segments texts).length ≤ maxLen
  · obtain ⟨query, compiled, view, -⟩ :=
      compileStatic_fits evaluation .inline category expr filled fits
    exact .inr ⟨query, compiled, view⟩
  · exact .inl (compileStatic_overflow evaluation .inline category expr filled (by omega))

theorem texts_eq_of_inlineMatchesSink (agrees : InlineMatchesSink .constant expr) :
    ∃ texts, expr.values.mapM (formatValue .constant) = .ok texts ∧
      expr.values.mapM (formatValue .runtime) = .ok texts := by
  obtain ⟨texts, runtime, -, static⟩ := agrees.inline
  cases constant : expr.values.mapM (formatValue .constant) with
  | error failure =>
    -- a value without a text is a failure that no capacity explains
    have notConstant : failure = .notConstant := by
      obtain ⟨val, -, failed⟩ := mapM_eq_error constant
      exact formatValue_error .constant failed
    obtain ⟨maxLen, fails⟩ := compileStatic_unspelled .constant .inline .lvalue expr
      (fill_inline_error .constant closed constant)
    rcases static .lvalue maxLen with thrown | ⟨query, compiled, -⟩
    · rw [fails, notConstant] at thrown
      cases thrown
    · rw [fails] at compiled
      cases compiled
  | ok others =>
    refine ⟨others, rfl, ?_⟩
    obtain ⟨query, compiled, view, -⟩ := compileStatic_fits .constant .inline .lvalue expr
      (fill_inline_ok .constant closed constant) (Nat.le_refl _)
    rcases static .lvalue _ with thrown | ⟨again, compiledAgain, same⟩
    · rw [compiled] at thrown
      cases thrown
    · rw [compiled] at compiledAgain
      cases compiledAgain
      have constantAll := (mapM_eq_ok_iff _ _ _).mp constant
      have runtimeAll := (mapM_eq_ok_iff _ _ _).mp runtime
      obtain ⟨last, -, spaced⟩ := spaced_pieces expr
      have equal : others = texts := weave_injective expr.pieces .clean last spaced others texts
        (formatValues_similar constantAll runtimeAll) constantAll.length_eq.symm
        (view.symm.trans same)
      rw [equal, runtime]

end

/-- `SELECT 1e-20 FROM "t"`: constant evaluation writes the literal as `0`. -/
def tinyLiteral : Expression :=
  .fromTableExpr (.selectExpr false (.cons (.literal (.double 1e-20) []) .nil))
    (.name "t".toList) []

/-- `SELECT * FROM "t" WHERE ("name" = 'O''Neil')`. -/
def namedRow : Expression :=
  .whereExpr
    (.fromTableExpr (.selectExpr false (.cons (.columnLike (.allColumns [])) .nil))
      (.name "t".toList) [])
    (.binaryExpr .equal (.columnLike (.column ⟨"name".toList, [], []⟩))
      (.literal (.string "O'Neil".toList) []))

end Inline

end Menagerie.Savanna
