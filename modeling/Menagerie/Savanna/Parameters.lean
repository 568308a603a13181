import Menagerie.Savanna.Spacing

/-!
# Parameters of a compiled query

The text of a query is its fixed segments with the values between them: formatted by the dialect, or
replaced by placeholders that are numbered from left to right.
-/

namespace Menagerie.Savanna

open Beaver PostgresDialect Piece

/-- The text of a piece that no mode changes. -/
def Piece.plain : Piece → Text
  | .fragment part => part.text
  | .identifier name => PostgresDialect.quoteIdentifier name
  | .number val => constexprToString val
  | .raw text => text
  | .value _ | .placeholder => []

/-- The values that are emitted, in order. -/
def pieceValues : List Piece → List FieldValue
  | [] => []
  | .value val :: rest => val :: pieceValues rest
  | _ :: rest => pieceValues rest

/-- The fixed texts around the values. -/
def segments : List Piece → List Text
  | [] => [[]]
  | .value _ :: rest => [] :: segments rest
  | piece :: rest =>
    match segments rest with
    | segment :: others => (piece.plain ++ segment) :: others
    | [] => [piece.plain]

/-- Texts between segments. -/
def weave : List Text → List Text → Text
  | segment :: rest, text :: texts => segment ++ text ++ weave rest texts
  | rest, _ => rest.flatten

/-- Literals, row values and assigned values, as they are emitted. -/
def Expression.values (expr : Expression) : List FieldValue := pieceValues expr.pieces

/-- The fixed texts around the values of an expression. -/
def Expression.segments (expr : Expression) : List Text := Savanna.segments expr.pieces

/-- The expression has no `ParamPlaceholder`. -/
def Expression.Closed (expr : Expression) : Prop := .placeholder ∉ expr.pieces

instance (expr : Expression) : Decidable expr.Closed :=
  inferInstanceAs (Decidable (_ ∉ _))

def placeholders (first count : Nat) : List Text :=
  (List.range' (first + 1) count).map PostgresDialect.placeholder

theorem segments_ne_nil (pieces : List Piece) : segments pieces ≠ [] := by
  cases pieces with
  | nil => simp [segments]
  | cons piece rest =>
    cases piece <;> simp only [segments] <;> first | split <;> simp | simp

theorem weave_plain (piece : Piece) (rest : List Piece) (texts : List Text)
    (fixed : ∀ value, piece ≠ .value value) :
    weave (segments (piece :: rest)) texts = piece.plain ++ weave (segments rest) texts := by
  have split : segments (piece :: rest) =
      match segments rest with
      | segment :: others => (piece.plain ++ segment) :: others
      | [] => [piece.plain] := by
    cases piece with
    | value val => exact absurd rfl (fixed val)
    | _ => rfl
  rw [split]
  cases tail : segments rest with
  | nil => exact absurd tail (segments_ne_nil rest)
  | cons segment others => cases texts <;> simp [weave]

theorem weave_value (value : FieldValue) (rest : List Piece) (text : Text) (texts : List Text) :
    weave (segments (.value value :: rest)) (text :: texts) =
      text ++ weave (segments rest) texts := by
  simp [segments, weave]

/-- A string type that takes text as long as there is room. -/
class LawfulAppendable (StringT : Type) [Appendable StringT] where
  room : StringT → Nat → Prop
  view_empty : Appendable.view (Appendable.empty : StringT) = []
  room_add : ∀ s m n, room s (m + n) → room s m
  append_room : ∀ (s : StringT) (text : Text), room s text.length →
    ∃ appended, Appendable.append s text = .ok appended ∧
      Appendable.view appended = Appendable.view s ++ text ∧
      ∀ n, room appended n ↔ room s (text.length + n)
  append_full : ∀ (s : StringT) (text : Text), ¬ room s text.length →
    Appendable.append s text = .error .outOfRange

instance : LawfulAppendable PmrString where
  room _ _ := True
  view_empty := rfl
  room_add _ _ _ _ := trivial
  append_room s text _ := ⟨⟨s.text ++ text⟩, rfl, rfl, by simp⟩
  append_full _ _ full := absurd trivial full

instance (capacity : Nat) : LawfulAppendable (InlineString capacity) where
  room s n := s.size + n ≤ capacity
  view_empty := rfl
  room_add s m n fits := by omega
  append_room s text fits := by
    obtain ⟨appended, result, size, view⟩ := s.append_fits text fits
    refine ⟨appended, ?_, view, ?_⟩
    · simp [Appendable.append, result]
    · intro n
      rw [size]
      omega
  append_full s text full := by
    have result := s.append_overflow text (by omega)
    simp [Appendable.append, result]

/-- The values of the sink, and the placeholders that the visitor numbered. -/
structure Counters where
  pushed : Nat := 0
  numbered : Nat := 0

section Fill

variable (settings : Settings)

/-- What a piece pushes. -/
def Piece.pushes : Piece → List FieldValue
  | .value val => if settings.mode = .sink then [val] else []
  | _ => []

/-- Whether the visitor numbers a placeholder itself. -/
def Piece.numbers : Piece → Nat
  | .value _ => if settings.mode = .tuple then 1 else 0
  | .placeholder => 1
  | _ => 0

/-- The counters after a piece. -/
def Counters.after (counters : Counters) (piece : Piece) : Counters where
  pushed := counters.pushed + (piece.pushes settings).length
  numbered := counters.numbered + piece.numbers settings

/-- The text of a piece, for the counters before it. -/
def Piece.spell (counters : Counters) : Piece → Except Failure Text
  | .value val =>
    match settings.mode with
    | .inline => PostgresDialect.formatValue settings.evaluation val
    | .tuple => .ok (PostgresDialect.placeholder (counters.numbered + 1))
    | .sink => .ok (PostgresDialect.placeholder (counters.pushed + 1))
  | .placeholder => .ok (PostgresDialect.placeholder (counters.numbered + 1))
  | piece => .ok piece.plain

/-- The text of the pieces. -/
def fill : Counters → List Piece → Except Failure Text
  | _, [] => .ok []
  | counters, piece :: rest => do
    let text ← piece.spell settings counters
    let others ← fill (counters.after settings piece) rest
    return text ++ others

variable {StringT : Type}

/-- The counters of a visitor. -/
def SqlGeneratorVisitor.counters (visitor : SqlGeneratorVisitor StringT) : Counters where
  pushed := visitor.sink.length
  numbered := visitor.paramCount

/-- The visitor after a piece, but for its text. -/
def SqlGeneratorVisitor.count (visitor : SqlGeneratorVisitor StringT) (piece : Piece) :
    SqlGeneratorVisitor StringT :=
  { visitor with
    sink := visitor.sink ++ piece.pushes settings
    paramCount := visitor.paramCount + piece.numbers settings }

attribute [local simp] SqlGeneratorVisitor.counters SqlGeneratorVisitor.count StateT.bind
  Except.bind Except.pure Piece.emit Piece.pushes Piece.numbers MonadStateOf.modifyGet
  StateT.modifyGet MonadStateOf.get StateT.get

theorem counters_count (visitor : SqlGeneratorVisitor StringT) (piece : Piece) :
    (visitor.count settings piece).counters = visitor.counters.after settings piece := by
  simp [Counters.after]

variable [Appendable StringT] (category : ValueCategory)

theorem emit_eq (piece : Piece) (visitor : SqlGeneratorVisitor StringT) :
    piece.emit settings category visitor = (do
      let text ← piece.spell settings visitor.counters
      append text (visitor.count settings piece)) := by
  cases piece with
  | value val =>
    cases mode : settings.mode with
    | inline =>
      simp only [emit, visitValueImpl, mode, spell, SqlGeneratorVisitor.count,
        pushes, Piece.numbers]
      cases formatValue settings.evaluation val <;>
        simp [bind, liftM, monadLift, MonadLift.monadLift, StateT.lift, pure]
    | tuple =>
      simp [visitValueImpl, mode, spell, nextPlaceholder, bind, modify, modifyGet, get, getThe,
        pure]
    | sink =>
      simp [visitValueImpl, mode, spell, push, bind, modify, modifyGet, get, getThe, pure,
        Visit.pure_apply]
  | placeholder =>
    simp [spell, nextPlaceholder, bind, modify, modifyGet, get, getThe, pure]
  | _ =>
    simp [spell, plain, write, quoteIdentifier, bind]

/-- The values that the pieces hand to the sink. -/
def pushedValues (pieces : List Piece) : List FieldValue :=
  pieces.flatMap (Piece.pushes settings)

variable {settings} [LawfulAppendable StringT]

open LawfulAppendable

theorem fill_cons_ok {counters : Counters} {piece : Piece} {rest : List Piece} {text : Text}
    (filled : fill settings counters (piece :: rest) = .ok text) :
    ∃ spelled others, piece.spell settings counters = .ok spelled ∧
      fill settings (counters.after settings piece) rest = .ok others ∧
      text = spelled ++ others := by
  unfold fill at filled
  cases spelledEq : piece.spell settings counters with
  | error failure => simp [spelledEq, bind] at filled
  | ok spelled =>
    cases othersEq : fill settings (counters.after settings piece) rest with
    | error failure => simp [spelledEq, othersEq, bind] at filled
    | ok others =>
      simp only [spelledEq, othersEq, bind, Except.bind, pure, Except.pure,
        Except.ok.injEq] at filled
      exact ⟨spelled, others, rfl, rfl, filled.symm⟩

theorem emitAll_cons_room (piece : Piece) (rest : List Piece)
    (visitor : SqlGeneratorVisitor StringT) (spelled : Text)
    (spelledEq : piece.spell settings visitor.counters = .ok spelled)
    (fits : room visitor.sql spelled.length) :
    ∃ sql, Appendable.view sql = Appendable.view visitor.sql ++ spelled ∧
      (∀ n, room sql n ↔ room visitor.sql (spelled.length + n)) ∧
      emitAll settings category (piece :: rest) visitor =
        emitAll settings category rest { visitor.count settings piece with sql := sql } := by
  obtain ⟨sql, appended, view, more⟩ := append_room visitor.sql spelled fits
  refine ⟨sql, view, more, ?_⟩
  rw [emitAll_cons]
  change (piece.emit settings category visitor).bind _ = _
  rw [emit_eq, spelledEq]
  simp [append, appended, bind, pure]

section

variable (pieces : List Piece) (visitor : SqlGeneratorVisitor StringT) (text : Text)
  (filled : fill settings visitor.counters pieces = .ok text)

include pieces visitor text filled

theorem emitAll_room (fits : room visitor.sql text.length) :
    ∃ after, emitAll settings category pieces visitor = .ok ((), after) ∧
      Appendable.view after.sql = Appendable.view visitor.sql ++ text ∧
      after.sink = visitor.sink ++ pushedValues settings pieces := by
  induction pieces generalizing visitor text with
  | nil =>
    cases filled
    exact ⟨visitor, rfl, by simp, by simp [pushedValues]⟩
  | cons piece rest ih =>
    obtain ⟨spelled, others, spelledEq, othersEq, rfl⟩ := fill_cons_ok filled
    rw [List.length_append] at fits
    obtain ⟨sql, view, more, emitted⟩ := emitAll_cons_room category piece rest visitor
      spelled spelledEq (room_add _ _ _ fits)
    rw [← counters_count] at othersEq
    obtain ⟨after, restEmitted, viewAfter, sinkAfter⟩ := ih
      { visitor.count settings piece with sql := sql } others othersEq ((more _).mpr fits)
    refine ⟨after, emitted.trans restEmitted, ?_, ?_⟩
    · rw [viewAfter, view, List.append_assoc]
    · rw [sinkAfter]
      simp [pushedValues]

theorem emitAll_full (full : ¬ room visitor.sql text.length) (start : room visitor.sql 0) :
    emitAll settings category pieces visitor = .error .outOfRange := by
  induction pieces generalizing visitor text with
  | nil =>
    cases filled
    exact absurd start full
  | cons piece rest ih =>
    obtain ⟨spelled, others, spelledEq, othersEq, rfl⟩ := fill_cons_ok filled
    rw [List.length_append] at full
    by_cases fits : room visitor.sql spelled.length
    · obtain ⟨sql, view, more, emitted⟩ := emitAll_cons_room category piece rest
        visitor spelled spelledEq fits
      rw [← counters_count] at othersEq
      rw [emitted]
      refine ih _ others othersEq ?_ ?_
      · rwa [more]
      · rwa [more, Nat.add_zero]
    · rw [emitAll_cons]
      change (piece.emit settings category visitor).bind _ = _
      rw [emit_eq, spelledEq]
      simp [append, append_full _ _ fits, bind]

end

/-- A piece without a text fails the visit, if the text before it fits. -/
theorem emitAll_unspelled (pieces : List Piece) (counters : Counters) (failure : Failure)
    (unfilled : fill settings counters pieces = .error failure) :
    ∃ n, ∀ {StringT : Type} [Appendable StringT] [LawfulAppendable StringT]
      (visitor : SqlGeneratorVisitor StringT), visitor.counters = counters →
      room visitor.sql n → emitAll settings category pieces visitor = .error failure := by
  induction pieces generalizing counters with
  | nil => cases unfilled
  | cons piece rest ih =>
    cases spelledEq : piece.spell settings counters with
    | error other =>
      refine ⟨0, fun {StringT} _ _ visitor same fits => ?_⟩
      have which : other = failure := by
        simpa [fill, spelledEq, bind, Except.bind] using unfilled
      rw [emitAll_cons]
      change (piece.emit settings category visitor).bind _ = _
      rw [emit_eq, same, spelledEq, which]
      rfl
    | ok spelled =>
      have restUnfilled : fill settings (counters.after settings piece) rest = .error failure := by
        cases othersEq : fill settings (counters.after settings piece) rest with
        | error other => simpa [fill, spelledEq, othersEq, bind, Except.bind] using unfilled
        | ok others =>
          simp [fill, spelledEq, othersEq, bind, pure] at unfilled
      obtain ⟨n, fails⟩ := ih _ restUnfilled
      refine ⟨spelled.length + n, fun {StringT} _ _ visitor same fits => ?_⟩
      obtain ⟨sql, view, more, emitted⟩ := emitAll_cons_room category piece rest
        visitor spelled (by rw [same, spelledEq]) (room_add _ _ _ fits)
      rw [emitted]
      refine fails _ ?_ ((more _).mpr fits)
      rw [← same]
      exact counters_count settings visitor piece

theorem placeholders_succ (first count : Nat) :
    placeholders first (count + 1) =
      placeholder (first + 1) :: placeholders (first + 1) count := by
  simp [placeholders, List.range'_succ]

theorem fill_plain (counters : Counters) (piece : Piece) (rest : List Piece)
    (fixed : ∀ value, piece ≠ .value value) (own : piece ≠ .placeholder) :
    fill settings counters (piece :: rest) = (do
      let others ← fill settings counters rest
      return piece.plain ++ others) := by
  have same : counters.after settings piece = counters := by
    cases piece with
    | value val => exact absurd rfl (fixed val)
    | placeholder => contradiction
    | _ => rfl
  have spelled : piece.spell settings counters = .ok piece.plain := by
    cases piece with
    | value val => exact absurd rfl (fixed val)
    | placeholder => contradiction
    | _ => rfl
  rw [fill, same, spelled]
  rfl

theorem pieceValues_plain (piece : Piece) (rest : List Piece)
    (fixed : ∀ value, piece ≠ .value value) : pieceValues (piece :: rest) = pieceValues rest := by
  cases piece with
  | value val => exact absurd rfl (fixed val)
  | _ => rfl

theorem fill_inline (inline : settings.mode = .inline) (pieces : List Piece)
    (closed : .placeholder ∉ pieces) (counters : Counters) :
    fill settings counters pieces = (do
      let texts ← (pieceValues pieces).mapM
        (formatValue settings.evaluation)
      return weave (segments pieces) texts) := by
  induction pieces generalizing counters with
  | nil => rfl
  | cons piece rest ih =>
    simp only [List.mem_cons, not_or] at closed
    by_cases isValue : ∃ value, piece = .value value
    · obtain ⟨value, rfl⟩ := isValue
      rw [fill, ih closed.2]
      simp [spell, inline, pieceValues, weave_value]
    · have fixed : ∀ value, piece ≠ .value value := fun value same => isValue ⟨value, same⟩
      rw [fill_plain counters piece rest fixed (Ne.symm closed.1), ih closed.2,
        pieceValues_plain piece rest fixed]
      simp [weave_plain piece rest _ fixed]

/-- In the other modes numbered placeholders stand between the segments. -/
theorem fill_placeholders (counter : Counters → Nat)
    (value : ∀ counters val, spell settings counters (.value val) =
      .ok (placeholder (counter counters + 1)))
    (counted : ∀ counters val, counter (counters.after settings (.value val)) =
      counter counters + 1) (pieces : List Piece) (closed : .placeholder ∉ pieces)
    (counters : Counters) :
    fill settings counters pieces =
      .ok (weave (segments pieces)
        (placeholders (counter counters) (pieceValues pieces).length)) := by
  induction pieces generalizing counters with
  | nil => rfl
  | cons piece rest ih =>
    simp only [List.mem_cons, not_or] at closed
    by_cases isValue : ∃ val, piece = .value val
    · obtain ⟨val, rfl⟩ := isValue
      rw [fill, ih closed.2, value, counted]
      simp only [pieceValues, List.length_cons, placeholders_succ, weave_value]
      rfl
    · have fixed : ∀ val, piece ≠ .value val := fun val same => isValue ⟨val, same⟩
      rw [fill_plain counters piece rest fixed (Ne.symm closed.1), ih closed.2,
        pieceValues_plain piece rest fixed, weave_plain piece rest _ fixed]
      rfl

theorem fill_sink (sink : settings.mode = .sink) (pieces : List Piece)
    (closed : .placeholder ∉ pieces) (counters : Counters) :
    fill settings counters pieces =
      .ok (weave (segments pieces) (placeholders counters.pushed (pieceValues pieces).length)) :=
  fill_placeholders Counters.pushed (fun counters val => by simp [spell, sink])
    (fun counters val => by simp [Counters.after, sink]) pieces closed counters

theorem fill_tuple (tuple : settings.mode = .tuple) (pieces : List Piece)
    (closed : .placeholder ∉ pieces) (counters : Counters) :
    fill settings counters pieces =
      .ok (weave (segments pieces) (placeholders counters.numbered (pieceValues pieces).length)) :=
  fill_placeholders Counters.numbered (fun counters val => by simp [spell, tuple])
    (fun counters val => by simp [Counters.after, tuple]) pieces closed counters

theorem pushedValues_sink (sink : settings.mode = .sink) (pieces : List Piece) :
    pushedValues settings pieces = pieceValues pieces := by
  induction pieces with
  | nil => rfl
  | cons piece rest ih =>
    rw [pushedValues, List.flatMap_cons, ← pushedValues, ih]
    cases piece <;> simp [pieceValues, sink]

theorem pushedValues_inline (inline : settings.mode = .inline) (pieces : List Piece) :
    pushedValues settings pieces = [] := by
  rw [pushedValues, List.flatMap_eq_nil_iff]
  intro piece member
  cases piece <;> simp [inline]

end Fill

end Menagerie.Savanna
