import Menagerie.Savanna.Emission

/-!
# How the emitted pieces are kept apart

A piece that ends in a word, a number or a quote is followed by a fixed text that starts with a
blank, a comma or a parenthesis. So no two neighbouring pieces can be read as one.
-/

namespace Menagerie.Savanna

open Beaver

/-- How the text so far ends. -/
inductive Boundary
  | clean
  | dotted
  | name
  | word
  deriving DecidableEq

/-- Starts with a comma, a closing parenthesis, or a blank and more. -/
def Fragment.breaks (fragment : Fragment) : Bool :=
  fragment ≠ .columnType && fragment ≠ .cteEnd &&
    (fragment.text.head? = some ' ' || fragment.text.head? = some ',' ||
      fragment.text.head? = some ')')

/-- The text ends with a blank or a parenthesis. -/
def Fragment.closed (fragment : Fragment) : Bool :=
  fragment.text.getLast? = some ' ' || fragment.text.getLast? = some '(' ||
    fragment.text.getLast? = some ')'

/-- How the text ends after the fragment. -/
def Fragment.after (fragment : Fragment) : Boundary :=
  if fragment = .dot then .dotted else if fragment.closed then .clean else .word

/-- Whether the fragment may follow the text so far. -/
def Fragment.follows (fragment : Fragment) : Boundary → Bool
  | .clean => true
  | .dotted => fragment = .star
  | .name =>
    fragment.breaks || fragment = .dot || fragment = .parenOpen || fragment = .columnType
  | .word => fragment.breaks

/-- How the text ends after the piece. -/
def Piece.after : Piece → Boundary
  | .fragment part => part.after
  | .identifier _ => .name
  | .value _ | .placeholder | .number _ | .raw _ => .word

/-- Whether the piece may follow the text so far. -/
def Piece.follows : Piece → Boundary → Bool
  | .fragment part, boundary => part.follows boundary
  | .identifier _, boundary => boundary = .clean || boundary = .dotted
  | .value _, boundary | .placeholder, boundary | .number _, boundary | .raw _, boundary =>
    boundary = .clean

/-- How the text ends, if each piece may follow its predecessor. -/
def spacing : Boundary → List Piece → Option Boundary
  | boundary, [] => some boundary
  | boundary, piece :: rest => if piece.follows boundary then spacing piece.after rest else none

theorem spacing_append (boundary : Boundary) (first second : List Piece) :
    spacing boundary (first ++ second) =
      (spacing boundary first).bind fun middle => spacing middle second := by
  induction first generalizing boundary with
  | nil => rfl
  | cons piece rest ih =>
    simp only [List.cons_append, spacing]
    split
    · exact ih piece.after
    · rfl

/-- The pieces are apart at the start of a text, and do not end in a dot. -/
def Spaced (pieces : List Piece) : Prop :=
  ∃ last, last ≠ .dotted ∧ spacing .clean pieces = some last

/-- The pieces are apart from whatever stands before. -/
def Trails (pieces : List Piece) : Prop :=
  ∀ boundary, boundary ≠ .dotted → ∃ last, last ≠ .dotted ∧ spacing boundary pieces = some last

section

variable {fragment : Fragment}

theorem Fragment.follows_of_breaks {boundary : Boundary} (breaks : fragment.breaks = true)
    (settled : boundary ≠ .dotted) :
    fragment.follows boundary = true := by
  cases boundary with
  | clean => rfl
  | dotted => contradiction
  | name => simp [Fragment.follows, breaks]
  | word => exact breaks

theorem Fragment.after_of_closed (closed : fragment.closed = true) :
    fragment.after = .clean := by
  have other : fragment ≠ .dot := by
    rintro rfl
    exact absurd closed (by decide)
  simp [Fragment.after, other, closed]

theorem Fragment.after_ne_dotted (breaks : fragment.breaks = true) :
    fragment.after ≠ .dotted := by
  have other : fragment ≠ .dot := by
    rintro rfl
    exact absurd breaks (by decide)
  unfold Fragment.after
  rw [if_neg other]
  split <;> decide

end

theorem Trails.spaced {pieces : List Piece} (trails : Trails pieces) : Spaced pieces :=
  trails .clean (by decide)

theorem Trails.nil : Trails [] := fun boundary settled => ⟨boundary, settled, rfl⟩

theorem Trails.cons (fragment : Fragment) {rest : List Piece} (breaks : fragment.breaks = true)
    (closed : fragment.closed = true) (spaced : Spaced rest) :
    Trails (.fragment fragment :: rest) := by
  intro boundary settled
  obtain ⟨last, lastSettled, read⟩ := spaced
  refine ⟨last, lastSettled, ?_⟩
  simp [spacing, Piece.follows, Fragment.follows_of_breaks breaks settled, Piece.after,
    Fragment.after_of_closed closed, read]

theorem Trails.single (fragment : Fragment) (breaks : fragment.breaks = true) :
    Trails [.fragment fragment] := by
  intro boundary settled
  refine ⟨fragment.after, Fragment.after_ne_dotted breaks, ?_⟩
  simp [spacing, Piece.follows, Fragment.follows_of_breaks breaks settled, Piece.after]

theorem Trails.append {first second : List Piece} (left : Trails first) (right : Trails second) :
    Trails (first ++ second) := by
  intro boundary settled
  obtain ⟨middle, middleSettled, leftRead⟩ := left boundary settled
  obtain ⟨last, lastSettled, rightRead⟩ := right middle middleSettled
  exact ⟨last, lastSettled, by simp [spacing_append, leftRead, rightRead]⟩

theorem Trails.fragmentIf (test : Bool) (fragment : Fragment)
    (breaks : fragment.breaks = true) : Trails (fragmentIf test fragment) := by
  cases test
  · exact Trails.nil
  · exact Trails.single fragment breaks

theorem Spaced.append {first second : List Piece} (left : Spaced first) (right : Trails second) :
    Spaced (first ++ second) := by
  obtain ⟨middle, middleSettled, leftRead⟩ := left
  obtain ⟨last, lastSettled, rightRead⟩ := right middle middleSettled
  exact ⟨last, lastSettled, by simp [spacing_append, leftRead, rightRead]⟩

theorem Spaced.cons (fragment : Fragment) {rest : List Piece} (closed : fragment.closed = true)
    (spaced : Spaced rest) : Spaced (.fragment fragment :: rest) := by
  obtain ⟨last, lastSettled, read⟩ := spaced
  refine ⟨last, lastSettled, ?_⟩
  simp [spacing, Piece.follows, Fragment.follows, Piece.after, Fragment.after_of_closed closed,
    read]

theorem Spaced.behind {head rest : List Piece} (clean : spacing .clean head = some .clean)
    (spaced : Spaced rest) : Spaced (head ++ rest) := by
  obtain ⟨last, lastSettled, read⟩ := spaced
  exact ⟨last, lastSettled, by simp [spacing_append, clean, read]⟩

theorem clean_fragmentIf (test : Bool) (first fragment : Fragment)
    (firstClosed : first.closed = true) (closed : fragment.closed = true) :
    spacing .clean (.fragment first :: fragmentIf test fragment) = some .clean := by
  cases test <;>
    simp [fragmentIf, spacing, Piece.follows, Fragment.follows, Piece.after,
      Fragment.after_of_closed firstClosed, Fragment.after_of_closed closed]

theorem spaced_identifier (name : Text) : Spaced [.identifier name] := ⟨.name, by decide, rfl⟩

theorem spaced_value (value : FieldValue) : Spaced [.value value] := ⟨.word, by decide, rfl⟩

theorem spaced_case : Spaced [.fragment .caseStart] := ⟨.word, by decide, rfl⟩

theorem trails_alias (aliasName : Text) : Trails (aliasPieces aliasName) := by
  unfold aliasPieces
  split
  · exact Trails.nil
  · exact Trails.cons .aliasStart rfl rfl (spaced_identifier aliasName)

theorem spaced_tableName (tableName : Text) : Spaced (tableNamePieces tableName) := by
  unfold tableNamePieces
  split
  · exact Trails.nil.spaced
  · exact spaced_identifier tableName

theorem spaced_table (table : Table) : Spaced table.pieces := by
  cases table with
  | dynamicTable table =>
    cases table with
    | none => exact Trails.nil.spaced
    | some table => exact spaced_identifier table.tableName
  | name tableName => exact spaced_tableName tableName
  | staticTable table => exact spaced_tableName table.tableName

theorem spaced_columnLike (column : ColumnLike) : Spaced column.pieces := by
  cases column with
  | column col =>
    have named : Spaced (qualifierPieces col.table ++ [.identifier col.name]) := by
      unfold qualifierPieces
      split <;> exact ⟨.name, by decide, rfl⟩
    have aliased := named.append (trails_alias col.aliasName)
    simpa only [ColumnLike.pieces, List.append_assoc, List.singleton_append] using aliased
  | allColumns table =>
    change Spaced (qualifierPieces table ++ [.fragment .star])
    unfold qualifierPieces
    split <;> exact ⟨.word, by decide, rfl⟩

theorem spaced_separated {α : Type} {pieces : α → List Piece}
    (each : ∀ element, Spaced (pieces element)) (elements : List α) :
    Spaced (separated pieces elements true) ∧ Trails (separated pieces elements false) := by
  induction elements with
  | nil => exact ⟨Trails.nil.spaced, Trails.nil⟩
  | cons element rest ih =>
    have body := (each element).append ih.2
    exact ⟨body, Trails.cons .columnSeparator rfl rfl body⟩

theorem spaced_orderBy (order : OrderBy) : Spaced order.pieces := by
  have direction : (Fragment.orderDirection order.direction).breaks = true := by
    cases order.direction <;> decide
  exact (spaced_columnLike order.column).append (Trails.single _ direction)

theorem spaced_row (row : List FieldValue) : Spaced (rowPieces row) :=
  (Spaced.cons .parenOpen rfl (spaced_separated spaced_value row).1).append
    (Trails.single .parenClose rfl)

theorem spaced_assignment (assignment : Text × FieldValue) : Spaced (assignmentPieces assignment) :=
  ⟨.word, by decide, rfl⟩

theorem trails_limit (count offset : Nat) : Trails (limitPieces count offset) := by
  have counted : Trails [.fragment .limit, .number count] :=
    Trails.cons .limit rfl rfl ⟨.word, by decide, rfl⟩
  apply counted.append
  split
  · exact Trails.cons .offset rfl rfl ⟨.word, by decide, rfl⟩
  · exact Trails.nil

theorem spaced_staticField (field : StaticFieldSchema) : Spaced field.pieces := by
  have typed : Spaced [.identifier field.name, .fragment .columnType, .raw field.sqlType] :=
    ⟨.word, by decide, rfl⟩
  exact ((typed.append (Trails.fragmentIf _ .primaryKey rfl)).append
    (Trails.fragmentIf _ .notNull rfl)).append (Trails.fragmentIf _ .unique rfl)

section

variable (field : DynamicFieldSchema)

include field

theorem trails_default : Trails field.defaultPieces := by
  unfold DynamicFieldSchema.defaultPieces
  split
  · exact Trails.nil
  · exact Trails.cons .defaultStart rfl rfl ⟨.word, by decide, rfl⟩

theorem trails_references : Trails field.referencesPieces := by
  unfold DynamicFieldSchema.referencesPieces
  split
  · exact Trails.cons .references rfl rfl ⟨.clean, by decide, rfl⟩
  · exact Trails.nil

theorem spaced_dynamicField : Spaced field.pieces := by
  have typed : Spaced [.identifier field.name, .fragment .columnType, .raw field.dbType] :=
    ⟨.word, by decide, rfl⟩
  have constrained := ((typed.append (Trails.fragmentIf field.isPrimaryKey .primaryKey rfl)).append
    (Trails.fragmentIf (!field.isNullable && !field.isPrimaryKey) .notNull rfl)).append
    (Trails.fragmentIf (field.isUnique && !field.isPrimaryKey) .unique rfl)
  exact (constrained.append (trails_default field)).append (trails_references field)

end

theorem trails_createColumns (table : Table) : Trails (createColumnsPieces table) := by
  cases table with
  | dynamicTable table =>
    cases table with
    | none => exact Trails.nil
    | some table =>
      exact (Trails.cons .createColumnsStart rfl rfl
        (spaced_separated spaced_dynamicField table.fields).1).append
        (Trails.single .parenClose rfl)
  | name => exact Trails.nil
  | staticTable table =>
    exact (Trails.cons .createColumnsStart rfl rfl
      (spaced_separated spaced_staticField table.fields).1).append (Trails.single .parenClose rfl)

theorem spaced_insert (table : Table) (columns : List Text) (rows : List (List FieldValue)) :
    Spaced (insertPieces table columns rows) :=
  ((Spaced.cons .insertStart rfl (spaced_table table)).append
    (Trails.cons .insertColumnsStart rfl rfl (spaced_separated spaced_identifier columns).1)).append
    (Trails.cons .insertColumnsEnd rfl rfl (spaced_separated spaced_row rows).1)

theorem spaced_update (table : Table) (assignments : List (Text × FieldValue)) :
    Spaced (updatePieces table assignments) :=
  (Spaced.cons .updateStart rfl (spaced_table table)).append
    (Trails.cons .updateSet rfl rfl (spaced_separated spaced_assignment assignments).1)

theorem clean_cteHead (name : Text) (recursive : Bool) :
    spacing .clean (cteHeadPieces name recursive) = some .clean := by
  rw [cteHeadPieces, spacing_append, clean_fragmentIf recursive .cteStart .recursive rfl rfl]
  rfl

theorem spaced_aggregate (function : AggregateFunction) (column : ColumnLike) :
    Spaced (aggregatePieces function column) := by
  have operand : Spaced (aggregateOperandPieces function column) := by
    unfold aggregateOperandPieces
    split
    · exact ⟨.word, by decide, rfl⟩
    · exact spaced_columnLike column
  have opening : (Fragment.aggregateStart function).closed = true := by
    cases function with
    | count distinct => cases distinct <;> decide
    | _ => decide
  exact (Spaced.behind (clean_fragmentIf _ _ .distinct opening rfl) operand).append
    (Trails.single .parenClose rfl)

mutual

theorem spaced_pieces : ∀ expr : Expression, Spaced expr.pieces
  | .columnLike column => spaced_columnLike column
  | .literal value aliasName => (spaced_value value).append (trails_alias aliasName)
  | .nullLiteral | .paramPlaceholder => ⟨.word, by decide, rfl⟩
  | .binaryExpr op left right => by
    have operator : (Fragment.binaryOp op).breaks = true ∧
        (Fragment.binaryOp op).closed = true := by
      cases op <;> decide
    exact ((Spaced.cons .parenOpen rfl (spaced_pieces left)).append
      (Trails.cons _ operator.1 operator.2 (spaced_pieces right))).append
      (Trails.single .parenClose rfl)
  | .unaryExpr op operand => by
    cases op with
    | not => exact Spaced.cons (.unaryOp .not) rfl (spaced_pieces operand)
    | isNull => exact (spaced_pieces operand).append (Trails.single (.unaryOp .isNull) rfl)
    | isNotNull => exact (spaced_pieces operand).append (Trails.single (.unaryOp .isNotNull) rfl)
  | .betweenExpr operand lower upper =>
    ((spaced_pieces operand).append (Trails.cons .between rfl rfl (spaced_pieces lower))).append
      (Trails.cons .and rfl rfl (spaced_pieces upper))
  | .inListExpr operand values =>
    ((spaced_pieces operand).append
      (Trails.cons .inListStart rfl rfl (spaced_tuple values).1)).append
      (Trails.single .parenClose rfl)
  | .subquery query aliasName =>
    (Spaced.cons .parenOpen rfl (spaced_pieces query)).append
      (Trails.cons .parenClose rfl rfl (trails_alias aliasName).spaced)
  | .existsExpr query =>
    (Spaced.cons .existsStart rfl (spaced_pieces query)).append (Trails.single .parenClose rfl)
  | .aggregateExpr function column aliasName =>
    (spaced_aggregate function column).append (trails_alias aliasName)
  | .selectExpr distinct columns =>
    Spaced.behind (clean_fragmentIf distinct .selectStart .distinct rfl rfl)
      (spaced_tuple columns).1
  | .fromTableExpr select table aliasName =>
    ((spaced_pieces select).append (Trails.cons .fromStart rfl rfl (spaced_table table))).append
      (trails_alias aliasName)
  | .fromCteExpr select cteName cteQuery recursive =>
    ((Spaced.behind (clean_cteHead cteName recursive) (spaced_pieces cteQuery)).append
      (Trails.cons .parenClose rfl rfl (Spaced.cons .cteEnd rfl (spaced_pieces select)))).append
      (Trails.cons .fromStart rfl rfl (spaced_tableName cteName))
  | .whereExpr query condition =>
    (spaced_pieces query).append (Trails.cons .whereStart rfl rfl (spaced_pieces condition))
  | .groupByColumnExpr query columns =>
    (spaced_pieces query).append
      (Trails.cons .groupByStart rfl rfl (spaced_separated spaced_columnLike columns).1)
  | .groupByQueryExpr query criteria =>
    (spaced_pieces query).append (Trails.cons .groupByStart rfl rfl (spaced_pieces criteria))
  | .havingExpr query condition =>
    (spaced_pieces query).append (Trails.cons .havingStart rfl rfl (spaced_pieces condition))
  | .orderByExpr query orders =>
    (spaced_pieces query).append
      (Trails.cons .orderByStart rfl rfl (spaced_separated spaced_orderBy orders).1)
  | .limitExpr query count offset => (spaced_pieces query).append (trails_limit count offset)
  | .joinExpr query onCondition table type aliasName => by
    have opening : (Fragment.joinStart type).breaks = true ∧
        (Fragment.joinStart type).closed = true := by
      cases type <;> decide
    exact (((spaced_pieces query).append (Trails.cons _ opening.1 opening.2
      (spaced_table table))).append (trails_alias aliasName)).append
      (Trails.cons .joinOn rfl rfl (spaced_pieces onCondition))
  | .insertExpr table columns rows => spaced_insert table columns rows
  | .updateExpr table assignments => spaced_update table assignments
  | .updateWhereExpr table assignments condition =>
    (spaced_update table assignments).append
      (Trails.cons .whereStart rfl rfl (spaced_pieces condition))
  | .deleteExpr table => Spaced.cons .deleteStart rfl (spaced_table table)
  | .deleteWhereExpr table condition =>
    (Spaced.cons .deleteStart rfl (spaced_table table)).append
      (Trails.cons .whereStart rfl rfl (spaced_pieces condition))
  | .setOpExpr left right op => by
    have operator : (Fragment.setOp op).breaks = true ∧ (Fragment.setOp op).closed = true := by
      cases op <;> decide
    exact (spaced_pieces left).append (Trails.cons _ operator.1 operator.2 (spaced_pieces right))
  | .caseExpr whenClauses aliasName =>
    (spaced_case.append (trails_whenClauses whenClauses)).append
      ((Trails.single .caseEnd rfl).append (trails_alias aliasName))
  | .caseExprWithElse whenClauses elseClause aliasName =>
    ((spaced_case.append (trails_whenClauses whenClauses)).append
      (Trails.cons .elseStart rfl rfl (spaced_pieces elseClause))).append
      ((Trails.single .caseEnd rfl).append (trails_alias aliasName))
  | .cteExpr name query recursive =>
    (Spaced.behind (clean_cteHead name recursive) (spaced_pieces query)).append
      (Trails.cons .parenClose rfl rfl (Spaced.cons .cteEnd rfl Trails.nil.spaced))
  | .createTableExpr table ifNotExists =>
    (Spaced.behind (clean_fragmentIf ifNotExists .createTableStart .ifNotExists rfl rfl)
      (spaced_table table)).append (trails_createColumns table)
  | .dropTableExpr table ifExists cascade =>
    (Spaced.behind (clean_fragmentIf ifExists .dropTableStart .ifExists rfl rfl)
      (spaced_table table)).append (Trails.fragmentIf cascade .cascade rfl)

theorem spaced_tuple : ∀ values : Expressions,
    Spaced (values.pieces true) ∧ Trails (values.pieces false)
  | .nil => ⟨Trails.nil.spaced, Trails.nil⟩
  | .cons first rest => by
    have body := (spaced_pieces first).append (spaced_tuple rest).2
    exact ⟨body, Trails.cons .columnSeparator rfl rfl body⟩

theorem trails_whenClauses : ∀ whenClauses : WhenClauses, Trails whenClauses.pieces
  | .nil => Trails.nil
  | .cons condition value rest =>
    ((Trails.cons .whenStart rfl rfl (spaced_pieces condition)).append
      (Trails.cons .whenThen rfl rfl (spaced_pieces value))).append (trails_whenClauses rest)

end

end Menagerie.Savanna
