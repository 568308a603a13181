import Menagerie.Savanna.Agreement

/-!
# What tuple mode captures

Tuple mode numbers a placeholder for every value that it emits, and returns the values of the
literals. The row values of an `INSERT` and the assignments of an `UPDATE` are numbered and not
returned.
-/

namespace Menagerie.Savanna

open Beaver Expression List

/-- What a query emits a placeholder for. -/
inductive Slot
  | literal (value : FieldValue)
  | stored (value : FieldValue)
  | parameter
  deriving DecidableEq

namespace Slot

def value? : Slot → Option FieldValue
  | .literal value | .stored value => some value
  | .parameter => none

def literal? : Slot → Option FieldValue
  | .literal value => some value
  | .stored _ | .parameter => none

def stored? : Slot → Option FieldValue
  | .stored value => some value
  | .literal _ | .parameter => none

end Slot

mutual

/-- The slots of an expression, in the order of emission. -/
def Expression.slots : Expression → List Slot
  | .literal value _ => [.literal value]
  | .paramPlaceholder => [.parameter]
  | .insertExpr _ _ rows => rows.flatten.map .stored
  | .updateExpr _ assignments => (assignments.map Prod.snd).map .stored
  | .updateWhereExpr _ assignments condition =>
    (assignments.map Prod.snd).map .stored ++ condition.slots
  | .columnLike _ | .nullLiteral | .aggregateExpr _ _ _ => []
  | .deleteExpr _ | .createTableExpr _ _ | .dropTableExpr _ _ _ => []
  | .binaryExpr _ left right | .setOpExpr left right _ => left.slots ++ right.slots
  | .unaryExpr _ operand => operand.slots
  | .betweenExpr operand lower upper => operand.slots ++ lower.slots ++ upper.slots
  | .inListExpr operand values => operand.slots ++ values.slots
  | .subquery query _ | .existsExpr query | .cteExpr _ query _ => query.slots
  | .selectExpr _ columns => columns.slots
  | .fromTableExpr select _ _ => select.slots
  | .fromCteExpr select _ cteQuery _ => cteQuery.slots ++ select.slots
  | .whereExpr query condition | .havingExpr query condition => query.slots ++ condition.slots
  | .groupByColumnExpr query _ | .orderByExpr query _ | .limitExpr query _ _ => query.slots
  | .groupByQueryExpr query criteria => query.slots ++ criteria.slots
  | .joinExpr query onCondition _ _ _ => query.slots ++ onCondition.slots
  | .deleteWhereExpr _ condition => condition.slots
  | .caseExpr whenClauses _ => whenClauses.slots
  | .caseExprWithElse whenClauses elseClause _ => whenClauses.slots ++ elseClause.slots

def Expressions.slots : Expressions → List Slot
  | .nil => []
  | .cons first rest => first.slots ++ rest.slots

def WhenClauses.slots : WhenClauses → List Slot
  | .nil => []
  | .cons condition value rest => condition.slots ++ value.slots ++ rest.slots

end

/-- The row values of `INSERT`s and the assigned values of `UPDATE`s. -/
def Expression.stored (expr : Expression) : List FieldValue := expr.slots.filterMap Slot.stored?

/-- The value of a piece that emits a placeholder. -/
def Piece.mark : Piece → List (Option FieldValue)
  | .value val => [some val]
  | .placeholder => [none]
  | .fragment _ | .identifier _ | .number _ | .raw _ => []

/-- The values of the pieces that emit placeholders. -/
def marks (pieces : List Piece) : List (Option FieldValue) := pieces.flatMap Piece.mark

theorem marks_append (first second : List Piece) :
    marks (first ++ second) = marks first ++ marks second := flatMap_append

theorem marks_cons (piece : Piece) (rest : List Piece) :
    marks (piece :: rest) = piece.mark ++ marks rest := rfl

@[simp]
theorem marks_fragment (part : Fragment) (rest : List Piece) :
    marks (.fragment part :: rest) = marks rest := rfl

@[simp]
theorem marks_value (val : FieldValue) (rest : List Piece) :
    marks (.value val :: rest) = some val :: marks rest := rfl

@[simp]
theorem marks_placeholder (rest : List Piece) : marks (.placeholder :: rest) = none :: marks rest :=
  rfl

@[simp]
theorem marks_identifier (name : Text) (rest : List Piece) :
    marks (.identifier name :: rest) = marks rest := rfl

@[simp]
theorem marks_nil : marks [] = [] := rfl

/-- No mode changes the text of the piece. -/
def Piece.isModeFree : Piece → Bool
  | .fragment _ | .identifier _ | .number _ | .raw _ => true
  | .value _ | .placeholder => false

/-- No piece depends on the mode. -/
def Fixed (pieces : List Piece) : Prop := ∀ piece ∈ pieces, piece.isModeFree = true

theorem Fixed.append {first second : List Piece} (left : Fixed first) (right : Fixed second) :
    Fixed (first ++ second) := forall_mem_append.mpr ⟨left, right⟩

theorem Fixed.cons {piece : Piece} {rest : List Piece} (here : piece.isModeFree = true)
    (there : Fixed rest) : Fixed (piece :: rest) := forall_mem_cons.mpr ⟨here, there⟩

theorem fixed_of_all {pieces : List Piece} (all : pieces.all Piece.isModeFree = true) :
    Fixed pieces := all_eq_true.mp all

@[simp]
theorem fixed_fragmentIf (test : Bool) (part : Fragment) : Fixed (fragmentIf test part) := by
  cases test <;> exact fixed_of_all rfl

theorem fixed_separated {α : Type} {pieces : α → List Piece}
    (fixed : ∀ element, Fixed (pieces element)) (elements : List α) (first : Bool) :
    Fixed (separated pieces elements first) := by
  induction elements generalizing first with
  | nil => exact fixed_of_all rfl
  | cons element rest ih => exact ((fixed_fragmentIf _ _).append (fixed element)).append (ih false)

@[simp]
theorem fixed_alias (aliasName : Text) : Fixed (aliasPieces aliasName) := by
  unfold aliasPieces
  split <;> exact fixed_of_all rfl

@[simp]
theorem fixed_tableName (tableName : Text) : Fixed (tableNamePieces tableName) := by
  unfold tableNamePieces
  split <;> exact fixed_of_all rfl

@[simp]
theorem fixed_table (table : Table) : Fixed table.pieces := by
  cases table with
  | dynamicTable table => cases table <;> exact fixed_of_all rfl
  | name tableName => exact fixed_tableName tableName
  | staticTable table => exact fixed_tableName table.tableName

@[simp]
theorem fixed_columnLike (column : ColumnLike) : Fixed column.pieces := by
  have qualifier : ∀ table, Fixed (qualifierPieces table) := by
    intro table
    unfold qualifierPieces
    split <;> exact fixed_of_all rfl
  cases column with
  | column col => exact (qualifier col.table).append (.cons rfl (fixed_alias col.aliasName))
  | allColumns table => exact (qualifier table).append (fixed_of_all rfl)

@[simp]
theorem fixed_aggregate (function : AggregateFunction) (column : ColumnLike) :
    Fixed (aggregatePieces function column) := by
  have operand : Fixed (aggregateOperandPieces function column) := by
    unfold aggregateOperandPieces
    split
    · exact fixed_of_all rfl
    · exact fixed_columnLike column
  exact .append (.append (.cons rfl (fixed_fragmentIf _ _)) operand) (fixed_of_all rfl)

@[simp]
theorem fixed_orders (orders : List OrderBy) : Fixed (separated OrderBy.pieces orders true) :=
  fixed_separated (fun order => (fixed_columnLike order.column).append (fixed_of_all rfl)) orders _

@[simp]
theorem fixed_columns (columns : List ColumnLike) :
    Fixed (separated ColumnLike.pieces columns true) := fixed_separated fixed_columnLike columns _

@[simp]
theorem fixed_limit (count offset : Nat) : Fixed (limitPieces count offset) := by
  unfold limitPieces
  split <;> exact fixed_of_all rfl

@[simp]
theorem fixed_cteHead (name : Text) (recursive : Bool) : Fixed (cteHeadPieces name recursive) :=
  .append (.cons rfl (fixed_fragmentIf _ _)) (fixed_of_all rfl)

@[simp]
theorem fixed_createColumns (table : Table) : Fixed (createColumnsPieces table) := by
  have flags : ∀ {head : List Piece} {first second third : List Piece}, Fixed head → Fixed first →
      Fixed second → Fixed third → Fixed (head ++ first ++ second ++ third) :=
    fun head first second third => ((head.append first).append second).append third
  have dynamicField : ∀ field : DynamicFieldSchema, Fixed field.pieces := by
    intro field
    have default : Fixed field.defaultPieces := by
      unfold DynamicFieldSchema.defaultPieces
      split <;> exact fixed_of_all rfl
    have references : Fixed field.referencesPieces := by
      unfold DynamicFieldSchema.referencesPieces
      split <;> exact fixed_of_all rfl
    exact ((flags (fixed_of_all rfl) (fixed_fragmentIf _ _) (fixed_fragmentIf _ _)
      (fixed_fragmentIf _ _)).append default).append references
  have staticField : ∀ field : StaticFieldSchema, Fixed field.pieces := fun field =>
    flags (fixed_of_all rfl) (fixed_fragmentIf _ _) (fixed_fragmentIf _ _) (fixed_fragmentIf _ _)
  cases table with
  | dynamicTable table =>
    cases table with
    | none => exact fixed_of_all rfl
    | some table =>
      exact .append (.cons rfl (fixed_separated dynamicField table.fields _)) (fixed_of_all rfl)
  | name tableName => exact fixed_of_all rfl
  | staticTable table =>
    exact .append (.cons rfl (fixed_separated staticField table.fields _)) (fixed_of_all rfl)

@[simp]
theorem marks_of_fixed {pieces : List Piece} (fixed : Fixed pieces) : marks pieces = [] := by
  rw [marks, flatMap_eq_nil_iff]
  intro piece member
  have here := fixed piece member
  cases piece with
  | value val => cases here
  | placeholder => cases here
  | _ => rfl

theorem marks_separated {α : Type} (pieces : α → List Piece) (elements : List α) (first : Bool) :
    marks (separated pieces elements first) =
      elements.flatMap fun element => marks (pieces element) := by
  induction elements generalizing first with
  | nil => rfl
  | cons element rest ih =>
    simp [separated, marks_append, ih]

@[simp]
theorem marks_insert (table : Table) (columns : List Text) (rows : List (List FieldValue)) :
    marks (insertPieces table columns rows) = rows.flatten.map some := by
  have row : ∀ values : List FieldValue, marks (rowPieces values) = values.map some := by
    intro values
    simp [rowPieces, marks_append, marks_separated, map_eq_flatMap]
  simp [insertPieces, marks_append, marks_separated, row, map_flatten, flatMap_def]

@[simp]
theorem marks_update (table : Table) (assignments : List (Text × FieldValue)) :
    marks (updatePieces table assignments) = (assignments.map Prod.snd).map some := by
  simp only [updatePieces, marks_append, marks_separated, assignmentPieces, marks_fragment,
    marks_identifier, marks_value, marks_nil, marks_of_fixed (fixed_table table), nil_append,
    map_map, cons_append]
  exact map_eq_flatMap.symm

theorem stored_slots (values : List FieldValue) :
    (values.map Slot.stored).map Slot.value? = values.map some ∧
    (values.map Slot.stored).filterMap Slot.literal? = [] := by
  simp [filterMap_map, Function.comp_def, Slot.value?, Slot.literal?]

theorem slots_spec : ∀ expr : Expression,
    marks expr.pieces = expr.slots.map Slot.value? ∧
    expr.captured = expr.slots.filterMap Slot.literal? := by
  apply @Expression.rec
    (fun expr => marks expr.pieces = expr.slots.map Slot.value? ∧
      expr.captured = expr.slots.filterMap Slot.literal?)
    (fun exprs => ∀ isFirst, marks (exprs.pieces isFirst) = exprs.slots.map Slot.value? ∧
      exprs.captured = exprs.slots.filterMap Slot.literal?)
    (fun clauses => marks clauses.pieces = clauses.slots.map Slot.value? ∧
      clauses.captured = clauses.slots.filterMap Slot.literal?)
  case unaryExpr =>
    intro op operand ih
    cases op <;>
      simpa [pieces, captured, slots, marks_append, UnaryOp.isPostfix] using ih
  case insertExpr | updateExpr | updateWhereExpr =>
    intros
    simp_all only [pieces, captured, slots, marks_append, marks_insert, marks_update,
      marks_fragment, stored_slots, map_append, filterMap_append, nil_append, and_self]
  all_goals
    intros
    simp_all [pieces, Expressions.pieces, WhenClauses.pieces, captured,
      Expressions.captured, WhenClauses.captured, slots, Expressions.slots, WhenClauses.slots,
      marks_append, Slot.value?, Slot.literal?]

theorem values_eq (expr : Expression) : expr.values = expr.slots.filterMap Slot.value? := by
  have marked : ∀ pieces, pieceValues pieces = (marks pieces).filterMap id := by
    intro pieces
    induction pieces with
    | nil => rfl
    | cons piece rest ih => cases piece <;> simp [pieceValues, marks_cons, Piece.mark, ih]
  rw [values, marked, (slots_spec expr).1, filterMap_map, Function.id_comp]

theorem length_values (expr : Expression) :
    expr.values.length = expr.captured.length + expr.stored.length := by
  rw [values_eq, (slots_spec expr).2, stored]
  induction expr.slots with
  | nil => rfl
  | cons slot rest ih =>
    cases slot <;>
      simp only [filterMap_cons, Slot.value?, Slot.literal?, Slot.stored?, length_cons] <;>
      omega

theorem values_eq_captured {expr : Expression} (none : expr.stored = []) :
    expr.values = expr.captured := by
  rw [stored] at none
  rw [values_eq, (slots_spec expr).2]
  generalize expr.slots = slots at none
  induction slots with
  | nil => rfl
  | cons slot rest ih =>
    cases slot <;> simp_all [filterMap_cons, Slot.value?, Slot.literal?, Slot.stored?]

section Tuple

variable (expr : Expression)

/-- A static tuple compilation throws, or gives the text of sink compilation and the values that it
binds, one for each placeholder. -/
def TupleMatchesSink : Prop :=
  ∃ sink : CompiledDynamicQuery,
    sink.sql = weave expr.segments (placeholders 0 sink.params.length) ∧
    (∀ category, compileDynamic .sink category expr = .ok sink) ∧
    ∀ evaluation category maxLen,
      compileStatic evaluation .tuple maxLen category expr = .error .outOfRange ∨
      ∃ query, compileStatic evaluation .tuple maxLen category expr = .ok query ∧
        query.sql.view = sink.sql ∧ query.params = sink.params

variable {expr}

section

variable (closed : expr.Closed) (evaluation : Evaluation) (category : ValueCategory) {maxLen : Nat}

include closed evaluation category

/-- Tuple mode numbers the placeholders as sink mode does. -/
theorem compileStatic_tuple
    (fits : (weave expr.segments (placeholders 0 expr.values.length)).length ≤ maxLen) :
    ∃ query, compileStatic evaluation .tuple maxLen category expr = .ok query ∧
      query.sql.view = weave expr.segments (placeholders 0 expr.values.length) ∧
      query.params = expr.captured :=
  compileStatic_fits evaluation .tuple category expr
    (fill_tuple rfl expr.pieces closed {}) fits

theorem compileStatic_tuple_overflow
    (overflow : maxLen < (weave expr.segments (placeholders 0 expr.values.length)).length) :
    compileStatic evaluation .tuple maxLen category expr = .error .outOfRange :=
  compileStatic_overflow evaluation .tuple category expr
    (fill_tuple rfl expr.pieces closed {}) overflow

end

theorem captured_of_tupleMatchesSink (closed : expr.Closed) (agrees : TupleMatchesSink expr) :
    expr.captured = expr.values := by
  obtain ⟨sink, -, dynamic, static⟩ := agrees
  have bound : expr.values = sink.params := by
    have compiled := (compileDynamic_sink closed .lvalue).symm.trans (dynamic .lvalue)
    rw [← Except.ok.inj compiled]
  obtain ⟨query, compiled, -, params⟩ :=
    compileStatic_tuple closed .runtime .lvalue (Nat.le_refl _)
  rcases static .runtime .lvalue _ with thrown | ⟨again, compiledAgain, -, same⟩
  · rw [compiled] at thrown
    cases thrown
  · rw [compiled] at compiledAgain
    cases compiledAgain
    rw [← params, same, bound]

/-- Tuple mode captures every parameter exactly if no `INSERT` or `UPDATE` stores a value. -/
theorem tuple_captures_iff (closed : expr.Closed) :
    TupleMatchesSink expr ↔ expr.stored = [] := by
  constructor
  · intro agrees
    have length := length_values expr
    rw [captured_of_tupleMatchesSink closed agrees] at length
    exact length_eq_zero_iff.mp (by omega)
  · intro none
    refine ⟨_, rfl, compileDynamic_sink closed, fun evaluation category maxLen => ?_⟩
    by_cases fits : (weave expr.segments (placeholders 0 expr.values.length)).length ≤ maxLen
    · obtain ⟨query, compiled, view, params⟩ := compileStatic_tuple closed evaluation category fits
      exact .inr ⟨query, compiled, view, by rw [params, values_eq_captured none]⟩
    · exact .inl (compileStatic_tuple_overflow closed evaluation category (by omega))

/-- `INSERT INTO "t" ("id") VALUES ($1)`, where the tuple is empty. -/
def insertedRow : Expression :=
  .insertExpr (.name "t".toList) ["id".toList] [[.int32 7]]

theorem tuple_loses_inserted_row :
    insertedRow.Closed ∧ ¬ TupleMatchesSink insertedRow := by
  have closed : insertedRow.Closed := by decide
  refine ⟨closed, fun agrees => ?_⟩
  exact absurd (captured_of_tupleMatchesSink closed agrees) (by decide)

/-- `DELETE FROM "t" WHERE ("id" = $1)`. -/
def deletedRow : Expression :=
  .deleteWhereExpr (.name "t".toList)
    (.binaryExpr .equal (.columnLike (.column ⟨"id".toList, [], []⟩)) (.literal (.int32 7) []))

theorem tuple_captures_deleted_row :
    deletedRow.Closed ∧ TupleMatchesSink deletedRow :=
  ⟨by decide, (tuple_captures_iff (by decide)).mpr rfl⟩

end Tuple

end Menagerie.Savanna
