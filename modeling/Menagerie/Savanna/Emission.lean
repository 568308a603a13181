import Menagerie.Savanna.Compiler

/-!
# What a visit emits

The generator appends a sequence of pieces that is fixed by the expression: keywords, quoted names
and, where they depend on the mode, values and placeholders. A visit emits these pieces in order,
whatever the mode, the string type and the value category, and returns the captured values.
-/

namespace Menagerie.Savanna

open Beaver

/-- One thing that the generator appends. -/
inductive Piece
  | fragment (fragment : Fragment)
  | identifier (name : Text)
  | value (value : FieldValue)
  | placeholder
  | number (value : Nat)
  | raw (text : Text)
  deriving DecidableEq

/-- A fixed text under a condition. -/
def fragmentIf (test : Bool) (fragment : Fragment) : List Piece :=
  if test then [.fragment fragment] else []

/-- Pieces with commas between. -/
def separated {α : Type} (pieces : α → List Piece) : List α → Bool → List Piece
  | [], _ => []
  | element :: rest, first =>
    fragmentIf (!first) .columnSeparator ++ pieces element ++
      separated pieces rest false

/-- An alias. -/
def aliasPieces (aliasName : Text) : List Piece :=
  if aliasName = [] then [] else [.fragment .aliasStart, .identifier aliasName]

/-- A table name. -/
def tableNamePieces (tableName : Text) : List Piece :=
  if tableName = [] then [] else [.identifier tableName]

/-- A table. -/
def Table.pieces : Table → List Piece
  | .dynamicTable none => []
  | .dynamicTable (some table) => [.identifier table.tableName]
  | .name tableName => tableNamePieces tableName
  | .staticTable table => tableNamePieces table.tableName

/-- The qualification of a column by its table. -/
def qualifierPieces (table : Text) : List Piece :=
  if table = [] then [] else [.identifier table, .fragment .dot]

/-- A column. -/
def ColumnLike.pieces : ColumnLike → List Piece
  | .column col => qualifierPieces col.table ++ .identifier col.name :: aliasPieces col.aliasName
  | .allColumns table => qualifierPieces table ++ [.fragment .star]

/-- What is aggregated. -/
def aggregateOperandPieces : AggregateFunction → ColumnLike → List Piece
  | .count _, .allColumns _ => [.fragment .star]
  | _, column => column.pieces

/-- An aggregate. -/
def aggregatePieces (function : AggregateFunction) (column : ColumnLike) : List Piece :=
  .fragment (.aggregateStart function) ::
    fragmentIf (function = .count true) .distinct ++
    aggregateOperandPieces function column ++ [.fragment .parenClose]

/-- An order. -/
def OrderBy.pieces (order : OrderBy) : List Piece :=
  order.column.pieces ++ [.fragment (.orderDirection order.direction)]

/-- A row of values. -/
def rowPieces (row : List FieldValue) : List Piece :=
  .fragment .parenOpen :: separated (fun value => [.value value]) row true ++
    [.fragment .parenClose]

/-- An assignment. -/
def assignmentPieces (assignment : Text × FieldValue) : List Piece :=
  [.identifier assignment.1, .fragment .assign, .value assignment.2]

/-- The default. -/
def DynamicFieldSchema.defaultPieces (field : DynamicFieldSchema) : List Piece :=
  if field.defaultValue = [] then [] else [.fragment .defaultStart, .raw field.defaultValue]

/-- The reference. -/
def DynamicFieldSchema.referencesPieces (field : DynamicFieldSchema) : List Piece :=
  if field.isForeignKey && field.foreignTable ≠ [] then
    [.fragment .references, .identifier field.foreignTable, .fragment .parenOpen,
      .identifier field.foreignColumn, .fragment .parenClose]
  else []

/-- The pieces of the columns of a dynamic table. -/
def DynamicFieldSchema.pieces (field : DynamicFieldSchema) : List Piece :=
  [.identifier field.name, .fragment .columnType, .raw field.dbType] ++
    fragmentIf field.isPrimaryKey .primaryKey ++
    fragmentIf (!field.isNullable && !field.isPrimaryKey) .notNull ++
    fragmentIf (field.isUnique && !field.isPrimaryKey) .unique ++
    field.defaultPieces ++ field.referencesPieces

/-- The pieces of the columns of a static table. -/
def StaticFieldSchema.pieces (field : StaticFieldSchema) : List Piece :=
  [.identifier field.name, .fragment .columnType, .raw field.sqlType] ++
    fragmentIf field.isPrimaryKey .primaryKey ++
    fragmentIf (!field.isNullable && !field.isPrimaryKey) .notNull ++
    fragmentIf (field.isUnique && !field.isPrimaryKey) .unique

/-- The columns of a table. -/
def createColumnsPieces : Table → List Piece
  | .dynamicTable none | .name _ => []
  | .dynamicTable (some table) =>
    .fragment .createColumnsStart :: separated DynamicFieldSchema.pieces table.fields true ++
      [.fragment .parenClose]
  | .staticTable table =>
    .fragment .createColumnsStart :: separated StaticFieldSchema.pieces table.fields true ++
      [.fragment .parenClose]

/-- The limit. -/
def limitPieces (count offset : Nat) : List Piece :=
  [.fragment .limit, .number count] ++
    (if 0 < offset then [.fragment .offset, .number offset] else [])

/-- An insertion. -/
def insertPieces (table : Table) (columns : List Text) (rows : List (List FieldValue)) :
    List Piece :=
  .fragment .insertStart :: table.pieces ++
    .fragment .insertColumnsStart :: separated (fun name => [.identifier name]) columns true ++
    .fragment .insertColumnsEnd :: separated rowPieces rows true

/-- An update. -/
def updatePieces (table : Table) (assignments : List (Text × FieldValue)) : List Piece :=
  .fragment .updateStart :: table.pieces ++
    .fragment .updateSet :: separated assignmentPieces assignments true

/-- The head of a CTE. -/
def cteHeadPieces (name : Text) (recursive : Bool) : List Piece :=
  .fragment .cteStart :: fragmentIf recursive .recursive ++
    [.identifier name, .fragment .cteAsStart]

mutual

/-- What a visit of the expression appends, in order. -/
def Expression.pieces : Expression → List Piece
  | .columnLike column => column.pieces
  | .literal value aliasName => .value value :: aliasPieces aliasName
  | .nullLiteral => [.fragment .null]
  | .paramPlaceholder => [.placeholder]
  | .binaryExpr op left right =>
    .fragment .parenOpen :: left.pieces ++ .fragment (.binaryOp op) :: right.pieces ++
      [.fragment .parenClose]
  | .unaryExpr op operand =>
    if op.isPostfix then operand.pieces ++ [.fragment (.unaryOp op)]
    else .fragment (.unaryOp op) :: operand.pieces
  | .betweenExpr operand lower upper =>
    operand.pieces ++ .fragment .between :: lower.pieces ++ .fragment .and :: upper.pieces
  | .inListExpr operand values =>
    operand.pieces ++ .fragment .inListStart :: values.pieces true ++ [.fragment .parenClose]
  | .subquery query aliasName =>
    .fragment .parenOpen :: query.pieces ++ .fragment .parenClose :: aliasPieces aliasName
  | .existsExpr query => .fragment .existsStart :: query.pieces ++ [.fragment .parenClose]
  | .aggregateExpr function column aliasName =>
    aggregatePieces function column ++ aliasPieces aliasName
  | .selectExpr distinct columns =>
    .fragment .selectStart :: fragmentIf distinct .distinct ++
      columns.pieces true
  | .fromTableExpr select table aliasName =>
    select.pieces ++ .fragment .fromStart :: table.pieces ++ aliasPieces aliasName
  | .fromCteExpr select cteName cteQuery recursive =>
    cteHeadPieces cteName recursive ++ cteQuery.pieces ++
      .fragment .parenClose :: .fragment .cteEnd :: select.pieces ++
      .fragment .fromStart :: tableNamePieces cteName
  | .whereExpr query condition => query.pieces ++ .fragment .whereStart :: condition.pieces
  | .groupByColumnExpr query columns =>
    query.pieces ++ .fragment .groupByStart :: separated ColumnLike.pieces columns true
  | .groupByQueryExpr query criteria => query.pieces ++ .fragment .groupByStart :: criteria.pieces
  | .havingExpr query condition => query.pieces ++ .fragment .havingStart :: condition.pieces
  | .orderByExpr query orders =>
    query.pieces ++ .fragment .orderByStart :: separated OrderBy.pieces orders true
  | .limitExpr query count offset => query.pieces ++ limitPieces count offset
  | .joinExpr query onCondition table type aliasName =>
    query.pieces ++ .fragment (.joinStart type) :: table.pieces ++ aliasPieces aliasName ++
      .fragment .joinOn :: onCondition.pieces
  | .insertExpr table columns rows => insertPieces table columns rows
  | .updateExpr table assignments => updatePieces table assignments
  | .updateWhereExpr table assignments condition =>
    updatePieces table assignments ++ .fragment .whereStart :: condition.pieces
  | .deleteExpr table => .fragment .deleteStart :: table.pieces
  | .deleteWhereExpr table condition =>
    .fragment .deleteStart :: table.pieces ++ .fragment .whereStart :: condition.pieces
  | .setOpExpr left right op => left.pieces ++ .fragment (.setOp op) :: right.pieces
  | .caseExpr whenClauses aliasName =>
    .fragment .caseStart :: whenClauses.pieces ++ .fragment .caseEnd :: aliasPieces aliasName
  | .caseExprWithElse whenClauses elseClause aliasName =>
    .fragment .caseStart :: whenClauses.pieces ++ .fragment .elseStart :: elseClause.pieces ++
      .fragment .caseEnd :: aliasPieces aliasName
  | .cteExpr name query recursive =>
    cteHeadPieces name recursive ++ query.pieces ++ [.fragment .parenClose, .fragment .cteEnd]
  | .createTableExpr table ifNotExists =>
    .fragment .createTableStart :: fragmentIf ifNotExists .ifNotExists ++
      table.pieces ++ createColumnsPieces table
  | .dropTableExpr table ifExists cascade =>
    .fragment .dropTableStart :: fragmentIf ifExists .ifExists ++
      table.pieces ++ fragmentIf cascade .cascade

def Expressions.pieces : Expressions → Bool → List Piece
  | .nil, _ => []
  | .cons first rest, isFirst =>
    fragmentIf (!isFirst) .columnSeparator ++ first.pieces ++ rest.pieces false

def WhenClauses.pieces : WhenClauses → List Piece
  | .nil => []
  | .cons condition value rest =>
    .fragment .whenStart :: condition.pieces ++ .fragment .whenThen :: value.pieces ++ rest.pieces

end

mutual

/-- The values that the visit returns in tuple mode. -/
def Expression.captured : Expression → List FieldValue
  | .literal value _ => [value]
  | .columnLike _ | .nullLiteral | .paramPlaceholder | .aggregateExpr _ _ _ => []
  | .insertExpr _ _ _ | .updateExpr _ _ | .deleteExpr _ => []
  | .createTableExpr _ _ | .dropTableExpr _ _ _ => []
  | .binaryExpr _ left right | .setOpExpr left right _ => left.captured ++ right.captured
  | .unaryExpr _ operand => operand.captured
  | .betweenExpr operand lower upper => operand.captured ++ lower.captured ++ upper.captured
  | .inListExpr operand values => operand.captured ++ values.captured
  | .subquery query _ | .existsExpr query | .cteExpr _ query _ => query.captured
  | .selectExpr _ columns => columns.captured
  | .fromTableExpr select _ _ => select.captured
  | .fromCteExpr select _ cteQuery _ => cteQuery.captured ++ select.captured
  | .whereExpr query condition | .havingExpr query condition => query.captured ++ condition.captured
  | .groupByColumnExpr query _ | .orderByExpr query _ | .limitExpr query _ _ => query.captured
  | .groupByQueryExpr query criteria => query.captured ++ criteria.captured
  | .joinExpr query onCondition _ _ _ => query.captured ++ onCondition.captured
  | .updateWhereExpr _ _ condition | .deleteWhereExpr _ condition => condition.captured
  | .caseExpr whenClauses _ => whenClauses.captured
  | .caseExprWithElse whenClauses elseClause _ => whenClauses.captured ++ elseClause.captured

def Expressions.captured : Expressions → List FieldValue
  | .nil => []
  | .cons first rest => first.captured ++ rest.captured

def WhenClauses.captured : WhenClauses → List FieldValue
  | .nil => []
  | .cons condition value rest => condition.captured ++ value.captured ++ rest.captured

end

section Emit

variable {StringT : Type} [Appendable StringT]
variable (settings : Settings) (category : ValueCategory)

/-- A piece is appended. -/
@[simp] def Piece.emit : Piece → Visit StringT Unit
  | .fragment part => write part
  | .identifier name => quoteIdentifier name
  | .value val => visitValueImpl settings category val
  | .placeholder => nextPlaceholder
  | .number val => append (constexprToString val)
  | .raw text => append text

/-- Append pieces in order. -/
@[simp] def emitAll : List Piece → Visit StringT Unit
  | [] => pure ()
  | piece :: rest => do
    piece.emit settings category
    emitAll rest

theorem emitAll_cons (piece : Piece) (rest : List Piece) :
    emitAll settings category (piece :: rest) = (do
      piece.emit settings category
      emitAll settings category rest : Visit StringT Unit) := rfl

@[simp] theorem emitAll_append (first second : List Piece) :
    emitAll settings category (first ++ second) = (do
      emitAll settings category first
      emitAll settings category second : Visit StringT Unit) := by
  induction first with
  | nil => simp
  | cons piece rest ih => simp [ih]

theorem writeIf_eq (test : Bool) (fragment : Fragment) :
    (writeIf test fragment : Visit StringT Unit) =
      emitAll settings category (fragmentIf test fragment) := by
  cases test <;> simp [writeIf, fragmentIf]

theorem visitAliasImpl_eq (aliasName : Text) :
    (visitAliasImpl aliasName : Visit StringT Unit) =
      emitAll settings category (aliasPieces aliasName) := by
  unfold visitAliasImpl aliasPieces
  split <;> simp

theorem visitTableName_eq (tableName : Text) :
    (visitTableName tableName : Visit StringT Unit) =
      emitAll settings category (tableNamePieces tableName) := by
  unfold visitTableName tableNamePieces
  split <;> simp

theorem visitTableImpl_eq (table : Table) :
    (visitTableImpl table : Visit StringT Unit) = emitAll settings category table.pieces := by
  cases table with
  | dynamicTable table => cases table <;> simp [visitTableImpl, Table.pieces]
  | name tableName => exact visitTableName_eq settings category tableName
  | staticTable table => exact visitTableName_eq settings category table.tableName

theorem visitQualifier_eq (table : Text) :
    (visitQualifier table : Visit StringT Unit) =
      emitAll settings category (qualifierPieces table) := by
  unfold visitQualifier qualifierPieces
  split
  · rfl
  · simp [visitTableName, *]

theorem visitColumnLike_eq (column : ColumnLike) :
    (visitColumnLike column : Visit StringT Unit) = emitAll settings category column.pieces := by
  cases column <;>
    simp [visitColumnLike, visitColumnImpl, visitAllColumnsImpl, ColumnLike.pieces,
      visitQualifier_eq settings category, visitAliasImpl_eq settings category]

theorem visitSeparated_eq {α : Type} (visitElement : α → Visit StringT Unit)
    (pieces : α → List Piece)
    (same : ∀ element, visitElement element = emitAll settings category (pieces element))
    (elements : List α) (first : Bool) :
    visitSeparated visitElement elements first =
      emitAll settings category (separated pieces elements first) := by
  induction elements generalizing first with
  | nil => rfl
  | cons element rest ih =>
    simp [visitSeparated, separated, writeIf_eq settings category, same, ih]

theorem visitAggregateOperand_eq (function : AggregateFunction) (column : ColumnLike) :
    (visitAggregateOperand function column : Visit StringT Unit) =
      emitAll settings category (aggregateOperandPieces function column) := by
  cases function with
  | count =>
    cases column with
    | column col => exact visitColumnLike_eq settings category (.column col)
    | allColumns => exact visitColumnLike_eq settings category (.allColumns [])
  | _ => exact visitColumnLike_eq settings category column

theorem visitAggregateStart_eq (function : AggregateFunction) :
    (visitAggregateStart function : Visit StringT Unit) =
      emitAll settings category (.fragment (.aggregateStart function) ::
        fragmentIf (function = .count true) .distinct) := by
  simp [visitAggregateStart, writeIf_eq settings category]

theorem visitInsertColumns_eq (columns : List Text) :
    (visitInsertColumns columns : Visit StringT Unit) =
      emitAll settings category (.fragment .insertColumnsStart ::
        separated (fun name => [.identifier name]) columns true ++
        [.fragment .insertColumnsEnd]) := by
  have names := visitSeparated_eq settings category (quoteIdentifier : Text → Visit StringT Unit)
    (fun name => [.identifier name]) (fun name => by simp) columns true
  simp [visitInsertColumns, names]

theorem visitInsertValues_eq (rows : List (List FieldValue)) :
    (visitInsertValues settings category rows : Visit StringT Unit) =
      emitAll settings category (separated rowPieces rows true) := by
  apply visitSeparated_eq
  intro row
  have values := visitSeparated_eq settings category
    (visitValueImpl settings category : FieldValue → Visit StringT Unit)
    (fun value => [.value value]) (fun value => by simp) row true
  simp [rowPieces, values]

theorem visitUpdateExpr_eq (table : Table) (assignments : List (Text × FieldValue)) :
    (visitUpdateExpr settings category table assignments : Visit StringT Unit) =
      emitAll settings category (updatePieces table assignments) := by
  have each := visitSeparated_eq settings category (fun assignment => (do
    quoteIdentifier assignment.1
    write .assign
    visitValueImpl settings category assignment.2 : Visit StringT Unit)) assignmentPieces
    (fun assignment => by simp [assignmentPieces]) assignments true
  simp [visitUpdateExpr, visitUpdateSet, updatePieces, each, visitTableImpl_eq settings category]

theorem visitDeleteExpr_eq (table : Table) :
    (visitDeleteExpr table : Visit StringT Unit) =
      emitAll settings category (.fragment .deleteStart :: table.pieces) := by
  simp [visitDeleteExpr, visitTableImpl_eq settings category]

theorem visitLimitImpl_eq (count offset : Nat) :
    (visitLimitImpl count offset : Visit StringT Unit) =
      emitAll settings category (limitPieces count offset) := by
  by_cases skipped : 0 < offset <;>
    simp [visitLimitImpl, visitOffset, limitPieces, skipped]

section

variable (field : DynamicFieldSchema)

include field

theorem visitDefault_eq :
    (visitDefault field : Visit StringT Unit) = emitAll settings category field.defaultPieces := by
  unfold visitDefault DynamicFieldSchema.defaultPieces
  split <;> simp

theorem visitReferences_eq :
    (visitReferences field : Visit StringT Unit) =
      emitAll settings category field.referencesPieces := by
  unfold visitReferences DynamicFieldSchema.referencesPieces
  split <;> simp

theorem visitDynamicField_eq :
    (visitDynamicField field : Visit StringT Unit) = emitAll settings category field.pieces := by
  simp [visitDynamicField, DynamicFieldSchema.pieces, writeIf_eq settings category,
    visitDefault_eq settings category, visitReferences_eq settings category]

end

theorem visitStaticField_eq (field : StaticFieldSchema) :
    (visitStaticField field : Visit StringT Unit) = emitAll settings category field.pieces := by
  simp [visitStaticField, StaticFieldSchema.pieces, writeIf_eq settings category]

theorem visitCreateTableColumns_eq (table : Table) :
    (visitCreateTableColumns table : Visit StringT Unit) =
      emitAll settings category (createColumnsPieces table) := by
  have dynamicFields := visitSeparated_eq settings category
    (visitDynamicField : DynamicFieldSchema → Visit StringT Unit) DynamicFieldSchema.pieces
    (visitDynamicField_eq settings category)
  have staticFields := visitSeparated_eq settings category
    (visitStaticField : StaticFieldSchema → Visit StringT Unit) StaticFieldSchema.pieces
    (visitStaticField_eq settings category)
  cases table with
  | dynamicTable table =>
    cases table with
    | none => rfl
    | some table =>
      simp [visitCreateTableColumns, createColumnsPieces, dynamicFields]
  | name => rfl
  | staticTable table =>
    simp [visitCreateTableColumns, createColumnsPieces, staticFields]

/-- What a visit returns of the captured values: nothing outside tuple mode. -/
def returned (params : List FieldValue) : List FieldValue :=
  if settings.mode = .tuple then params else []

theorem returned_nil : returned settings [] = [] := by
  unfold returned
  split <;> rfl

theorem catParams_returned (first second : List FieldValue) :
    catParams settings (returned settings first) (returned settings second) =
      returned settings (first ++ second) := by
  unfold catParams returned
  split <;> rfl

theorem catParams_nil_right (first : List FieldValue) :
    catParams settings (returned settings first) [] = returned settings first := by
  unfold catParams returned
  split <;> simp

theorem catParams_nil_left (second : List FieldValue) :
    catParams settings [] (returned settings second) = returned settings second := by
  unfold catParams returned
  split <;> simp

theorem literalParams_returned (value : FieldValue) :
    literalParams settings category value = returned settings [value] := by
  cases category <;> simp [literalParams, captureParam, returned]

theorem visit_eq : ∀ expr : Expression,
    (visit settings category expr : Visit StringT (List FieldValue)) = (do
      emitAll settings category expr.pieces
      return returned settings expr.captured) := by
  have orders := visitSeparated_eq settings category
    (visitOrderBy : OrderBy → Visit StringT Unit) OrderBy.pieces (fun order => by
      simp [visitOrderBy, OrderBy.pieces, visitColumnLike_eq settings category])
  have columns := visitSeparated_eq settings category
    (visitColumnLike : ColumnLike → Visit StringT Unit) _ (visitColumnLike_eq settings category)
  apply @Expression.rec
    (fun expr => (visit settings category expr : Visit StringT (List FieldValue)) = (do
      emitAll settings category expr.pieces
      return returned settings expr.captured))
    (fun values => ∀ isFirst, (visitTupleElements settings category values isFirst :
        Visit StringT (List FieldValue)) = (do
      emitAll settings category (values.pieces isFirst)
      return returned settings values.captured))
    (fun whenClauses => (visitWhenClauses settings category whenClauses :
        Visit StringT (List FieldValue)) = (do
      emitAll settings category whenClauses.pieces
      return returned settings whenClauses.captured))
  case unaryExpr =>
    intro op operand ih
    cases post : op.isPostfix <;>
      simp [visit, Expression.pieces, Expression.captured, ih, post]
  -- Any other node emits its own pieces between those of its children.
  all_goals
    intros
    simp [visit, visitTupleElements, visitWhenClauses, Expression.pieces, Expressions.pieces,
      WhenClauses.pieces, Expression.captured, Expressions.captured, WhenClauses.captured,
      aggregatePieces, insertPieces, cteHeadPieces, visitColumnLike_eq settings category,
      visitAliasImpl_eq settings category, visitAggregateStart_eq settings category,
      visitAggregateOperand_eq settings category, writeIf_eq settings category,
      visitTableImpl_eq settings category, visitTableName_eq settings category,
      visitLimitImpl_eq settings category, visitInsertColumns_eq settings category,
      visitInsertValues_eq, visitUpdateExpr_eq, visitDeleteExpr_eq settings category,
      visitCreateTableColumns_eq settings category, literalParams_returned, returned_nil,
      catParams_returned, catParams_nil_right, catParams_nil_left, *]

end Emit

end Menagerie.Savanna
