import Menagerie.Savanna.Dialect

/-!
# The SQL generator

`SqlGeneratorVisitor` walks an expression and appends SQL to its text. A literal value is formatted
into the text, or replaced by a placeholder and kept in the returned tuple or in the parameter sink.
Each node has an overload for lvalues and one for rvalues; they differ in the value category with
which they go on.
-/

namespace Menagerie.Savanna

open Beaver

/-- `ParamMode`. -/
inductive ParamMode
  | inline | tuple | sink
  deriving DecidableEq

/-- The `const&` or the `&&` overload of a visit. -/
inductive ValueCategory
  | lvalue | rvalue
  deriving DecidableEq

/-- The fixed pieces of SQL text, by their hooks. -/
inductive Fragment
  | dot | star | aliasStart | parenOpen | parenClose | existsStart
  | binaryOp (op : BinaryOp) | unaryOp (op : UnaryOp)
  | between | and | inListStart | null | columnSeparator
  | aggregateStart (function : AggregateFunction)
  | selectStart | distinct | fromStart | whereStart | groupByStart | havingStart | orderByStart
  | orderDirection (dir : OrderDirection)
  | limit | offset
  | joinStart (type : JoinType) | joinOn
  | insertStart | insertColumnsStart | insertColumnsEnd
  | updateStart | updateSet | assign | deleteStart
  | caseStart | caseEnd | whenStart | whenThen | elseStart
  | setOp (op : SetOperation)
  | cteStart | recursive | cteAsStart | cteEnd
  | createTableStart | ifNotExists | createColumnsStart | columnType
  | primaryKey | notNull | unique | defaultStart | references
  | dropTableStart | ifExists | cascade
  deriving DecidableEq

/-- `visit_binary_op_impl`. -/
def BinaryOp.text : BinaryOp → String
  | .equal => " = "
  | .notEqual => " != "
  | .less => " < "
  | .lessEqual => " <= "
  | .greater => " > "
  | .greaterEqual => " >= "
  | .and => " AND "
  | .or => " OR "
  | .like => " LIKE "
  | .notLike => " NOT LIKE "
  | .inQuery => " IN "

/-- `visit_unary_op_impl`. -/
def UnaryOp.text : UnaryOp → String
  | .not => "NOT "
  | .isNull => " IS NULL"
  | .isNotNull => " IS NOT NULL"

/-- The hooks of the aggregates, `COUNT` without `DISTINCT`. -/
def AggregateFunction.text : AggregateFunction → String
  | .count _ => "COUNT("
  | .sum => "SUM("
  | .avg => "AVG("
  | .max => "MAX("
  | .min => "MIN("

/-- `visit_join_start`. -/
def JoinType.text : JoinType → String
  | .inner => " INNER JOIN "
  | .left => " LEFT JOIN "
  | .right => " RIGHT JOIN "
  | .full => " FULL OUTER JOIN "
  | .cross => " CROSS JOIN "

/-- `visit_set_op_impl`. -/
def SetOperation.text : SetOperation → String
  | .union => " UNION "
  | .unionAll => " UNION ALL "
  | .intersect => " INTERSECT "
  | .except => " EXCEPT "

/-- `visit_order_direction_impl`. -/
def OrderDirection.text : OrderDirection → String
  | .asc => " ASC"
  | .desc => " DESC"

/-- The text of a fixed piece. -/
def Fragment.text : Fragment → Text
  | .dot => ".".toList
  | .star => "*".toList
  | .aliasStart => " AS ".toList
  | .parenOpen => "(".toList
  | .parenClose => ")".toList
  | .existsStart => "EXISTS (".toList
  | .binaryOp op => op.text.toList
  | .unaryOp op => op.text.toList
  | .between => " BETWEEN ".toList
  | .and => " AND ".toList
  | .inListStart => " IN (".toList
  | .null => "NULL".toList
  | .columnSeparator => ", ".toList
  | .aggregateStart function => function.text.toList
  | .selectStart => "SELECT ".toList
  | .distinct => "DISTINCT ".toList
  | .fromStart => " FROM ".toList
  | .whereStart => " WHERE ".toList
  | .groupByStart => " GROUP BY ".toList
  | .havingStart => " HAVING ".toList
  | .orderByStart => " ORDER BY ".toList
  | .orderDirection dir => dir.text.toList
  | .limit => " LIMIT ".toList
  | .offset => " OFFSET ".toList
  | .joinStart type => type.text.toList
  | .joinOn => " ON ".toList
  | .insertStart => "INSERT INTO ".toList
  | .insertColumnsStart => " (".toList
  | .insertColumnsEnd => ") VALUES ".toList
  | .updateStart => "UPDATE ".toList
  | .updateSet => " SET ".toList
  | .assign => " = ".toList
  | .deleteStart => "DELETE FROM ".toList
  | .caseStart => "CASE".toList
  | .caseEnd => " END".toList
  | .whenStart => " WHEN ".toList
  | .whenThen => " THEN ".toList
  | .elseStart => " ELSE ".toList
  | .setOp op => op.text.toList
  | .cteStart => "WITH ".toList
  | .recursive => "RECURSIVE ".toList
  | .cteAsStart => " AS (".toList
  | .cteEnd => " ".toList
  | .createTableStart => "CREATE TABLE ".toList
  | .ifNotExists => "IF NOT EXISTS ".toList
  | .createColumnsStart => " (".toList
  | .columnType => " ".toList
  | .primaryKey => " PRIMARY KEY".toList
  | .notNull => " NOT NULL".toList
  | .unique => " UNIQUE".toList
  | .defaultStart => " DEFAULT ".toList
  | .references => " REFERENCES ".toList
  | .dropTableStart => "DROP TABLE ".toList
  | .ifExists => "IF EXISTS ".toList
  | .cascade => " CASCADE".toList

/-- `Appendable`: what the generator writes to. -/
class Appendable (StringT : Type) where
  empty : StringT
  append : StringT → Text → Except Failure StringT
  view : StringT → Text

/-- `std::pmr::string`. -/
structure PmrString where
  text : Text
  deriving DecidableEq

instance : Appendable PmrString where
  empty := ⟨[]⟩
  append s sv := .ok ⟨s.text ++ sv⟩
  view := PmrString.text

instance (capacity : Nat) : Appendable (InlineString capacity) where
  empty := {}
  append s sv :=
    match s.append sv with
    | .ok appended => .ok appended
    | .error _ => .error .outOfRange
  view := InlineString.view

/-- `SqlGeneratorVisitor`; `sink` has what its `ParamSink` was given. -/
structure SqlGeneratorVisitor (StringT : Type) where
  sql : StringT
  sink : List FieldValue := []
  paramCount : Nat := 0

/-- The mode of a visitor, and where its code is evaluated. -/
structure Settings where
  evaluation : Evaluation
  mode : ParamMode

/-- A call on the visitor. -/
abbrev Visit (StringT : Type) := StateT (SqlGeneratorVisitor StringT) (Except Failure)

theorem Visit.pure_apply {StringT α : Type} (result : α) (visitor : SqlGeneratorVisitor StringT) :
    (StateT.pure result : Visit StringT α) visitor = .ok (result, visitor) :=
  rfl

section Generator

variable {StringT : Type} [Appendable StringT]
variable (settings : Settings)

/-- `sql_ += text`. -/
def append (text : Text) : Visit StringT Unit := fun visitor => do
  let sql ← Appendable.append visitor.sql text
  return ((), { visitor with sql := sql })

/-- The hooks that append a fixed text. -/
def write (fragment : Fragment) : Visit StringT Unit :=
  append fragment.text

/-- A fixed text that is appended under a condition. -/
def writeIf (test : Bool) (fragment : Fragment) : Visit StringT Unit :=
  if test then write fragment else pure ()

/-- A quoted name. -/
def quoteIdentifier (name : Text) : Visit StringT Unit :=
  append (PostgresDialect.quoteIdentifier name)

/-- `ParamSink::push` returns the index of the new value. -/
def push (_category : ValueCategory) (value : FieldValue) : Visit StringT Nat := do
  modify fun visitor => { visitor with sink := visitor.sink ++ [value] }
  return (← get).sink.length

/-- `DialectT::placeholder(sql_, ++param_count_)`. -/
def nextPlaceholder : Visit StringT Unit := do
  modify fun visitor => { visitor with paramCount := visitor.paramCount + 1 }
  append (PostgresDialect.placeholder (← get).paramCount)

/-- `visit_value_impl`. -/
def visitValueImpl (category : ValueCategory) (value : FieldValue) : Visit StringT Unit :=
  match settings.mode with
  | .inline => do
    let text ← PostgresDialect.formatValue settings.evaluation value
    append text
  | .tuple => nextPlaceholder
  | .sink => do
    let idx ← push category value
    append (PostgresDialect.placeholder idx)

/-- `visit_alias_impl`. -/
def visitAliasImpl (aliasName : Text) : Visit StringT Unit :=
  if aliasName = [] then pure ()
  else do
    write .aliasStart
    quoteIdentifier aliasName

/-- `visit_table_impl(std::string_view)`. -/
def visitTableName (tableName : Text) : Visit StringT Unit :=
  if tableName = [] then pure () else quoteIdentifier tableName

/-- `visit_table_impl`. -/
def visitTableImpl : Table → Visit StringT Unit
  | .dynamicTable none => pure ()
  | .dynamicTable (some table) => quoteIdentifier table.tableName
  | .name tableName => visitTableName tableName
  | .staticTable table => visitTableName table.tableName

/-- The table before a column. -/
def visitQualifier (table : Text) : Visit StringT Unit :=
  if table = [] then pure ()
  else do
    visitTableName table
    write .dot

/-- `visit_column_impl`. -/
def visitColumnImpl (column : Column) : Visit StringT Unit := do
  visitQualifier column.table
  quoteIdentifier column.name
  visitAliasImpl column.aliasName

/-- `visit_all_columns_impl`. -/
def visitAllColumnsImpl (table : Text) : Visit StringT Unit := do
  visitQualifier table
  write .star

/-- `visit(const Column&)` and `visit(const AllColumns&)`. -/
def visitColumnLike : ColumnLike → Visit StringT Unit
  | .column column => visitColumnImpl column
  | .allColumns table => visitAllColumnsImpl table

/-- Opens an aggregate; only `visit_count_impl` can append `DISTINCT`. -/
def visitAggregateStart (function : AggregateFunction) : Visit StringT Unit := do
  write (.aggregateStart function)
  writeIf (function = .count true) .distinct

/-- The operand of an aggregate; `COUNT` drops the table of a wildcard. -/
def visitAggregateOperand : AggregateFunction → ColumnLike → Visit StringT Unit
  | .count _, .allColumns _ => visitAllColumnsImpl []
  | _, column => visitColumnLike column

/-- `visit(const OrderBy&)`. -/
def visitOrderBy (order : OrderBy) : Visit StringT Unit := do
  visitColumnLike order.column
  write (.orderDirection order.direction)

/-- Appends `, ` before every element but the first. -/
def visitSeparated {α : Type} (visitElement : α → Visit StringT Unit) :
    List α → Bool → Visit StringT Unit
  | [], _ => pure ()
  | element :: rest, first => do
    writeIf (!first) .columnSeparator
    visitElement element
    visitSeparated visitElement rest false

/-- `visit_insert_columns`. -/
def visitInsertColumns (columns : List Text) : Visit StringT Unit := do
  write .insertColumnsStart
  visitSeparated quoteIdentifier columns true
  write .insertColumnsEnd

/-- `visit_insert_values`. -/
def visitInsertValues (category : ValueCategory) (rows : List (List FieldValue)) :
    Visit StringT Unit :=
  visitSeparated (fun row => do
    write .parenOpen
    visitSeparated (visitValueImpl settings category) row true
    write .parenClose) rows true

/-- `visit_update_set`. -/
def visitUpdateSet (category : ValueCategory) (assignments : List (Text × FieldValue)) :
    Visit StringT Unit := do
  write .updateSet
  visitSeparated (fun assignment => do
    quoteIdentifier assignment.1
    write .assign
    visitValueImpl settings category assignment.2) assignments true

/-- The `DEFAULT` of a column. -/
def visitDefault (field : DynamicFieldSchema) : Visit StringT Unit :=
  if field.defaultValue = [] then pure ()
  else do
    write .defaultStart
    append field.defaultValue

/-- The reference of a field. -/
def visitReferences (field : DynamicFieldSchema) : Visit StringT Unit :=
  if field.isForeignKey && field.foreignTable ≠ [] then do
    write .references
    quoteIdentifier field.foreignTable
    write .parenOpen
    quoteIdentifier field.foreignColumn
    write .parenClose
  else pure ()

/-- A column of `visit_create_table_columns(const DynamicTablePtr&)`. -/
def visitDynamicField (field : DynamicFieldSchema) : Visit StringT Unit := do
  quoteIdentifier field.name
  write .columnType
  append field.dbType
  writeIf field.isPrimaryKey .primaryKey
  writeIf (!field.isNullable && !field.isPrimaryKey) .notNull
  writeIf (field.isUnique && !field.isPrimaryKey) .unique
  visitDefault field
  visitReferences field

/-- A column of `visit_create_table_columns`, static table. -/
def visitStaticField (field : StaticFieldSchema) : Visit StringT Unit := do
  quoteIdentifier field.name
  write .columnType
  append field.sqlType
  writeIf field.isPrimaryKey .primaryKey
  writeIf (!field.isNullable && !field.isPrimaryKey) .notNull
  writeIf (field.isUnique && !field.isPrimaryKey) .unique

/-- `visit_create_table_columns`; a mere name has no columns. -/
def visitCreateTableColumns : Table → Visit StringT Unit
  | .dynamicTable none | .name _ => pure ()
  | .dynamicTable (some table) => do
    write .createColumnsStart
    visitSeparated visitDynamicField table.fields true
    write .parenClose
  | .staticTable table => do
    write .createColumnsStart
    visitSeparated visitStaticField table.fields true
    write .parenClose

/-- The `OFFSET` of `limit_clause`. -/
def visitOffset (offset : Nat) : Visit StringT Unit :=
  if 0 < offset then do
    write .offset
    append (constexprToString offset)
  else pure ()

/-- `limit_clause`. -/
def visitLimitImpl (limit offset : Nat) : Visit StringT Unit := do
  write .limit
  append (constexprToString limit)
  visitOffset offset

/-- `capture_param`. -/
def captureParam (value : FieldValue) : List FieldValue :=
  if settings.mode = .tuple then [value] else []

/-- What `visit(const Literal&)` and `visit(Literal&&)` return; the latter first asks the mode. -/
def literalParams : ValueCategory → FieldValue → List FieldValue
  | .lvalue, value => captureParam settings value
  | .rvalue, value => if settings.mode = .tuple then captureParam settings value else []

/-- `std::tuple_cat`. -/
def catParams (first second : List FieldValue) : List FieldValue :=
  if settings.mode = .tuple then first ++ second else []

/-- `visit` of an update. -/
def visitUpdateExpr (category : ValueCategory) (table : Table)
    (assignments : List (Text × FieldValue)) : Visit StringT Unit := do
  write .updateStart
  visitTableImpl table
  visitUpdateSet settings category assignments

/-- `visit` of a deletion. -/
def visitDeleteExpr (table : Table) : Visit StringT Unit := do
  write .deleteStart
  visitTableImpl table

mutual

/-- `QueryVisitor::visit`, with the captured parameters. -/
def visit (category : ValueCategory) : Expression → Visit StringT (List FieldValue)
  | .columnLike column => do
    visitColumnLike column
    return []
  | .literal value aliasName => do
    visitValueImpl settings category value
    visitAliasImpl aliasName
    return literalParams settings category value
  | .nullLiteral => do
    write .null
    return []
  | .paramPlaceholder => do
    nextPlaceholder
    return []
  | .binaryExpr op left right => do
    write .parenOpen
    let lp ← visit category left
    write (.binaryOp op)
    let rp ← visit category right
    write .parenClose
    return catParams settings lp rp
  | .unaryExpr op operand =>
    if op.isPostfix then do
      let params ← visit category operand
      write (.unaryOp op)
      return params
    else do
      write (.unaryOp op)
      visit category operand
  | .betweenExpr operand lower upper => do
    let op ← visit category operand
    write .between
    let lp ← visit category lower
    write .and
    let up ← visit category upper
    return catParams settings (catParams settings op lp) up
  | .inListExpr operand values => do
    let op ← visit category operand
    write .inListStart
    let vp ← visitTupleElements category values true
    write .parenClose
    return catParams settings op vp
  | .subquery query aliasName => do
    write .parenOpen
    let qp ← visit category query
    write .parenClose
    visitAliasImpl aliasName
    return qp
  | .existsExpr query => do
    write .existsStart
    let qp ← visit category query
    write .parenClose
    return qp
  | .aggregateExpr function column aliasName => do
    visitAggregateStart function
    visitAggregateOperand function column
    write .parenClose
    visitAliasImpl aliasName
    return []
  | .selectExpr distinct columns => do
    write .selectStart
    writeIf distinct .distinct
    visitTupleElements category columns true
  | .fromTableExpr select table aliasName => do
    let sp ← visit category select
    write .fromStart
    visitTableImpl table
    visitAliasImpl aliasName
    return sp
  | .fromCteExpr select cteName cteQuery recursive => do
    -- the rvalue overload copies the name before it visits the moved definition
    write .cteStart
    writeIf recursive .recursive
    quoteIdentifier cteName
    write .cteAsStart
    let cp ← visit category cteQuery
    write .parenClose
    write .cteEnd
    let sp ← visit category select
    write .fromStart
    visitTableName cteName
    return catParams settings cp sp
  | .whereExpr query condition => do
    let qp ← visit category query
    write .whereStart
    let cp ← visit category condition
    return catParams settings qp cp
  | .groupByColumnExpr query columns => do
    let qp ← visit category query
    write .groupByStart
    visitSeparated visitColumnLike columns true
    return catParams settings qp []
  | .groupByQueryExpr query criteria => do
    let qp ← visit category query
    write .groupByStart
    let cp ← visit category criteria
    return catParams settings qp cp
  | .havingExpr query condition => do
    let qp ← visit category query
    write .havingStart
    let cp ← visit category condition
    return catParams settings qp cp
  | .orderByExpr query orders => do
    let qp ← visit category query
    write .orderByStart
    visitSeparated visitOrderBy orders true
    return catParams settings qp []
  | .limitExpr query count offset => do
    let qp ← visit category query
    visitLimitImpl count offset
    return qp
  | .joinExpr query onCondition table type aliasName => do
    let qp ← visit category query
    write (.joinStart type)
    visitTableImpl table
    visitAliasImpl aliasName
    write .joinOn
    let cp ← visit category onCondition
    return catParams settings qp cp
  | .insertExpr table columns rows => do
    write .insertStart
    visitTableImpl table
    visitInsertColumns columns
    visitInsertValues settings category rows
    return []
  | .updateExpr table assignments => do
    visitUpdateExpr settings category table assignments
    return []
  | .updateWhereExpr table assignments condition => do
    visitUpdateExpr settings category table assignments
    write .whereStart
    let cp ← visit category condition
    return catParams settings [] cp
  | .deleteExpr table => do
    visitDeleteExpr table
    return []
  | .deleteWhereExpr table condition => do
    visitDeleteExpr table
    write .whereStart
    let cp ← visit category condition
    return catParams settings [] cp
  | .setOpExpr left right op => do
    let lp ← visit category left
    write (.setOp op)
    let rp ← visit category right
    return catParams settings lp rp
  | .caseExpr whenClauses aliasName => do
    write .caseStart
    let wp ← visitWhenClauses category whenClauses
    write .caseEnd
    visitAliasImpl aliasName
    return wp
  | .caseExprWithElse whenClauses elseClause aliasName => do
    write .caseStart
    let wp ← visitWhenClauses category whenClauses
    write .elseStart
    let ep ← visit category elseClause
    write .caseEnd
    visitAliasImpl aliasName
    return catParams settings wp ep
  | .cteExpr name query recursive => do
    write .cteStart
    writeIf recursive .recursive
    quoteIdentifier name
    write .cteAsStart
    let qp ← visit category query
    write .parenClose
    write .cteEnd
    return qp
  | .createTableExpr table ifNotExists => do
    write .createTableStart
    writeIf ifNotExists .ifNotExists
    visitTableImpl table
    visitCreateTableColumns table
    return []
  | .dropTableExpr table ifExists cascade => do
    write .dropTableStart
    writeIf ifExists .ifExists
    visitTableImpl table
    writeIf cascade .cascade
    return []

/-- The elements of a tuple. -/
def visitTupleElements (category : ValueCategory) :
    Expressions → Bool → Visit StringT (List FieldValue)
  | .nil, _ => return []
  | .cons first rest, isFirst => do
    writeIf (!isFirst) .columnSeparator
    let head ← visit category first
    let tail ← visitTupleElements category rest false
    return catParams settings head tail

/-- The clauses of a `CASE`. -/
def visitWhenClauses (category : ValueCategory) :
    WhenClauses → Visit StringT (List FieldValue)
  | .nil => return []
  | .cons condition value rest => do
    write .whenStart
    let cp ← visit category condition
    write .whenThen
    let vp ← visit category value
    let tail ← visitWhenClauses category rest
    return catParams settings (catParams settings cp vp) tail

end

end Generator

end Menagerie.Savanna
