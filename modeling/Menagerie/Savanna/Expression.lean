import Menagerie.Beaver.Text

/-!
# Query expressions

The nodes that the fluent builders assemble: columns, literals, conditions, the clauses of a query,
DML and DDL. Every node that accepts a visitor is an `Expression`, whichever concept guards the
builder that makes it, so a statement about all expressions covers all that the builders accept.
-/

namespace Menagerie.Savanna

open Beaver

/-- `FieldValue`. -/
inductive FieldValue
  | monostate
  | bool (val : Bool)
  | char (val : Char)
  | int16 (val : Int16)
  | int32 (val : Int32)
  | int64 (val : Int64)
  | uint16 (val : UInt16)
  | uint32 (val : UInt32)
  | uint64 (val : UInt64)
  | float (val : Float32)
  | double (val : Float)
  | string (val : Text)
  | stringView (val : Text)
  | bytes (val : List UInt8)
  | span (val : List UInt8)
  deriving DecidableEq

/-- The operator tags of `BinaryExpr` with a text. -/
inductive BinaryOp
  | equal | notEqual | less | lessEqual | greater | greaterEqual
  | and | or | like | notLike | inQuery
  deriving DecidableEq

/-- The operator tags of `UnaryExpr`. -/
inductive UnaryOp
  | not | isNull | isNotNull
  deriving DecidableEq

/-- The operator stands behind. -/
def UnaryOp.isPostfix : UnaryOp → Bool
  | .not => false
  | .isNull | .isNotNull => true

/-- `JoinType`. -/
inductive JoinType
  | inner | left | right | full | cross
  deriving DecidableEq

/-- `SetOperation`. -/
inductive SetOperation
  | union | unionAll | intersect | except
  deriving DecidableEq

/-- `OrderDirection`. -/
inductive OrderDirection
  | asc | desc
  deriving DecidableEq

/-- Aggregate functions; only `COUNT` takes `DISTINCT`. -/
inductive AggregateFunction
  | count (distinct : Bool) | sum | avg | max | min
  deriving DecidableEq

/-- `Column` and `TypedColumn<T>`; empty is absent. -/
structure Column where
  name : Text
  table : Text := []
  aliasName : Text := []
  deriving DecidableEq

/-- `IsColumnLike`: a column, or `AllColumns`. -/
inductive ColumnLike
  | column (column : Column)
  | allColumns (table : Text)
  deriving DecidableEq

/-- `OrderBy`. -/
structure OrderBy where
  column : ColumnLike
  direction : OrderDirection := .asc
  deriving DecidableEq

/-- `DynamicFieldSchema`. -/
structure DynamicFieldSchema where
  name : Text
  dbType : Text
  isNullable : Bool := true
  isPrimaryKey : Bool := false
  isForeignKey : Bool := false
  isUnique : Bool := false
  foreignTable : Text := []
  foreignColumn : Text := []
  defaultValue : Text := []
  deriving DecidableEq

/-- `DynamicTable`. -/
structure DynamicTable where
  tableName : Text
  fields : List DynamicFieldSchema := []
  deriving DecidableEq

/-- What is read of a `StaticFieldSchema`; `sqlType` is its `sql_type_for`. -/
structure StaticFieldSchema where
  name : Text
  sqlType : Text
  isPrimaryKey : Bool := false
  isNullable : Bool := true
  isUnique : Bool := false
  deriving DecidableEq

/-- `StaticTable`. -/
structure StaticTable where
  tableName : Text
  fields : List StaticFieldSchema := []
  deriving DecidableEq

/-- `IsTable`: a `DynamicTablePtr`, a name, or a `StaticTable`. -/
inductive Table
  | dynamicTable (table : Option DynamicTable)
  | name (name : Text)
  | staticTable (table : StaticTable)
  deriving DecidableEq

mutual

/-- A node of the expression tree. -/
inductive Expression
  | columnLike (column : ColumnLike)
  | literal (value : FieldValue) (aliasName : Text)
  | nullLiteral
  | paramPlaceholder
  | binaryExpr (op : BinaryOp) (left right : Expression)
  | unaryExpr (op : UnaryOp) (operand : Expression)
  | betweenExpr (operand lower upper : Expression)
  | inListExpr (operand : Expression) (values : Expressions)
  | subquery (query : Expression) (aliasName : Text)
  | existsExpr (query : Expression)
  | aggregateExpr (function : AggregateFunction) (column : ColumnLike) (aliasName : Text)
  | selectExpr (distinct : Bool) (columns : Expressions)
  | fromTableExpr (select : Expression) (table : Table) (aliasName : Text)
  | fromCteExpr (select : Expression) (cteName : Text) (cteQuery : Expression) (recursive : Bool)
  | whereExpr (query condition : Expression)
  | groupByColumnExpr (query : Expression) (columns : List ColumnLike)
  | groupByQueryExpr (query criteria : Expression)
  | havingExpr (query condition : Expression)
  | orderByExpr (query : Expression) (orders : List OrderBy)
  | limitExpr (query : Expression) (count offset : Nat)
  | joinExpr (query onCondition : Expression) (table : Table) (type : JoinType) (aliasName : Text)
  | insertExpr (table : Table) (columns : List Text) (rows : List (List FieldValue))
  | updateExpr (table : Table) (assignments : List (Text × FieldValue))
  | updateWhereExpr (table : Table) (assignments : List (Text × FieldValue))
      (condition : Expression)
  | deleteExpr (table : Table)
  | deleteWhereExpr (table : Table) (condition : Expression)
  | setOpExpr (left right : Expression) (op : SetOperation)
  | caseExpr (whenClauses : WhenClauses) (aliasName : Text)
  | caseExprWithElse (whenClauses : WhenClauses) (elseClause : Expression) (aliasName : Text)
  | cteExpr (name : Text) (query : Expression) (recursive : Bool)
  | createTableExpr (table : Table) (ifNotExists : Bool)
  | dropTableExpr (table : Table) (ifExists cascade : Bool)

/-- A tuple of nodes, as in a `SELECT` or an `IN` list. -/
inductive Expressions
  | nil
  | cons (head : Expression) (tail : Expressions)

/-- The `WhenClause` tuple of a `CASE` expression. -/
inductive WhenClauses
  | nil
  | cons (condition value : Expression) (tail : WhenClauses)

end

end Menagerie.Savanna
