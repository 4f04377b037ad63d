import SqlCompose.Expression.Path
import SqlCompose.Scope.AliasMode
import SqlCompose.Value.Parameter

/-!
# SqlCompose.Expression.Basic -- the expressions statements are built from

Expressions, filters, sorts, targets and queries contain one another, so they
are one family of types. A query can stand wherever an expression can, and a
target can carry filters on its joins.
-/

namespace SqlCompose

/-! ## Words of the language -/

/-- The kinds of join. -/
inductive JoinKind where
  | inner
  | left
  | right
  | full
  deriving DecidableEq, Repr

/-- The keywords of a join. -/
def JoinKind.keyword : JoinKind → String
  | .inner => "INNER JOIN"
  | .left => "LEFT JOIN"
  | .right => "RIGHT JOIN"
  | .full => "FULL OUTER JOIN"

/-- The comparisons of two operands. -/
inductive Comparison where
  | equal
  | notEqual
  | greater
  | greaterOrEqual
  | less
  | lessOrEqual
  deriving DecidableEq, Repr

/-- The comparisons that ask for an order. -/
def Comparison.isOrdering : Comparison → Bool
  | .equal | .notEqual => false
  | _ => true

/-- How filters are combined. -/
inductive Connective where
  | and
  | or
  deriving DecidableEq, Repr

/-- Where the text of a string match may stand in the operand. -/
inductive MatchMode where
  | exact
  | contains
  | startsWith
  | endsWith
  deriving DecidableEq, Repr

/-- Put the wildcards of a mode around a text. -/
def MatchMode.pattern (mode : MatchMode) (text : String) : String :=
  match mode with
  | .exact => text
  | .contains => "%" ++ text ++ "%"
  | .startsWith => text ++ "%"
  | .endsWith => "%" ++ text

/-- The directions of a sort. -/
inductive SortDirection where
  | asc
  | desc
  deriving DecidableEq, Repr

/-- The keyword of a direction. -/
def SortDirection.keyword : SortDirection → String
  | .asc => "ASC"
  | .desc => "DESC"

/-- The strengths of a row lock. -/
inductive LockMode where
  | shared
  | exclusive
  deriving DecidableEq, Repr

/-- The name of a lock mode in messages. -/
def LockMode.shown : LockMode → String
  | .shared => "Shared"
  | .exclusive => "Exclusive"

/-- A row lock. A timeout of zero does not wait at all. -/
structure Lock where
  mode : LockMode
  timeoutMillis : Option Nat
  deriving DecidableEq, Repr

/-- The functions every dialect can write, and any other by its name. -/
inductive FunctionKind where
  | count
  | avg
  | min
  | max
  | sum
  | lower
  | upper
  | currentDate
  | currentTimestamp
  | year
  | month
  | day
  | hour
  | custom (name : String)
  deriving DecidableEq, Repr

namespace FunctionKind

/-- The functions every dialect can write. -/
def builtIn : List FunctionKind :=
  [.count, .avg, .min, .max, .sum, .lower, .upper, .currentDate, .currentTimestamp,
   .year, .month, .day, .hour]

/-- The name of a function. -/
def name : FunctionKind → String
  | .count => "COUNT"
  | .avg => "AVG"
  | .min => "MIN"
  | .max => "MAX"
  | .sum => "SUM"
  | .lower => "LOWER"
  | .upper => "UPPER"
  | .currentDate => "CURRENT_DATE"
  | .currentTimestamp => "CURRENT_TIMESTAMP"
  | .year => "YEAR"
  | .month => "MONTH"
  | .day => "DAY"
  | .hour => "HOUR"
  | .custom name => name

/-- The functions of many rows. -/
def isAggregate : FunctionKind → Bool
  | .count | .avg | .min | .max | .sum => true
  | _ => false

/-- The least and the greatest number of arguments, where there are bounds. -/
def arity : FunctionKind → Option (Nat × Nat)
  | .count => some (0, 1)
  | .currentDate | .currentTimestamp => some (0, 0)
  | .custom _ => none
  | _ => some (1, 1)

end FunctionKind

/-! ## Leaves -/

/-- A constant, possibly marked with the temporal kind to bind it as. -/
structure Literal where
  value : Value
  temporal : Option TemporalKind := none

/-- SQL text as it is written. Its question marks outside single quotes stand
for the parameters in order. -/
structure RawSql where
  text : String
  parameters : List Value := []

/-- How rows are handed back: the first column, or all columns as a list. -/
inductive RowShape where
  | single (type : LogicalType)
  | row (types : List LogicalType)
  deriving DecidableEq, Repr

/-- A row shape that was made once; `id` tells whether two were made by the same act. -/
structure RowConverter where
  shape : RowShape
  id : Nat
  deriving DecidableEq, Repr

/-- The name of a row converter. -/
def RowConverter.name (c : RowConverter) : String :=
  match c.shape with
  | .single _ => "single-value"
  | .row _ => "row-values"

/-! ## The family -/

mutual

/-- Anything that can stand in a statement. -/
inductive Expression where
  | path (path : Path)
  | dataTarget (target : DataTarget)
  | target (target : RelationalTarget)
  | filter (filter : Filter)
  | sort (sort : SortOrder)
  | function (call : FunctionCall)
  | literal (literal : Literal)
  | parameter (parameter : Parameter)
  | sql (raw : RawSql)
  | query (query : SelectQuery)

/-- A condition on a row. -/
inductive Filter where
  | nullTest (negated : Bool) (operand : Expression)
  | compare (op : Comparison) (left right : Expression)
  | member (negated : Bool) (left right : Expression)
  | between (operand low high : Expression)
  | like (operand : Expression) (text : String) (mode : MatchMode) (ignoreCase : Bool)
  | junction (op : Connective) (children : List Filter)
  | not (child : Filter)
  | rows (negated : Bool) (query : Expression)

/-- An order of rows: one term, or terms in their order of weight. -/
inductive SortOrder where
  | term (expr : Expression) (direction : SortDirection)
  | composite (terms : List SortOrder)

/-- A function applied to arguments. -/
structure FunctionCall where
  kind : FunctionKind
  args : List Expression
  distinct : Bool

/-- A table joined to a target. Paths reach it by its name; `entity` is the
entity the table was mapped from. -/
structure Join where
  kind : JoinKind
  name : String
  source : String
  aliasName : Option String
  on : Option Filter
  entity : Option String

/-- A table with its joins. -/
structure RelationalTarget where
  schema : Option String
  table : String
  aliasName : Option String
  joins : List Join
  entity : Option String

/-- An entity with its joins, which the data model maps to tables. -/
structure DataTarget where
  entity : String
  aliasName : Option String
  joins : List Join

/-- An expression to select. -/
structure Selection where
  expr : Expression
  aliasName : Option String

/-- What a query selects, and how its rows are handed back. -/
structure Projection where
  selections : List Selection
  aliasMode : Option AliasMode
  converter : Option RowConverter

/-- A query over one target. -/
structure SelectQuery where
  source : Expression
  distinct : Bool
  projection : Option Projection
  filter : Option Filter
  sort : Option SortOrder
  limit : Option Nat
  offset : Option Nat
  lock : Option Lock

end

namespace Expression

/-- The kind of an expression. -/
def kind : Expression → ExpressionKind
  | .path _ => .path
  | .dataTarget _ => .dataTarget
  | .target _ => .target
  | .filter _ => .filter
  | .sort _ => .sort
  | .function _ => .function
  | .literal _ => .literal
  | .parameter _ => .parameter
  | .sql _ => .sql
  | .query _ => .query

/-- A literal of a value. -/
def lit (v : Value) : Expression := .literal { value := v }

/-- A literal that is null. -/
def isNullLiteral : Expression → Bool
  | .literal l => l.value.isNull
  | _ => false

/-- A sub-select. -/
def isQuery : Expression → Bool
  | .query _ => true
  | _ => false

end Expression

/-! ## Building -/

namespace Filter

/-- Add a filter to a conjunction, or start one. -/
def and (f g : Filter) : Filter :=
  match f with
  | .junction .and children => .junction .and (children ++ [g])
  | f => .junction .and [f, g]

/-- Add a filter to a disjunction, or start one. -/
def or (f g : Filter) : Filter :=
  match f with
  | .junction .or children => .junction .or (children ++ [g])
  | f => .junction .or [f, g]

/-- Add a filter to those already given. -/
def add (existing : Option Filter) (f : Filter) : Filter :=
  match existing with
  | some g => g.and f
  | none => f

end Filter

namespace SortOrder

/-- Add a sort of less weight. -/
def andThen (s t : SortOrder) : SortOrder :=
  match s with
  | .composite terms => .composite (terms ++ [t])
  | s => .composite [s, t]

/-- Add a sort to those already given. -/
def add (existing : Option SortOrder) (s : SortOrder) : SortOrder :=
  match existing with
  | some t => t.andThen s
  | none => s

mutual

/-- The terms of a sort in order, whatever their grouping. -/
def flatten : SortOrder → List (Expression × SortDirection)
  | .term expr direction => [(expr, direction)]
  | .composite terms => flattenAll terms

/-- The terms of several sorts in order. -/
def flattenAll : List SortOrder → List (Expression × SortDirection)
  | [] => []
  | s :: rest => s.flatten ++ flattenAll rest

end

end SortOrder

namespace SelectQuery

/-- A query for every column of a source. -/
def ofSource (source : Expression) : SelectQuery :=
  { source := source, distinct := false, projection := none, filter := none, sort := none,
    limit := none, offset := none, lock := none }

/-- Add a condition; all conditions have to hold. -/
def addFilter (q : SelectQuery) (f : Filter) : SelectQuery :=
  { q with filter := some (Filter.add q.filter f) }

/-- Add a sort of less weight than those already given. -/
def addSort (q : SelectQuery) (s : SortOrder) : SelectQuery :=
  { q with sort := some (SortOrder.add q.sort s) }

end SelectQuery

end SqlCompose
