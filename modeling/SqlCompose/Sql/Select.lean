import SqlCompose.Expression.Basic
import SqlCompose.Scope.Alias
import SqlCompose.Sql.Token

/-!
# SqlCompose.Sql.Select -- the text of a SELECT statement from its clauses

The clauses are finished SQL. The statement is put together in their order, the
dialect keeps the wanted page of its rows, and the row lock comes last.
-/

namespace SqlCompose

/-- A column of a select list. -/
structure ProjectedColumn where
  sql : String
  aliasName : Option String
  deriving DecidableEq, Repr

namespace ProjectedColumn

/-- The column with its alias. -/
def text (c : ProjectedColumn) : String :=
  match c.aliasName with
  | some aliasName => c.sql ++ " AS " ++ aliasName
  | none => c.sql

/-- A select list; a star stands for every column. -/
def list : List ProjectedColumn → List Token
  | [] => [.star]
  | columns => commaSeparated (columns.map text)

end ProjectedColumn

/-! ## Aliases of columns -/

/-- The alias that was given to a selection, else the one of its path. -/
def Selection.explicitAlias (s : Selection) : Option String :=
  s.aliasName.or (match s.expr with
    | .path p => p.aliasName
    | _ => none)

/-- The name from which an alias is generated. -/
def Selection.localName (s : Selection) : String :=
  match s.expr with
  | .path p => p.name
  | .function f => Text.lower f.kind.name
  | _ => "col"

/-- The alias of a column in a statement of a number, and the generator after it. -/
def Selection.columnAlias (s : Selection) (mode : AliasMode) (sequence : Nat) (g : AliasGenerator) :
    Option String × AliasGenerator :=
  match mode with
  | .unsupported => (none, g)
  | .explicitOnly => (s.explicitAlias, g)
  | .auto =>
    match s.explicitAlias with
    | some aliasName => (some aliasName, g)
    | none =>
      let (aliasName, g) := g.next s.localName sequence
      (some aliasName, g)

/-- The aliases of several columns in order. -/
def Selection.aliases (mode : AliasMode) (sequence : Nat) :
    AliasGenerator → List Selection → List (Option String)
  | _, [] => []
  | g, s :: rest =>
    let (aliasName, g) := s.columnAlias mode sequence g
    aliasName :: aliases mode sequence g rest

/-! ## Clauses -/

/-- The clauses of a SELECT statement as finished SQL. -/
structure SelectClauses where
  distinct : Bool
  columns : List ProjectedColumn
  source : String
  condition : Option String
  order : Option String
  deriving DecidableEq, Repr

/-- A clause that may be missing. -/
def optionalClause (keyword : Token) : Option String → List Token
  | some sql => [.space, keyword, .space, .fragment sql]
  | none => []

/-- The statement up to its last clause. -/
def SelectClauses.tokens (c : SelectClauses) : List Token :=
  [Token.select, .space] ++ (if c.distinct then [Token.distinct, .space] else []) ++
    ProjectedColumn.list c.columns ++ [Token.space, .from, .space, .fragment c.source] ++
    optionalClause .where c.condition ++ optionalClause .orderBy c.order

/-! ## Pages and locks -/

/-- The number of rows to skip as the dialects take it. They count up to the
greatest signed number of 64 bits, and a negative number skips nothing. -/
def skippedRows : Option Nat → Except SqlError Int
  | none => .ok (-1)
  | some n => if n < 9223372036854775808 then .ok n else refuse (.offsetOutOfRange n)

/-- Keep a page of the rows, if one is asked for. -/
def Dialect.page (d : Dialect) (sql : String) (limit offset : Option Nat) (ordered : Bool) :
    Except SqlError String :=
  match limit with
  | none => .ok sql
  | some n => do
    let skipped ← skippedRows offset
    d.limitOffsetOrdered sql n skipped ordered

/-- Ask for a row lock. A lock that the dialect cannot express is left out. -/
def Dialect.lock (d : Dialect) (sql : String) (lock : Option Lock) : String :=
  match lock with
  | none => sql
  | some l =>
    match d.lockClause l.mode l.timeoutMillis with
    | .ok clause => sql ++ " " ++ clause
    | .error _ => sql

/-- A finished query, whose values are still named by their placeholders. -/
structure RenderedSelect where
  sql : String
  columns : List ProjectedColumn
  deriving DecidableEq, Repr

end SqlCompose
