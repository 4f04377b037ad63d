import SqlCompose.Resolution.Leaf
import SqlCompose.Resolution.Source
import SqlCompose.Sql.Like
import SqlCompose.Sql.Select

/-!
# SqlCompose.Resolution.Fragment -- expressions as SQL

Every expression becomes a fragment of SQL by way of the registry, and so do its
parts. The recursion is on the expression.
-/

namespace SqlCompose

/-! ## Words -/

/-- The mark of a comparison. -/
def Comparison.token : Comparison → Token
  | .equal => .eq
  | .notEqual => .ne
  | .greater => .gt
  | .greaterOrEqual => .gte
  | .less => .lt
  | .lessOrEqual => .lte

/-- What a comparison with null is written as. -/
def Comparison.nullTest : Comparison → Token
  | .notEqual => .isNotNull
  | _ => .isNull

/-- The word of a connective. -/
def Connective.token : Connective → Token
  | .and => .and
  | .or => .or

/-- The word that negates what follows it, if anything does. -/
def negation (negated : Bool) : List Token := if negated then [.not, .space] else []

/-- Filters in parentheses with a connective between them. -/
def junctionTokens (op : Connective) (children : List (List Token)) : List Token :=
  Token.leftParen ::
    [Token.rightParen, .space, op.token, .space, .leftParen].intercalate children ++
    [Token.rightParen]

/-- The terms of a sort with commas between them. -/
def ordered (terms : Compose (List String)) : Compose String := do
  let terms ← terms
  Compose.write (commaSeparated terms)

/-! ## Sub-selects -/

/-- A query in a statement scope of its own. -/
def subselect (source : Compose Source) (render : Source → Compose RenderedSelect) :
    Compose String := do
  let s ← source
  let rendered ← Compose.inStatement s.target (render s)
  pure rendered.sql

/-- A sub-select between other values stands in parentheses. -/
def enclosed (isQuery : Bool) (sql : String) : String := if isQuery then "(" ++ sql ++ ")" else sql

/-! ## Expressions -/

mutual

/-- An expression as SQL. -/
def Expression.toSql : Expression → Compose String
  | .path p => resolveText (.path p) p.sql
  | .dataTarget t =>
    resolveText (.dataTarget t)
      (Source.sqlOf (Source.resolve (.dataTarget t) (some (DataTarget.toSource t))))
  | .target t => resolveText (.target t) (RelationalTarget.toSource t).text
  | .filter f => resolveText (.filter f) (Compose.written (Filter.toTokens f))
  | .sort s => resolveText (.sort s) (ordered (SortOrder.toTerms s))
  | .function f => resolveText (.function f) (FunctionCall.toSql f)
  | .literal l => l.resolveSql
  | .parameter p => resolveText (.parameter p) (Compose.addParameter p)
  | .sql r => resolveText (.sql r) r.sql
  | .query q =>
    resolveText (.query q) (subselect (SelectQuery.toSource q) (SelectQuery.renderFrom q))

/-- Several expressions as SQL, in order. -/
def Expression.allToSql : List Expression → Compose (List String)
  | [] => pure []
  | e :: rest => do
    let sql ← Expression.toSql e
    let others ← Expression.allToSql rest
    pure (sql :: others)

/-- An expression as a source. -/
def Expression.toSource : Expression → Compose Source
  | .dataTarget t => Source.resolve (.dataTarget t) (some (DataTarget.toSource t))
  | .target t => Source.resolve (.target t) (some fun _ => RelationalTarget.toSource t)
  | e => Source.resolve e none

/-- The words of a filter. Its child filters are part of it and do not go
through the registry by themselves. -/
def Filter.toTokens : Filter → Compose (List Token)
  | .nullTest negated operand => do
    let sql ← Expression.toSql operand
    pure [.fragment sql, .space, if negated then .isNotNull else .isNull]
  | .compare op left right => do
    let l ← Expression.toSql left
    if right.isNullLiteral then pure [.fragment l, .space, op.nullTest]
    else do
      let r ← Expression.toSql right
      pure [.fragment l, op.token, .fragment r]
  | .member negated left right => do
    let l ← Expression.toSql left
    let r ← Expression.toSql right
    pure (Token.fragment l :: .space :: negation negated ++
      [Token.in, .space, .leftParen, .fragment r, .rightParen])
  | .between operand low high => do
    let o ← Expression.toSql operand
    let l ← Expression.toSql low
    let h ← Expression.toSql high
    pure [.fragment o, .space, .between, .space, .fragment l, .space, .and, .space, .fragment h]
  | .like operand text mode ignoreCase => do
    let o ← Expression.toSql operand
    let d ← Compose.dialect
    let marker ← Literal.resolveSql
      { value := .string (Like.pattern d text mode ignoreCase) }
    pure (Like.tokens d (Like.operand d o ignoreCase) marker)
  | .junction op children => do
    let inner ← Filter.allToTokens children
    pure (junctionTokens op inner)
  | .not child => do
    let inner ← Filter.toTokens child
    pure (Token.not :: .space :: .leftParen :: inner ++ [Token.rightParen])
  | .rows negated query => do
    let sql ← Expression.toSql query
    pure (negation negated ++ [Token.exists, .space, .leftParen, .fragment sql, .rightParen])

/-- The words of several filters, in order. -/
def Filter.allToTokens : List Filter → Compose (List (List Token))
  | [] => pure []
  | f :: rest => do
    let tokens ← Filter.toTokens f
    let others ← Filter.allToTokens rest
    pure (tokens :: others)

/-- The terms of a sort, whatever their grouping. -/
def SortOrder.toTerms : SortOrder → Compose (List String)
  | .term expr direction => do
    let sql ← Expression.toSql expr
    pure [sql ++ " " ++ direction.keyword]
  | .composite terms => SortOrder.allToTerms terms

/-- The terms of several sorts, in order. -/
def SortOrder.allToTerms : List SortOrder → Compose (List String)
  | [] => pure []
  | s :: rest => do
    let terms ← SortOrder.toTerms s
    let others ← SortOrder.allToTerms rest
    pure (terms ++ others)

/-- A function call as SQL. -/
def FunctionCall.toSql : FunctionCall → Compose String
  | ⟨kind, args, distinct⟩ => do
    let args ← Expression.allToSql args
    let d ← Compose.dialect
    pure ((d.function kind).render args distinct)

/-- The conditions of joins. -/
def Join.toConditions : List Join → List (Option (Compose String))
  | [] => []
  | j :: rest => Join.toCondition j :: Join.toConditions rest

/-- The condition of a join. It is resolved like any other filter. -/
def Join.toCondition : Join → Option (Compose String)
  | ⟨_, _, _, _, on, _⟩ =>
    match on with
    | some f =>
      some (resolveText (.filter f) (Compose.written (Filter.toTokens f)))
    | none => none

/-- A target as a source. -/
def RelationalTarget.toSource : RelationalTarget → Source
  | ⟨schema, table, aliasName, joins, entity⟩ =>
    ⟨⟨schema, table, aliasName, joins, entity⟩, Join.toConditions joins⟩

/-- A data target as a source. -/
def DataTarget.toSource : DataTarget → Option DataModel → Source
  | ⟨entity, aliasName, joins⟩, model =>
    ⟨DataTarget.mapped model ⟨entity, aliasName, joins⟩, Join.toConditions joins⟩

/-- A selected expression as SQL. -/
def Selection.toSql : Selection → Compose String
  | ⟨expr, _⟩ => do
    let sql ← Expression.toSql expr
    pure (enclosed expr.isQuery sql)

/-- Several selected expressions as SQL, in order. -/
def Selection.allToSql : List Selection → Compose (List String)
  | [] => pure []
  | s :: rest => do
    let sql ← Selection.toSql s
    let others ← Selection.allToSql rest
    pure (sql :: others)

/-- The columns of a projection. Generated aliases are counted for each
projection by itself. -/
def Projection.toColumns : Projection → Compose (List ProjectedColumn)
  | ⟨selections, aliasMode, converter⟩ => do
    Compose.ofResult (Projection.validate ⟨selections, aliasMode, converter⟩)
    let mode ← Compose.aliasMode
    let sequence ← Compose.sequence
    let sqls ← Selection.allToSql selections
    pure (List.zipWith ProjectedColumn.mk sqls
      (Selection.aliases (aliasMode.getD mode) sequence {} selections))

/-- The source of a query. -/
def SelectQuery.toSource : SelectQuery → Compose Source
  | ⟨source, _, _, _, _, _, _, _⟩ => Expression.toSource source

/-- A query in a scope in which its source is bound. -/
def SelectQuery.renderFrom : SelectQuery → Source → Compose RenderedSelect
  | ⟨source, distinct, projection, filter, sort, limit, offset, lock⟩, s => do
    Compose.ofResult
      (SelectQuery.validate ⟨source, distinct, projection, filter, sort, limit, offset, lock⟩)
    let from_ ← s.resolveSql
    let columns ← match projection with
      | some p => Projection.toColumns p
      | none => pure []
    let condition ← match filter with
      | some f => do
        let sql ← resolveText (.filter f) (Compose.written (Filter.toTokens f))
        pure (some sql)
      | none => pure none
    let order ← match sort with
      | some o => do
        let sql ← resolveText (.sort o) (ordered (SortOrder.toTerms o))
        pure (some sql)
      | none => pure none
    let clauses : SelectClauses := ⟨distinct, columns, from_, condition, order⟩
    let sql ← Compose.write clauses.tokens
    let d ← Compose.dialect
    let paged ← Compose.ofResult (d.page sql limit offset sort.isSome)
    pure ⟨d.lock paged lock, columns⟩

end

end SqlCompose
