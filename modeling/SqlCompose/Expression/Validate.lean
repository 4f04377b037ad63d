import SqlCompose.Expression.Basic

/-!
# SqlCompose.Expression.Validate -- which expressions can be resolved

An expression is checked before any resolver sees it. The checks go through the
parts in the order in which they would be written, and the first defect wins.
-/

namespace SqlCompose

/-- A literal list holds no lists. -/
def Literal.validate (l : Literal) : Except SqlError Unit :=
  match l.value with
  | .list items => if items.any Value.isList then refuse .nestedList else .ok ()
  | _ => .ok ()

/-- SQL text is not blank. -/
def checkSqlText (text : String) : Except SqlError Unit :=
  if Text.allBlank text then refuse .blankSql else .ok ()

/-- Raw SQL is not blank. -/
def RawSql.validate (r : RawSql) : Except SqlError Unit := checkSqlText r.text

/-- The right-hand side of a membership test that lists nothing. -/
def Expression.isEmptyList : Expression → Bool
  | .literal l => match l.value with
    | .list [] => true
    | _ => false
  | _ => false

/-- The kinds that can be selected, and the values that can be assigned. -/
def ExpressionKind.isValue : ExpressionKind → Bool
  | .path | .function | .literal | .parameter | .sql | .query => true
  | _ => false

/-- The kinds rows can be ordered by. -/
def ExpressionKind.isSortable : ExpressionKind → Bool
  | .path | .function | .sql => true
  | _ => false

/-- The kinds a query can select from. -/
def ExpressionKind.isSource : ExpressionKind → Bool
  | .dataTarget | .target => true
  | _ => false

/-- The kinds that stand for rows under EXISTS. -/
def ExpressionKind.isRows : ExpressionKind → Bool
  | .query | .sql => true
  | _ => false

/-- A function's name, the number of its arguments and its use of DISTINCT. -/
def checkCall (kind : FunctionKind) (args : Nat) (distinct : Bool) : Except SqlError Unit :=
  let nameOk := match kind with
    | .custom name => !Text.allBlank name
    | _ => true
  if !nameOk then refuse .blankFunctionName
  else
    let distinctOk := if distinct && !kind.isAggregate then refuse (.distinctNotAllowed kind.name)
      else .ok ()
    match kind.arity with
    | some (least, most) =>
      if least ≤ args ∧ args ≤ most then distinctOk
      else refuse (.wrongArity kind.name least most args)
    | none => distinctOk

mutual

/-- An expression all of whose parts are as they have to be. -/
def Expression.validate : Expression → Except SqlError Unit
  | .path p => p.validate
  | .dataTarget t => DataTarget.validate t
  | .target t => RelationalTarget.validate t
  | .filter f => Filter.validate f
  | .sort s => SortOrder.validate s
  | .function f => FunctionCall.validate f
  | .literal l => l.validate
  | .parameter p => p.validate
  | .sql r => r.validate
  | .query q => SelectQuery.validate q

/-- Several expressions in order. -/
def validateAll : List Expression → Except SqlError Unit
  | [] => .ok ()
  | e :: rest => do
    Expression.validate e
    validateAll rest

/-- A filter whose operands and children are valid. Nothing is ordered against a
null literal, no list or junction is empty, and EXISTS asks for rows. -/
def Filter.validate : Filter → Except SqlError Unit
  | .nullTest _ operand => Expression.validate operand
  | .compare op left right => do
    Expression.validate left
    if op.isOrdering && right.isNullLiteral then refuse .orderedNull
    else Expression.validate right
  | .member _ left right => do
    Expression.validate left
    if right.isEmptyList then refuse .emptyInList else Expression.validate right
  | .between operand low high => do
    Expression.validate operand
    Expression.validate low
    Expression.validate high
  | .like operand _ _ _ => Expression.validate operand
  | .junction _ children =>
    if children.isEmpty then refuse .emptyLogical else validateFilters children
  | .not child => Filter.validate child
  | .rows _ query =>
    if query.kind.isRows then Expression.validate query else refuse .existsWithoutQuery

/-- Several filters in order. -/
def validateFilters : List Filter → Except SqlError Unit
  | [] => .ok ()
  | f :: rest => do
    Filter.validate f
    validateFilters rest

/-- A sort has terms, and each term can be ordered by. -/
def SortOrder.validate : SortOrder → Except SqlError Unit
  | .term expr _ =>
    if expr.kind.isSortable then Expression.validate expr else refuse (.unsortable expr.kind)
  | .composite terms => if terms.isEmpty then refuse .emptySort else validateSorts terms

/-- Several sorts in order. -/
def validateSorts : List SortOrder → Except SqlError Unit
  | [] => .ok ()
  | s :: rest => do
    SortOrder.validate s
    validateSorts rest

/-- A function call and its arguments. -/
def FunctionCall.validate : FunctionCall → Except SqlError Unit
  | ⟨kind, args, distinct⟩ => do
    checkCall kind args.length distinct
    validateAll args

/-- A join has a name and a source, and its condition is valid. -/
def Join.validate : Join → Except SqlError Unit
  | ⟨_, name, source, _, on, _⟩ =>
    if Text.allBlank name then refuse .blankJoinName
    else if Text.allBlank source then refuse (.joinWithoutSource name)
    else match on with
      | some f => Filter.validate f
      | none => .ok ()

/-- Several joins in order. -/
def validateJoins : List Join → Except SqlError Unit
  | [] => .ok ()
  | j :: rest => do
    Join.validate j
    validateJoins rest

/-- A target has a table, and its joins are valid. -/
def RelationalTarget.validate : RelationalTarget → Except SqlError Unit
  | ⟨_, table, _, joins, _⟩ =>
    if Text.allBlank table then refuse .targetWithoutTable else validateJoins joins

/-- A data target has an entity, and its joins are valid. -/
def DataTarget.validate : DataTarget → Except SqlError Unit
  | ⟨entity, _, joins⟩ =>
    if Text.allBlank entity then refuse .dataTargetWithoutEntity else validateJoins joins

/-- A selection is a value. -/
def Selection.validate : Selection → Except SqlError Unit
  | ⟨expr, _⟩ =>
    if expr.kind.isValue then Expression.validate expr else refuse (.unselectable expr.kind)

/-- Several selections in order. -/
def validateSelections : List Selection → Except SqlError Unit
  | [] => .ok ()
  | s :: rest => do
    Selection.validate s
    validateSelections rest

/-- A projection selects something. -/
def Projection.validate : Projection → Except SqlError Unit
  | ⟨selections, _, _⟩ =>
    if selections.isEmpty then refuse .emptyProjection else validateSelections selections

/-- A query selects from a target, skips rows only under a limit, and its parts are valid. -/
def SelectQuery.validate : SelectQuery → Except SqlError Unit
  | ⟨source, _, projection, filter, sort, limit, offset, _⟩ => do
    if source.kind.isSource then Expression.validate source else refuse (.notASource source.kind)
    if offset.isSome && limit.isNone then refuse .offsetWithoutLimit
    match projection with
    | some p => Projection.validate p
    | none => .ok ()
    match filter with
    | some f => Filter.validate f
    | none => .ok ()
    match sort with
    | some s => SortOrder.validate s
    | none => .ok ()

end

end SqlCompose
