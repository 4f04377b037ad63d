import SqlCompose.Resolution.Source
import SqlCompose.Sql.Select
import SqlCompose.Statement.Basic

/-!
# SqlCompose.Proofs.Exchange -- statements with other values

An exchange puts another value in the place of each value of a statement and
keeps all else. What stays null stays null and what is a list stays a list of
the same length, so a statement stays valid, binds the same tables and gives its
columns the same aliases.
-/

namespace SqlCompose

/-- A way to put other values in the places of the values of a statement. -/
structure Exchange where
  value : Value → Value
  /-- The texts that are matched. -/
  text : String → String
  parameter : Parameter → Parameter
  isNull_value : ∀ v, (value v).isNull = v.isNull
  isList_value : ∀ v, (value v).isList = v.isList
  value_list : ∀ items, value (.list items) = .list (items.map value)
  valid_parameter : ∀ p, p.validate = .ok () → (parameter p).validate = .ok ()

namespace Exchange

/-- Keep every value. -/
def identity : Exchange where
  value v := v
  text s := s
  parameter p := p
  isNull_value _ := rfl
  isList_value _ := rfl
  value_list items := by rw [List.map_id']
  valid_parameter _ h := h

end Exchange

/-! ## Exchanging the values of every part -/

/-- A literal of another value. -/
def Literal.exchange (x : Exchange) (l : Literal) : Literal := { l with value := x.value l.value }

/-- Raw SQL with other values. -/
def RawSql.exchange (x : Exchange) (r : RawSql) : RawSql :=
  { r with parameters := r.parameters.map x.value }

mutual

/-- An expression with other values. -/
def Expression.exchange (x : Exchange) : Expression → Expression
  | .path p => .path p
  | .dataTarget t => .dataTarget (DataTarget.exchange x t)
  | .target t => .target (RelationalTarget.exchange x t)
  | .filter f => .filter (Filter.exchange x f)
  | .sort s => .sort (SortOrder.exchange x s)
  | .function f => .function (FunctionCall.exchange x f)
  | .literal l => .literal (l.exchange x)
  | .parameter p => .parameter (x.parameter p)
  | .sql r => .sql (r.exchange x)
  | .query q => .query (SelectQuery.exchange x q)

/-- Several expressions with other values. -/
def Expression.exchangeAll (x : Exchange) : List Expression → List Expression
  | [] => []
  | e :: rest => Expression.exchange x e :: Expression.exchangeAll x rest

/-- A filter with other values. -/
def Filter.exchange (x : Exchange) : Filter → Filter
  | .nullTest negated operand => .nullTest negated (Expression.exchange x operand)
  | .compare op left right => .compare op (Expression.exchange x left) (Expression.exchange x right)
  | .member negated left right =>
    .member negated (Expression.exchange x left) (Expression.exchange x right)
  | .between operand low high =>
    .between (Expression.exchange x operand) (Expression.exchange x low)
      (Expression.exchange x high)
  | .like operand text mode ignoreCase =>
    .like (Expression.exchange x operand) (x.text text) mode ignoreCase
  | .junction op children => .junction op (Filter.exchangeAll x children)
  | .not child => .not (Filter.exchange x child)
  | .rows negated query => .rows negated (Expression.exchange x query)

/-- Several filters with other values. -/
def Filter.exchangeAll (x : Exchange) : List Filter → List Filter
  | [] => []
  | f :: rest => Filter.exchange x f :: Filter.exchangeAll x rest

/-- A sort with other values. -/
def SortOrder.exchange (x : Exchange) : SortOrder → SortOrder
  | .term expr direction => .term (Expression.exchange x expr) direction
  | .composite terms => .composite (SortOrder.exchangeAll x terms)

/-- Several sorts with other values. -/
def SortOrder.exchangeAll (x : Exchange) : List SortOrder → List SortOrder
  | [] => []
  | s :: rest => SortOrder.exchange x s :: SortOrder.exchangeAll x rest

/-- A function call with other values. -/
def FunctionCall.exchange (x : Exchange) : FunctionCall → FunctionCall
  | ⟨kind, args, distinct⟩ => ⟨kind, Expression.exchangeAll x args, distinct⟩

/-- Several joins with other values. -/
def Join.exchangeAll (x : Exchange) : List Join → List Join
  | [] => []
  | j :: rest => Join.exchange x j :: Join.exchangeAll x rest

/-- A join with other values in its condition. -/
def Join.exchange (x : Exchange) : Join → Join
  | ⟨kind, name, source, aliasName, on, entity⟩ =>
    ⟨kind, name, source, aliasName,
      match on with
      | some f => some (Filter.exchange x f)
      | none => none, entity⟩

/-- A target with other values in its joins. -/
def RelationalTarget.exchange (x : Exchange) : RelationalTarget → RelationalTarget
  | ⟨schema, table, aliasName, joins, entity⟩ =>
    ⟨schema, table, aliasName, Join.exchangeAll x joins, entity⟩

/-- A data target with other values in its joins. -/
def DataTarget.exchange (x : Exchange) : DataTarget → DataTarget
  | ⟨entity, aliasName, joins⟩ => ⟨entity, aliasName, Join.exchangeAll x joins⟩

/-- A selection with other values. -/
def Selection.exchange (x : Exchange) : Selection → Selection
  | ⟨expr, aliasName⟩ => ⟨Expression.exchange x expr, aliasName⟩

/-- Several selections with other values. -/
def Selection.exchangeAll (x : Exchange) : List Selection → List Selection
  | [] => []
  | s :: rest => Selection.exchange x s :: Selection.exchangeAll x rest

/-- A projection with other values. -/
def Projection.exchange (x : Exchange) : Projection → Projection
  | ⟨selections, aliasMode, converter⟩ =>
    ⟨Selection.exchangeAll x selections, aliasMode, converter⟩

/-- A query with other values. -/
def SelectQuery.exchange (x : Exchange) : SelectQuery → SelectQuery
  | ⟨source, distinct, projection, filter, sort, limit, offset, lock⟩ =>
    ⟨Expression.exchange x source, distinct,
      match projection with
      | some p => some (Projection.exchange x p)
      | none => none,
      match filter with
      | some f => some (Filter.exchange x f)
      | none => none,
      match sort with
      | some o => some (SortOrder.exchange x o)
      | none => none, limit, offset, lock⟩

end

/-- An assignment of another value. -/
def Assignment.exchange (x : Exchange) (a : Assignment) : Assignment :=
  { a with value := a.value.exchange x }

/-- An insertion of other values. -/
def InsertStatement.exchange (x : Exchange) (s : InsertStatement) : InsertStatement :=
  { s with target := s.target.exchange x, values := s.values.map (Assignment.exchange x) }

/-- An update with other values. -/
def UpdateStatement.exchange (x : Exchange) (s : UpdateStatement) : UpdateStatement :=
  { s with
    target := s.target.exchange x
    assignments := s.assignments.map (Assignment.exchange x)
    filter := s.filter.map (Filter.exchange x) }

/-- A deletion with other values. -/
def DeleteStatement.exchange (x : Exchange) (s : DeleteStatement) : DeleteStatement :=
  { s with target := s.target.exchange x, filter := s.filter.map (Filter.exchange x) }

/-- A statement with other values. -/
def Statement.exchange (x : Exchange) : Statement → Statement
  | .select q => .select (q.exchange x)
  | .insert s => .insert (s.exchange x)
  | .update s => .update (s.exchange x)
  | .delete s => .delete (s.exchange x)

variable {x : Exchange}

/-! ## What stays as it is -/

@[simp] theorem Expression.kind_exchange (e : Expression) : (e.exchange x).kind = e.kind := by
  cases e <;> rfl

@[simp] theorem Expression.isQuery_exchange (e : Expression) :
    (e.exchange x).isQuery = e.isQuery := by
  cases e <;> rfl

@[simp] theorem Expression.isNullLiteral_exchange (e : Expression) :
    (e.exchange x).isNullLiteral = e.isNullLiteral := by
  cases e <;> first | rfl | exact x.isNull_value _

theorem Expression.isEmptyList_exchange (e : Expression) :
    (e.exchange x).isEmptyList = e.isEmptyList := by
  cases e with
  | literal l =>
    have hlist := x.isList_value l.value
    obtain ⟨value, temporal⟩ := l
    simp only [Expression.exchange, Literal.exchange, Expression.isEmptyList]
    cases value with
    | list items =>
      rw [x.value_list]
      cases items <;> rfl
    | _ =>
      split
      · rename_i h
        rw [h] at hlist
        cases hlist
      · rfl
  | _ => rfl

theorem Expression.exchangeAll_eq (es : List Expression) :
    Expression.exchangeAll x es = es.map (Expression.exchange x) := by
  induction es with
  | nil => rfl
  | cons e rest ih => rw [Expression.exchangeAll, ih, List.map_cons]

theorem Filter.exchangeAll_eq (fs : List Filter) :
    Filter.exchangeAll x fs = fs.map (Filter.exchange x) := by
  induction fs with
  | nil => rfl
  | cons f rest ih => rw [Filter.exchangeAll, ih, List.map_cons]

theorem SortOrder.exchangeAll_eq (sorts : List SortOrder) :
    SortOrder.exchangeAll x sorts = sorts.map (SortOrder.exchange x) := by
  induction sorts with
  | nil => rfl
  | cons s rest ih => rw [SortOrder.exchangeAll, ih, List.map_cons]

theorem Join.exchangeAll_eq (joins : List Join) :
    Join.exchangeAll x joins = joins.map (Join.exchange x) := by
  induction joins with
  | nil => rfl
  | cons j rest ih => rw [Join.exchangeAll, ih, List.map_cons]

theorem Selection.exchangeAll_eq (selections : List Selection) :
    Selection.exchangeAll x selections = selections.map (Selection.exchange x) := by
  induction selections with
  | nil => rfl
  | cons s rest ih => rw [Selection.exchangeAll, ih, List.map_cons]

theorem Join.exchange_eq (j : Join) :
    j.exchange x = { j with on := j.on.map (Filter.exchange x) } := by
  obtain ⟨kind, name, source, aliasName, on, entity⟩ := j
  cases on <;> rfl

theorem RelationalTarget.exchange_eq (t : RelationalTarget) :
    t.exchange x = { t with joins := t.joins.map (Join.exchange x) } := by
  obtain ⟨schema, table, aliasName, joins, entity⟩ := t
  rw [RelationalTarget.exchange, Join.exchangeAll_eq]

theorem DataTarget.exchange_eq (t : DataTarget) :
    t.exchange x = { t with joins := t.joins.map (Join.exchange x) } := by
  obtain ⟨entity, aliasName, joins⟩ := t
  rw [DataTarget.exchange, Join.exchangeAll_eq]

theorem SelectQuery.exchange_eq (q : SelectQuery) :
    q.exchange x =
      { q with
        source := q.source.exchange x
        projection := q.projection.map (Projection.exchange x)
        filter := q.filter.map (Filter.exchange x)
        sort := q.sort.map (SortOrder.exchange x) } := by
  obtain ⟨source, distinct, projection, filter, sort, limit, offset, lock⟩ := q
  cases projection <;> cases filter <;> cases sort <;> rfl

/-! ## Tables and aliases -/

theorem DataTarget.mapped_exchange (model : Option DataModel) (t : DataTarget) :
    DataTarget.mapped model (t.exchange x) = (DataTarget.mapped model t).exchange x := by
  rw [DataTarget.exchange_eq, RelationalTarget.exchange_eq]
  simp only [DataTarget.mapped, List.map_map]
  congr 1
  refine List.map_congr_left fun j _ => ?_
  simp only [Function.comp_apply, Join.exchange_eq, Join.mapped]

theorem Scope.bindTarget_exchange (s : Scope) (mode : AliasMode) (t : RelationalTarget)
    (aliasName : Option String) :
    s.bindTarget mode (t.exchange x) aliasName = s.bindTarget mode t aliasName := by
  have hjoin : ∀ (s : Scope) (j : Join), s.bindJoin mode (j.exchange x) = s.bindJoin mode j := by
    intro s j
    rw [Join.exchange_eq]
    rfl
  rw [RelationalTarget.exchange_eq]
  simp only [Scope.bindTarget, List.foldl_map, hjoin]

/-- A scope binds a target by its names, whatever the conditions of its joins are. -/
theorem Scope.seed_exchange (s : Scope) (mode : AliasMode) (t : RelationalTarget) :
    s.seed mode (t.exchange x) = s.seed mode t := by
  have htable : (t.exchange x).table = t.table := by rw [RelationalTarget.exchange_eq]
  have halias : (t.exchange x).aliasName = t.aliasName := by rw [RelationalTarget.exchange_eq]
  simp only [Scope.seed, htable, halias, Scope.bindTarget_exchange]

theorem Selection.explicitAlias_exchange (s : Selection) :
    (s.exchange x).explicitAlias = s.explicitAlias := by
  obtain ⟨expr, aliasName⟩ := s
  cases expr <;> rfl

theorem Selection.localName_exchange (s : Selection) : (s.exchange x).localName = s.localName := by
  obtain ⟨expr, aliasName⟩ := s
  cases expr with
  | function f =>
    obtain ⟨kind, args, distinct⟩ := f
    rfl
  | _ => rfl

theorem Selection.aliases_exchange (mode : AliasMode) (sequence : Nat) (g : AliasGenerator)
    (selections : List Selection) :
    Selection.aliases mode sequence g (selections.map (Selection.exchange x)) =
      Selection.aliases mode sequence g selections := by
  have halias : ∀ (s : Selection) g,
      (s.exchange x).columnAlias mode sequence g = s.columnAlias mode sequence g := by
    intro s g
    unfold Selection.columnAlias
    rw [Selection.explicitAlias_exchange, Selection.localName_exchange]
  induction selections generalizing g with
  | nil => rfl
  | cons s rest ih => simp only [List.map_cons, Selection.aliases, halias, ih]

/-! ## Keeping every value -/

mutual

theorem Expression.exchange_identity (e : Expression) : e.exchange .identity = e := by
  cases e with
  | path p => rfl
  | dataTarget t => rw [Expression.exchange, DataTarget.exchange_identity]
  | target t => rw [Expression.exchange, RelationalTarget.exchange_identity]
  | filter f => rw [Expression.exchange, Filter.exchange_identity]
  | sort s => rw [Expression.exchange, SortOrder.exchange_identity]
  | function f => rw [Expression.exchange, FunctionCall.exchange_identity]
  | literal l => rfl
  | parameter p => rfl
  | sql r =>
    obtain ⟨text, parameters⟩ := r
    simp only [Expression.exchange, RawSql.exchange, Exchange.identity, List.map_id']
  | query q => rw [Expression.exchange, SelectQuery.exchange_identity]

theorem Expression.exchangeAll_identity (es : List Expression) :
    Expression.exchangeAll .identity es = es := by
  cases es with
  | nil => rfl
  | cons e rest =>
    rw [Expression.exchangeAll, Expression.exchange_identity, Expression.exchangeAll_identity]

theorem Filter.exchange_identity (f : Filter) : f.exchange .identity = f := by
  cases f with
  | nullTest negated operand => rw [Filter.exchange, Expression.exchange_identity]
  | compare op left right =>
    rw [Filter.exchange, Expression.exchange_identity, Expression.exchange_identity]
  | member negated left right =>
    rw [Filter.exchange, Expression.exchange_identity, Expression.exchange_identity]
  | between operand low high =>
    rw [Filter.exchange, Expression.exchange_identity, Expression.exchange_identity,
      Expression.exchange_identity]
  | like operand text mode ignoreCase =>
    rw [Filter.exchange, Expression.exchange_identity]
    rfl
  | junction op children => rw [Filter.exchange, Filter.exchangeAll_identity]
  | not child => rw [Filter.exchange, Filter.exchange_identity]
  | rows negated query => rw [Filter.exchange, Expression.exchange_identity]

theorem Filter.exchangeAll_identity (fs : List Filter) : Filter.exchangeAll .identity fs = fs := by
  cases fs with
  | nil => rfl
  | cons f rest =>
    rw [Filter.exchangeAll, Filter.exchange_identity, Filter.exchangeAll_identity]

theorem SortOrder.exchange_identity (s : SortOrder) : s.exchange .identity = s := by
  cases s with
  | term expr direction => rw [SortOrder.exchange, Expression.exchange_identity]
  | composite terms => rw [SortOrder.exchange, SortOrder.exchangeAll_identity]

theorem SortOrder.exchangeAll_identity (sorts : List SortOrder) :
    SortOrder.exchangeAll .identity sorts = sorts := by
  cases sorts with
  | nil => rfl
  | cons s rest =>
    rw [SortOrder.exchangeAll, SortOrder.exchange_identity, SortOrder.exchangeAll_identity]

theorem FunctionCall.exchange_identity (f : FunctionCall) : f.exchange .identity = f := by
  obtain ⟨kind, args, distinct⟩ := f
  rw [FunctionCall.exchange, Expression.exchangeAll_identity]

theorem Join.exchange_identity (j : Join) : j.exchange .identity = j := by
  obtain ⟨kind, name, source, aliasName, on, entity⟩ := j
  cases on with
  | none => rfl
  | some f =>
    rw [Join.exchange]
    simp only [Filter.exchange_identity f]

theorem Join.exchangeAll_identity (joins : List Join) : Join.exchangeAll .identity joins = joins := by
  cases joins with
  | nil => rfl
  | cons j rest => rw [Join.exchangeAll, Join.exchange_identity, Join.exchangeAll_identity]

theorem RelationalTarget.exchange_identity (t : RelationalTarget) : t.exchange .identity = t := by
  obtain ⟨schema, table, aliasName, joins, entity⟩ := t
  rw [RelationalTarget.exchange, Join.exchangeAll_identity]

theorem DataTarget.exchange_identity (t : DataTarget) : t.exchange .identity = t := by
  obtain ⟨entity, aliasName, joins⟩ := t
  rw [DataTarget.exchange, Join.exchangeAll_identity]

theorem Selection.exchange_identity (s : Selection) : s.exchange .identity = s := by
  obtain ⟨expr, aliasName⟩ := s
  rw [Selection.exchange, Expression.exchange_identity]

theorem Selection.exchangeAll_identity (selections : List Selection) :
    Selection.exchangeAll .identity selections = selections := by
  cases selections with
  | nil => rfl
  | cons s rest =>
    rw [Selection.exchangeAll, Selection.exchange_identity, Selection.exchangeAll_identity]

theorem Projection.exchange_identity (p : Projection) : p.exchange .identity = p := by
  obtain ⟨selections, aliasMode, converter⟩ := p
  rw [Projection.exchange, Selection.exchangeAll_identity]

theorem SelectQuery.exchange_identity (q : SelectQuery) : q.exchange .identity = q := by
  rw [SelectQuery.exchange_eq]
  obtain ⟨source, distinct, projection, filter, sort, limit, offset, lock⟩ := q
  have hprojection : projection.map (Projection.exchange .identity) = projection := by
    cases projection with
    | none => rfl
    | some p => rw [Option.map_some, Projection.exchange_identity p]
  have hfilter : filter.map (Filter.exchange .identity) = filter := by
    cases filter with
    | none => rfl
    | some f => rw [Option.map_some, Filter.exchange_identity f]
  have hsort : sort.map (SortOrder.exchange .identity) = sort := by
    cases sort with
    | none => rfl
    | some o => rw [Option.map_some, SortOrder.exchange_identity o]
  simp only [Expression.exchange_identity source, hprojection, hfilter, hsort]

end

end SqlCompose
