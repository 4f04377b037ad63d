import SqlCompose.Resolution.Answer

/-!
# SqlCompose.Resolution.Source -- the tables a statement reads

A target is mapped to its table, bound in the scope, and written with its joins.
The conditions of the joins are computations of their own, because they are
filters that have to be resolved in the scope in which the target is bound.
-/

namespace SqlCompose

/-- A table to select from, with a computation for the condition of each of its joins. -/
structure Source where
  target : RelationalTarget
  conditions : List (Option (Compose String))

/-! ## The data model -/

/-- The table of an entity in the data model; an entity it does not know is a table itself. -/
def mappedTable (model : Option DataModel) (entity : String) : TableName :=
  (model.bind fun m => m.table? entity).getD ⟨none, entity⟩

/-- A join of an entity as a join of its table. -/
def Join.mapped (model : Option DataModel) (j : Join) : Join :=
  { j with source := (mappedTable model j.source).qualified, entity := some j.source }

/-- The table of a data target, with its joins. -/
def DataTarget.mapped (model : Option DataModel) (t : DataTarget) : RelationalTarget :=
  let name := mappedTable model t.entity
  { schema := name.schema, table := name.table, aliasName := t.aliasName
    joins := t.joins.map (Join.mapped model), entity := some t.entity }

/-! ## The text -/

/-- The alias of a table, if it has one. -/
def aliasTokens : Option String → List Token
  | some aliasName => [.space, .ident aliasName]
  | none => []

/-- The condition of a join, if it has one. -/
def conditionTokens : Option (Compose String) → Compose (List Token)
  | some condition => do
    let sql ← condition
    pure [.space, .on, .space, .fragment sql]
  | none => pure []

/-- The joins of a source in order. Each is written as what its name is bound to. -/
def joinTokens : List (Join × Option (Compose String)) → Compose (List Token)
  | [] => pure []
  | (join, condition) :: rest => do
    match ← Compose.lookup (findBinding join.name false) with
    | none => Compose.refuse (.unboundJoin join.name)
    | some b => do
      let on ← conditionTokens condition
      let others ← joinTokens rest
      pure ([Token.space, .join join.kind, .space, .ident b.table] ++ aliasTokens b.aliasName ++
        on ++ others)

namespace Source

/-- The text of a source. Its target is bound first, unless it already is. -/
def text (s : Source) : Compose String := do
  Compose.seed s.target
  let root ← Compose.lookup findRoot
  let joins ← joinTokens (s.target.joins.zip s.conditions)
  Compose.write
    (Token.qualified s.target.schema s.target.table :: aliasTokens (root.bind Binding.aliasName) ++
      joins)

/-- Resolve a source into SQL. -/
def resolveSql (s : Source) : Compose String := resolveText (.target s.target) s.text

/-! ## Resolution -/

/-- A source that an application answered with. -/
def foreign (g : Registry) (t : RelationalTarget) : Source :=
  ⟨t, t.joins.map fun j => j.on.map fun f => Compose.ofForeign (g.foreignSql (.filter f))⟩

/-- Resolve an expression into a source. The library itself has a source for
targets only, which it maps with the data model. -/
def resolve (e : Expression) (standard : Option (Option DataModel → Source)) :
    Compose Source := do
  let ctx ← read
  let own := standard.map fun source => source ctx.model
  let (resolver, resolved) ← Request.resolve
    { expr := e, form := .relational
      standard := pure (own.map fun s => .relational s.target) }
  let target ← Compose.ofResult resolved.intoRelational
  match own, resolver.isCustom with
  | some s, false => pure s
  | _, _ => pure (foreign ctx.registry target)

/-- Resolve a source into SQL once it has been found. -/
def sqlOf (source : Compose Source) : Compose String := do
  let s ← source
  s.resolveSql

end Source

end SqlCompose
