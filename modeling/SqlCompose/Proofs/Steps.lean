import SqlCompose.Proofs.Outline
import SqlCompose.Resolution.Fragment

/-!
# SqlCompose.Proofs.Steps -- the parts of a query that may be missing

A query resolves its clauses one after the other, and those that are missing
give nothing. Here each of them is a computation of its own, and resolving a
query is the sequence of these computations.
-/

namespace SqlCompose

/-! ## Clauses -/

/-- The columns of a projection, if there is one. -/
def projectedColumns : Option Projection → Compose (List ProjectedColumn)
  | some p => Projection.toColumns p
  | none => pure []

/-- The condition of a query, if it has one. -/
def conditionSql : Option Filter → Compose (Option String)
  | some f => do
    let sql ← Expression.toSql (.filter f)
    pure (some sql)
  | none => pure none

/-- The order of a query, if it has one. -/
def orderSql : Option SortOrder → Compose (Option String)
  | some o => do
    let sql ← Expression.toSql (.sort o)
    pure (some sql)
  | none => pure none

/-- The text of the clauses, cut down to a page and with its row lock. -/
def finishSelect (q : SelectQuery) (c : SelectClauses) : Compose RenderedSelect := do
  let sql ← Compose.write c.tokens
  let d ← Compose.dialect
  let paged ← Compose.ofResult (d.page sql q.limit q.offset q.sort.isSome)
  pure ⟨d.lock paged q.lock, c.columns⟩

/-- A query resolves its source, its columns, its condition and its order. -/
theorem SelectQuery.renderFrom_eq (q : SelectQuery) (s : Source) :
    SelectQuery.renderFrom q s =
      Compose.ofResult q.validate >>= fun _ => s.resolveSql >>= fun from_ =>
        projectedColumns q.projection >>= fun columns =>
          conditionSql q.filter >>= fun condition => orderSql q.sort >>= fun order =>
            finishSelect q ⟨q.distinct, columns, from_, condition, order⟩ := by
  obtain ⟨source, distinct, projection, filter, sort, limit, offset, lock⟩ := q
  cases projection <;> cases filter <;> cases sort <;>
    -- opened by computation: the equations of the whole mutual definition take long to prove
    (change (Compose.ofResult _ >>= fun _ => s.resolveSql >>= fun _ => _) = _
     simp only [projectedColumns, conditionSql, orderSql, Expression.toSql, finishSelect,
       bind_assoc, pure_bind])

/-! ## Joins -/

/-- The condition of a join is resolved like any other filter. -/
theorem Join.toCondition_eq (j : Join) :
    Join.toCondition j = j.on.map fun f => Expression.toSql (.filter f) := by
  obtain ⟨kind, name, source, aliasName, on, entity⟩ := j
  cases on <;> rfl

theorem Join.toConditions_eq (joins : List Join) :
    Join.toConditions joins = joins.map (Join.toCondition) := by
  induction joins with
  | nil => rfl
  | cons j rest ih => rw [Join.toConditions, ih, List.map_cons]

/-! ## Outlines -/

/-- What the columns of a projection show, if there is one. -/
def projectionOutline (d : Dialect) : Option Projection → List Item
  | some p => p.outline d
  | none => []

/-- What an order shows, if there is one. -/
def orderOutline (d : Dialect) : Option SortOrder → List Item
  | some o => o.outline d
  | none => []

theorem SelectQuery.outline_eq (d : Dialect) (q : SelectQuery) :
    q.outline d = projectionOutline d q.projection ++ q.source.outline d false ++
      conditionOutline d q.filter ++ orderOutline d q.sort := by
  obtain ⟨source, distinct, projection, filter, sort, limit, offset, lock⟩ := q
  cases projection <;> cases filter <;> cases sort <;> rfl

theorem Join.outline_eq (d : Dialect) (j : Join) : j.outline d = conditionOutline d j.on := by
  obtain ⟨kind, name, source, aliasName, on, entity⟩ := j
  cases on <;> rfl

end SqlCompose
