import SqlCompose.Proofs.Registry
import SqlCompose.Proofs.Steps
import SqlCompose.Statement.Render

/-!
# SqlCompose.Proofs.Sources -- the sources that queries read

Finding the source of a query looks at the data model only. It does not depend on
the scopes and leaves the session as it is, so the same source is found wherever
the query stands. The query is then resolved in a scope in which its source is
bound: the current one if it is a statement, a new one if it is a sub-select.
-/

namespace SqlCompose

open Compose

variable {ctx : Context} {s t : Session}

/-- The source that a target stands for in a data model. Nothing else is a source. -/
def Expression.source? (model : Option DataModel) : Expression → Option Source
  | .target t => some (RelationalTarget.toSource t)
  | .dataTarget t => some (DataTarget.toSource t model)
  | _ => none

theorem RelationalTarget.target_toSource (t : RelationalTarget) :
    (RelationalTarget.toSource t).target = t := by
  obtain ⟨schema, table, aliasName, joins, entity⟩ := t
  rfl

theorem DataTarget.target_toSource (model : Option DataModel) (t : DataTarget) :
    (DataTarget.toSource t model).target = DataTarget.mapped model t := by
  obtain ⟨entity, aliasName, joins⟩ := t
  rfl

/-- A valid target is resolved into the source that it stands for. -/
theorem yields_toSource (hplain : ctx.registry.IsPlain) {e : Expression} {source : Source} :
    (Expression.toSource e).Yields ctx s source t ↔
      (e.validate = .ok () ∧ ctx.registry.Answers e.kind .relational) ∧
        e.source? ctx.model = some source ∧ t = s := by
  cases e with
  | target target =>
    rw [Expression.toSource, yields_source hplain, Expression.source?, Option.some.injEq,
      eq_comm (a := source)]
  | dataTarget target =>
    rw [Expression.toSource, yields_source hplain, Expression.source?, Option.some.injEq,
      eq_comm (a := source)]
  | _ =>
    rw [Expression.toSource]
    · simp [not_yields_source hplain, Expression.source?]
    all_goals simp

theorem SelectQuery.toSource_eq (q : SelectQuery) :
    SelectQuery.toSource q = Expression.toSource q.source := by
  obtain ⟨source, distinct, projection, filter, sort, limit, offset, lock⟩ := q
  rw [SelectQuery.toSource]

/-! ## Queries -/

/-- A query that is compiled is resolved in the current scope, in which its source is bound. -/
theorem yields_renderOuter (hplain : ctx.registry.IsPlain) {q : SelectQuery}
    {rendered : RenderedSelect} :
    q.renderOuter.Yields ctx s rendered t ↔
      ∃ source, (q.source.validate = .ok () ∧ ctx.registry.Answers q.source.kind .relational) ∧
        q.source.source? ctx.model = some source ∧
          (q.renderFrom source).Yields ctx
            { s with scope := s.scope.seed ctx.aliasMode source.target } rendered t := by
  unfold SelectQuery.renderOuter resolveSource render seed
  simp only [yields_bind, yields_toSource hplain, yields_updateScope]
  constructor
  · rintro ⟨source, _, ⟨hfound, hsource, rfl⟩, _, _, rfl, hrun⟩
    exact ⟨source, hfound, hsource, hrun⟩
  · rintro ⟨source, hfound, hsource, hrun⟩
    exact ⟨source, s, ⟨hfound, hsource, rfl⟩, (), _, rfl, hrun⟩

/-- A sub-select is resolved in a statement scope of its own. -/
theorem yields_query (hplain : ctx.registry.IsPlain) {q : SelectQuery} {sql : String} :
    (Expression.toSql (.query q)).Yields ctx s sql t ↔
      (q.validate = .ok () ∧ ctx.registry.Answers .query .sql) ∧ checkSqlText sql = .ok () ∧
        ∃ source rendered u,
          (q.source.validate = .ok () ∧ ctx.registry.Answers q.source.kind .relational) ∧
          q.source.source? ctx.model = some source ∧
          (q.renderFrom source).Yields { ctx with enclosing := s.scope :: ctx.enclosing }
            { s with scope := ((Scope.inside (s.scope :: ctx.enclosing) .statement).seed
                ctx.aliasMode source.target) } rendered u ∧
          t = { u with scope := s.scope } ∧ sql = rendered.sql := by
  rw [Expression.toSql, yields_resolveText hplain, subselect, SelectQuery.toSource_eq]
  simp only [yields_bind, yields_toSource hplain, yields_inStatement, yields_pure]
  constructor
  · rintro ⟨hvalid, hanswers, ⟨source, _, ⟨hfound, hsource, rfl⟩, rendered, _,
      ⟨u, hrun, rfl⟩, rfl, rfl⟩, hcheck⟩
    exact ⟨⟨hvalid, hanswers⟩, hcheck, source, rendered, u, hfound, hsource, hrun, rfl, rfl⟩
  · rintro ⟨⟨hvalid, hanswers⟩, hcheck, source, rendered, u, hfound, hsource, hrun, rfl, rfl⟩
    exact ⟨hvalid, hanswers, ⟨source, s, ⟨hfound, hsource, rfl⟩, rendered, _, ⟨u, hrun, rfl⟩,
      rfl, rfl⟩, hcheck⟩

end SqlCompose
