import SqlCompose.Proofs.Clauses
import SqlCompose.Proofs.Sources
import SqlCompose.Proofs.Valid

/-!
# SqlCompose.Proofs.Rendering -- clauses first, then the page

The clauses of a query do not depend on the page that is wanted of its rows. Their
text is finished before the dialect keeps a page of it and asks for a row lock, so
a query without a page is rendered as that text.
-/

namespace SqlCompose

open Compose

variable {ctx : Context} {s t : Session}

namespace SelectQuery

/-- The same query for all rows, and without a row lock. -/
def unpaged (q : SelectQuery) : SelectQuery := { q with limit := none, offset := none, lock := none }

/-- The clauses of a query in a scope in which its source is bound. -/
def clausesFrom (q : SelectQuery) (s : Source) : Compose SelectClauses := do
  let from_ ← s.resolveSql
  let columns ← projectedColumns q.projection
  let condition ← conditionSql q.filter
  let order ← orderSql q.sort
  pure ⟨q.distinct, columns, from_, condition, order⟩

/-- The clauses of a query over its own source. -/
def outerClauses (q : SelectQuery) : Compose SelectClauses := do
  let source ← resolveSource q.source
  seed source.target
  q.clausesFrom source

/-- A query that is put together is the page of the text of its clauses, with its lock. -/
structure Puts (q : SelectQuery) (d : Dialect) (c : SelectClauses) (rendered : RenderedSelect) :
    Prop where
  page : ∃ paged, d.page (sqlText d c.tokens) q.limit q.offset q.sort.isSome = .ok paged ∧
    rendered.sql = d.lock paged q.lock
  columns : rendered.columns = c.columns

theorem yields_finishSelect {q : SelectQuery} {c : SelectClauses} {rendered : RenderedSelect} :
    (finishSelect q c).Yields ctx s rendered t ↔ q.Puts ctx.dialect c rendered ∧ t = s := by
  unfold finishSelect
  simp only [yields_bind, yields_write, yields_dialect, yields_ofResult, yields_pure]
  constructor
  · rintro ⟨_, _, ⟨rfl, rfl⟩, _, _, ⟨rfl, rfl⟩, paged, _, ⟨hpaged, rfl⟩, rfl, rfl⟩
    exact ⟨⟨⟨paged, hpaged, rfl⟩, rfl⟩, rfl⟩
  · rintro ⟨⟨⟨paged, hpaged, hsql⟩, hcolumns⟩, rfl⟩
    refine ⟨_, _, ⟨rfl, rfl⟩, _, _, ⟨rfl, rfl⟩, paged, _, ⟨hpaged, rfl⟩, ?_, rfl⟩
    rw [← hsql, ← hcolumns]

theorem yields_renderFrom {q : SelectQuery} {source : Source} {rendered : RenderedSelect} :
    (q.renderFrom source).Yields ctx s rendered t ↔
      q.validate = .ok () ∧ ∃ c, (q.clausesFrom source).Yields ctx s c t ∧
        q.Puts ctx.dialect c rendered := by
  have hclauses : q.renderFrom source =
      ofResult q.validate >>= fun _ => q.clausesFrom source >>= fun c => finishSelect q c := by
    rw [renderFrom_eq, clausesFrom]
    simp only [bind_assoc, pure_bind]
  rw [hclauses, yields_ofResult_bind]
  constructor
  · rintro ⟨_, hvalid, h⟩
    obtain ⟨c, u, hc, h⟩ := yields_bind.mp h
    obtain ⟨hputs, rfl⟩ := yields_finishSelect.mp h
    exact ⟨hvalid, c, hc, hputs⟩
  · rintro ⟨hvalid, c, hc, hputs⟩
    exact ⟨(), hvalid, yields_bind.mpr ⟨c, t, hc, yields_finishSelect.mpr ⟨hputs, rfl⟩⟩⟩

/-- A query of its own has its clauses first. -/
theorem yields_renderOuter_clauses {q : SelectQuery} {rendered : RenderedSelect} :
    q.renderOuter.Yields ctx s rendered t ↔
      q.validate = .ok () ∧ ∃ c, q.outerClauses.Yields ctx s c t ∧ q.Puts ctx.dialect c rendered := by
  unfold renderOuter outerClauses render
  simp only [yields_bind, yields_renderFrom]
  constructor
  · rintro ⟨source, u, hsource, _, v, hseed, hvalid, c, hc, hputs⟩
    exact ⟨hvalid, c, ⟨source, u, hsource, (), v, hseed, hc⟩, hputs⟩
  · rintro ⟨hvalid, c, ⟨source, u, hsource, _, v, hseed, hc⟩, hputs⟩
    exact ⟨source, u, hsource, (), v, hseed, hvalid, c, hc, hputs⟩

/-! ## Without a page -/

theorem validate_unpaged {q : SelectQuery} (h : q.validate = .ok ()) : q.unpaged.validate = .ok () := by
  rw [validate_iff] at h ⊢
  obtain ⟨hkind, hsource, _, hparts⟩ := h
  exact ⟨hkind, hsource, Bool.false_ne_true, hparts⟩

theorem Puts.unpaged {q : SelectQuery} {d : Dialect} {c : SelectClauses} {rendered : RenderedSelect} :
    q.unpaged.Puts d c rendered ↔ rendered = ⟨sqlText d c.tokens, c.columns⟩ := by
  constructor
  · rintro ⟨⟨paged, hpaged, hsql⟩, hcolumns⟩
    cases hpaged
    rw [← hcolumns]
    exact congrArg (RenderedSelect.mk · rendered.columns) hsql
  · rintro rfl
    exact ⟨⟨_, rfl, rfl⟩, rfl⟩

/-- A query that is rendered is the page, with its lock, of what it is without a page. -/
theorem yields_unpaged {q : SelectQuery} {rendered : RenderedSelect}
    (h : q.renderOuter.Yields ctx s rendered t) :
    ∃ text paged, q.unpaged.renderOuter.Yields ctx s ⟨text, rendered.columns⟩ t ∧
      ctx.dialect.page text q.limit q.offset q.sort.isSome = .ok paged ∧
        rendered.sql = ctx.dialect.lock paged q.lock := by
  obtain ⟨hvalid, c, hc, ⟨paged, hpaged, hsql⟩, hcolumns⟩ := yields_renderOuter_clauses.mp h
  refine ⟨sqlText ctx.dialect c.tokens, paged, ?_, hpaged, hsql⟩
  rw [hcolumns]
  exact yields_renderOuter_clauses.mpr ⟨validate_unpaged hvalid, c, hc, Puts.unpaged.mpr rfl⟩

/-! ## Which clauses there are -/

theorem isSome_of_conditionSql {filter : Option Filter} {condition : Option String}
    (h : (conditionSql filter).Yields ctx s condition t) : condition.isSome = filter.isSome := by
  cases filter with
  | none =>
    obtain ⟨rfl, _⟩ := yields_pure.mp h
    rfl
  | some f =>
    obtain ⟨sql, _, _, h⟩ := yields_bind.mp h
    obtain ⟨rfl, _⟩ := yields_pure.mp h
    rfl

theorem isSome_of_orderSql {sort : Option SortOrder} {order : Option String}
    (h : (orderSql sort).Yields ctx s order t) : order.isSome = sort.isSome := by
  cases sort with
  | none =>
    obtain ⟨rfl, _⟩ := yields_pure.mp h
    rfl
  | some o =>
    obtain ⟨sql, _, _, h⟩ := yields_bind.mp h
    obtain ⟨rfl, _⟩ := yields_pure.mp h
    rfl

/-- The clauses are those that the query has. -/
theorem clauses_of_clausesFrom {q : SelectQuery} {source : Source} {c : SelectClauses}
    (h : (q.clausesFrom source).Yields ctx s c t) :
    c.distinct = q.distinct ∧ c.condition.isSome = q.filter.isSome ∧
      c.order.isSome = q.sort.isSome ∧
        ∃ u v, (projectedColumns q.projection).Yields ctx u c.columns v := by
  obtain ⟨_, u, _, h⟩ := yields_bind.mp h
  obtain ⟨columns, v, hcolumns, h⟩ := yields_bind.mp h
  obtain ⟨condition, _, hcondition, h⟩ := yields_bind.mp h
  obtain ⟨order, _, horder, h⟩ := yields_bind.mp h
  obtain ⟨rfl, _⟩ := yields_pure.mp h
  exact ⟨rfl, isSome_of_conditionSql hcondition, isSome_of_orderSql horder, u, v, hcolumns⟩

theorem exists_clausesFrom {q : SelectQuery} {c : SelectClauses}
    (h : q.outerClauses.Yields ctx s c t) :
    ∃ source u, (q.clausesFrom source).Yields ctx u c t := by
  obtain ⟨source, _, _, h⟩ := yields_bind.mp h
  obtain ⟨_, u, _, h⟩ := yields_bind.mp h
  exact ⟨source, u, h⟩

end SelectQuery

/-- A row lock is asked for behind the statement, if at all. -/
theorem Dialect.lock_eq (d : Dialect) (lock : Option Lock) :
    ∃ clause, ∀ sql, d.lock sql lock = sql ++ clause := by
  cases lock with
  | none => exact ⟨"", fun sql => String.append_empty.symm⟩
  | some l =>
    cases hclause : d.lockClause l.mode l.timeoutMillis with
    | error e => exact ⟨"", fun sql => by rw [Dialect.lock, hclause, String.append_empty]⟩
    | ok clause =>
      refine ⟨" " ++ clause, fun sql => ?_⟩
      rw [Dialect.lock, hclause]
      exact String.append_assoc

/-! ## Columns -/

theorem Selection.length_allToSql {selections : List Selection} {sqls : List String}
    (h : (Selection.allToSql selections).Yields ctx s sqls t) :
    sqls.length = selections.length := by
  induction selections generalizing s t sqls with
  | nil =>
    obtain ⟨rfl, _⟩ := yields_pure.mp h
    rfl
  | cons selection rest ih =>
    rw [Selection.allToSql] at h
    obtain ⟨sql, _, _, h⟩ := yields_bind.mp h
    obtain ⟨others, _, hothers, h⟩ := yields_bind.mp h
    obtain ⟨rfl, _⟩ := yields_pure.mp h
    rw [List.length_cons, List.length_cons, ih hothers]

/-- A projection has a column for each of its selections, and at least one. -/
theorem Projection.length_columns {p : Projection} {columns : List ProjectedColumn}
    (h : (Projection.toColumns p).Yields ctx s columns t) :
    columns.length = p.selections.length ∧ columns ≠ [] := by
  obtain ⟨selections, aliasMode, converter⟩ := p
  simp only [toColumns, yields_ofResult_bind, yields_aliasMode_bind, yields_sequence_bind] at h
  obtain ⟨_, hvalid, h⟩ := h
  obtain ⟨sqls, _, hsqls, h⟩ := yields_bind.mp h
  obtain ⟨rfl, _⟩ := yields_pure.mp h
  have hlength : ∀ aliases : List (Option String), aliases.length = selections.length →
      (List.zipWith ProjectedColumn.mk sqls aliases).length = selections.length := by
    intro aliases haliases
    rw [List.length_zipWith, haliases, Selection.length_allToSql hsqls, Nat.min_self]
  refine ⟨hlength _ (Selection.length_aliases _ _ _ _), fun hnone => ?_⟩
  have hnone := congrArg List.length hnone
  rw [hlength _ (Selection.length_aliases _ _ _ _)] at hnone
  cases selections with
  | nil => cases hvalid
  | cons selection rest => cases hnone

end SqlCompose
