import SqlCompose.Proofs.FirstAnswer
import SqlCompose.Proofs.Sources
import SqlCompose.Proofs.Statements

/-!
# SqlCompose.Proofs.Refusals -- the error of an invalid statement

A statement is validated before anything of it is resolved, except for a query: its source
is found first. So an invalid statement is refused with the error of its validation, unless
it is a query over something that is no target. Such a query is refused for its source
before the library says that nothing can be selected from it.
-/

namespace SqlCompose

open Compose

variable {α β : Type} {ctx : Context} {s t : Session} {c : Compiler} {e : SqlError}
  {streams streams' : StreamStore}

/-! ## Computations that fail -/

theorem outcome_bind_of_error {x : Compose α} {f : α → Compose β}
    (h : x.outcome ctx s = (.error e, t)) : (x >>= f).outcome ctx s = (.error e, t) := by
  rw [outcome_bind, h]

theorem run_of_error {x : Compose α}
    (h : x.outcome c.context (Session.initial streams) = (.error e, t)) :
    c.run x streams = (.error e, t.streams) := by
  rw [run_eq, h]

theorem map_of_error {x : Streaming α} {f : α → β} (h : x streams = (.error e, streams')) :
    (x >>= fun a => pure (f a)) streams = (.error e, streams') := by
  show ExceptT.bindCont (fun a => (pure (f a) : Streaming β))
    (x streams : Except SqlError α × StreamStore).1
    (x streams : Except SqlError α × StreamStore).2 = _
  rw [h]
  rfl

/-- A computation that begins with a check that does not pass. -/
theorem outcome_check_of_error {x : Except SqlError α} {f : α → Compose β} (h : x = .error e) :
    (ofResult x >>= f).outcome ctx s = (.error e, s) := by
  rw [h]
  rfl

/-- A statement whose text cannot be put together is refused for the same reason. -/
theorem compile_of_error {st : Statement}
    (h : st.rendered.outcome c.context (Session.initial streams) = (.error e, t)) :
    c.compile st streams = (.error e, t.streams) := by
  have htext : ∀ {x : Compose String},
      (x >>= fun sql => pure (⟨sql, []⟩ : RenderedSelect)).outcome c.context
        (Session.initial streams) = (.error e, t) →
      x.outcome c.context (Session.initial streams) = (.error e, t) := by
    intro x hx
    rw [outcome_bind] at hx
    generalize x.outcome c.context (Session.initial streams) = outcome at hx ⊢
    rcases outcome with ⟨e' | sql, t'⟩
    · cases hx
      rfl
    · cases hx
  cases st with
  | select q => exact map_of_error (run_of_error (outcome_bind_of_error h))
  | insert s => exact map_of_error (run_of_error (outcome_bind_of_error (htext h)))
  | update s => exact map_of_error (run_of_error (outcome_bind_of_error (htext h)))
  | delete s => exact map_of_error (run_of_error (outcome_bind_of_error (htext h)))

/-! ## Sources -/

/-- No dialect has a resolver that makes a source of anything but a target. -/
theorem Dialect.resolversFor_relational (d : Dialect) {kind : ExpressionKind}
    (h : kind.isSource = false) : d.registry.resolversFor kind .relational = [] := by
  have hstandard : ∀ r ∈ Registry.standardResolvers, r.form = .relational → r.kind.isSource = true := by
    decide
  refine List.filter_eq_nil_iff.mpr fun r hr hmatch => ?_
  simp only [Bool.and_eq_true, beq_iff_eq] at hmatch
  obtain ⟨rfl, hform⟩ := hmatch
  rw [Dialect.registry, Registry.mem_extended, Registry.mem_standard] at hr
  rcases hr with hr | hr
  · obtain ⟨rule, _, rfl⟩ := List.mem_map.mp hr
    cases hform
  · rw [hstandard r hr hform] at h
    cases h

theorem outcome_resolveSource (expr : Expression) :
    (resolveSource expr).outcome ctx s =
      (Source.resolve expr expr.ownSource).outcome ctx s := by
  rw [resolveSource, Expression.toSource_eq]

/-- What is invalid is refused before any resolver sees it. -/
theorem resolveSource_of_invalid {expr : Expression} (h : expr.validate = .error e) :
    (resolveSource expr).outcome ctx s = (.error e, s) := by
  rw [outcome_resolveSource]
  unfold Source.resolve Request.resolve
  simp only [h]
  rfl

/-- Nothing but a target has a source. -/
theorem resolveSource_of_not_isSource (hregistry : ctx.registry = ctx.dialect.registry)
    {expr : Expression} (hkind : expr.kind.isSource = false) (hvalid : expr.validate = .ok ()) :
    (resolveSource expr).outcome ctx s = (.error (.unresolved expr.kind .relational), s) := by
  have hnone : ctx.registry.resolversFor expr.kind .relational = [] := by
    rw [hregistry, Dialect.resolversFor_relational _ hkind]
  rw [outcome_resolveSource]
  unfold Source.resolve Request.resolve
  simp only [hvalid, bind_assoc]
  show (firstAnswer _ (ctx.registry.resolversFor expr.kind .relational) >>= _ :
    Compose Source).outcome ctx s = _
  rw [hnone]
  rfl

/-- A valid target has a source. -/
theorem resolveSource_of_isSource (hregistry : ctx.registry = ctx.dialect.registry)
    {expr : Expression} (hkind : expr.kind.isSource = true) (hvalid : expr.validate = .ok ()) :
    ∃ source, (resolveSource expr).outcome ctx s = (.ok source, s) := by
  have hplain : ctx.registry.IsPlain := by
    rw [hregistry]
    exact ctx.dialect.registry_isPlain
  have hanswers : ∀ r ∈ Registry.standardResolvers, ctx.registry.Answers r.kind r.form := by
    rw [hregistry]
    exact fun r hr => ctx.dialect.registry_answers hr
  have hsource : ∃ source, expr.source? ctx.model = some source ∧
      ctx.registry.Answers expr.kind .relational := by
    cases expr with
    | target target =>
      exact ⟨_, rfl, hanswers { name := "target", kind := .target, form := .relational }
        (by simp [Registry.standardResolvers])⟩
    | dataTarget target =>
      exact ⟨_, rfl, hanswers { name := "data-target", kind := .dataTarget, form := .relational }
        (by simp [Registry.standardResolvers])⟩
    | _ => cases hkind
  obtain ⟨source, hsource, hanswer⟩ := hsource
  exact ⟨source, ((yields_toSource hplain).mpr ⟨⟨hvalid, hanswer⟩, hsource, rfl⟩)⟩

/-! ## Statements -/

/-- The error with which a query is refused whose validation fails with an error. -/
def SelectQuery.refusal (q : SelectQuery) (e : SqlError) : SqlError :=
  if q.source.kind.isSource then e
  else match q.source.validate with
    | .error defect => defect
    | .ok _ => .unresolved q.source.kind .relational

/-- The error with which a statement is refused whose validation fails with an error. -/
def Statement.refusal (e : SqlError) : Statement → SqlError
  | .select q => q.refusal e
  | _ => e

/-- A query over something that is no target is invalid for this reason. -/
theorem SelectQuery.validate_of_not_isSource {q : SelectQuery}
    (h : q.source.kind.isSource = false) :
    q.validate = .error (.invalid (.notASource q.source.kind)) := by
  obtain ⟨source, distinct, projection, filter, sort, limit, offset, lock⟩ := q
  cases projection <;> cases filter <;> cases sort <;> rw [SelectQuery.validate, if_neg (by simp [h])] <;>
    rfl

/-- The validation of a query over a target begins with the target. -/
theorem SelectQuery.validate_of_isSource {q : SelectQuery} (h : q.source.kind.isSource = true)
    (hsource : q.source.validate = .error e) : q.validate = .error e := by
  obtain ⟨source, distinct, projection, filter, sort, limit, offset, lock⟩ := q
  cases projection <;> cases filter <;> cases sort <;> rw [SelectQuery.validate, if_pos h, hsource] <;>
    rfl

/-- An invalid query over a valid target is refused with the error of its validation. An
invalid source is refused first, and so is one that is no target. -/
theorem SelectQuery.outcome_renderOuter_of_invalid (hregistry : ctx.registry = ctx.dialect.registry)
    {q : SelectQuery} (h : q.validate = .error e) :
    ∃ t, q.renderOuter.outcome ctx s = (.error (q.refusal e), t) ∧ t.streams = s.streams := by
  unfold SelectQuery.renderOuter SelectQuery.refusal
  cases hkind : q.source.kind.isSource with
  | false =>
    refine ⟨s, outcome_bind_of_error ?_, rfl⟩
    cases hvalid : q.source.validate with
    | error defect => exact resolveSource_of_invalid hvalid
    | ok _ => exact resolveSource_of_not_isSource hregistry hkind hvalid
  | true =>
    cases hvalid : q.source.validate with
    | error defect =>
      -- the validation of the query stops at its source as well
      obtain rfl : e = defect :=
        Except.error.inj (h.symm.trans (SelectQuery.validate_of_isSource hkind hvalid))
      exact ⟨s, outcome_bind_of_error (resolveSource_of_invalid hvalid), rfl⟩
    | ok _ =>
      obtain ⟨source, hsource⟩ := resolveSource_of_isSource hregistry hkind hvalid (s := s)
      refine ⟨{ s with scope := s.scope.seed ctx.aliasMode source.target }, ?_, rfl⟩
      rw [outcome_bind, hsource]
      show (seed source.target >>= fun _ => render q source).outcome ctx s = _
      rw [outcome_bind]
      show (render q source).outcome ctx _ = _
      unfold render
      rw [SelectQuery.renderFrom_eq, h]
      rfl

/-- An invalid statement is refused, and no stream is read for it. -/
theorem Statement.outcome_rendered_of_invalid (hregistry : ctx.registry = ctx.dialect.registry)
    {st : Statement} (h : st.validate = .error e) :
    ∃ t, st.rendered.outcome ctx s = (.error (st.refusal e), t) ∧ t.streams = s.streams := by
  cases st with
  | select q => exact SelectQuery.outcome_renderOuter_of_invalid hregistry h
  | insert i => exact ⟨s, outcome_bind_of_error (outcome_check_of_error h), rfl⟩
  | update u => exact ⟨s, outcome_bind_of_error (outcome_check_of_error h), rfl⟩
  | delete d => exact ⟨s, outcome_bind_of_error (outcome_check_of_error h), rfl⟩

/-- The error is that of the validation where the source of a query does not come before it. -/
theorem SelectQuery.refusal_eq_iff {q : SelectQuery} (h : q.validate = .error e) :
    q.refusal e = e ↔ q.source.kind.isSource = true ∨ q.source.validate = .error e := by
  unfold SelectQuery.refusal
  cases hkind : q.source.kind.isSource with
  | true => simp
  | false =>
    have hinvalid : e = .invalid (.notASource q.source.kind) :=
      Except.error.inj (h.symm.trans (SelectQuery.validate_of_not_isSource hkind))
    cases q.source.validate with
    | error defect => simp
    | ok _ => simp [hinvalid]

/-- Where a compiler has no registry of its own, an invalid statement is refused. The error is
that of its validation exactly if it is no query, or a query over a target, or one over something
that is invalid for this very reason. -/
theorem refused_with_own_error_iff (hregistry : c.registry = none) {st : Statement}
    (h : st.validate = .error e) (streams : StreamStore) :
    c.compile st streams = (.error (st.refusal e), streams) ∧
      (st.refusal e = e ↔ ∀ q, st = .select q →
        q.source.kind.isSource = true ∨ q.source.validate = .error e) := by
  constructor
  · have hown : c.context.registry = c.context.dialect.registry := by
      simp only [Compiler.context, hregistry, Option.getD_none]
    obtain ⟨t, hrun, hstreams⟩ := Statement.outcome_rendered_of_invalid hown h
      (s := Session.initial streams)
    rw [compile_of_error hrun, hstreams]
    rfl
  · cases st with
    | select q =>
      rw [Statement.refusal, SelectQuery.refusal_eq_iff h]
      simp only [Statement.select.injEq, forall_eq']
    | _ => simp [Statement.refusal]

/-- A query that skips rows of a table without a limit, with a condition that is invalid too. -/
def skippingQuery : SelectQuery :=
  { SelectQuery.ofSource (.target {
      schema := none, table := "t", aliasName := none, joins := [], entity := none }) with
    filter := some (.junction .and [])
    offset := some 1 }

/-- The first defect of a query over a target is the one that is reported. -/
theorem offset_without_limit_is_refused :
    (Compiler.ansi .auto).registry = none ∧
    (Statement.select skippingQuery).validate = .error (.invalid .offsetWithoutLimit) ∧
    ((Compiler.ansi .auto).compile (.select skippingQuery) {}) =
      (.error (.invalid .offsetWithoutLimit), {}) := by
  have hvalid : (Statement.select skippingQuery).validate = .error (.invalid .offsetWithoutLimit) := rfl
  obtain ⟨hcompile, hown⟩ := refused_with_own_error_iff (c := Compiler.ansi .auto) rfl hvalid {}
  have hrefusal : (Statement.select skippingQuery).refusal (.invalid .offsetWithoutLimit) =
      .invalid .offsetWithoutLimit := hown.mpr fun q hq => by
    cases hq
    exact .inl rfl
  rw [hrefusal] at hcompile
  exact ⟨rfl, hvalid, hcompile⟩

/-- A query that selects from a column. -/
def columnQuery : SelectQuery := .ofSource (.path (.ofName "age"))

/-- A query over a column is refused because no resolver makes a source of it, and not because
nothing can be selected from a column. -/
theorem column_is_refused_as_unresolved :
    (Statement.select columnQuery).validate = .error (.invalid (.notASource .path)) ∧
    ((Compiler.ansi .explicitOnly).compile (.select columnQuery) {}).1.map (fun _ => ()) =
      .error (.unresolved .path .relational) ∧
    (SqlError.invalid (.notASource .path)).message ≠
      (SqlError.unresolved .path .relational).message := by
  refine ⟨rfl, ?_, by decide⟩
  decide +kernel

end SqlCompose
