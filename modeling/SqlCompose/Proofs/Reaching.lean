import SqlCompose.Proofs.Listing

/-!
# SqlCompose.Proofs.Reaching -- the places where expressions are resolved

While a statement is resolved its expressions are reached one after the other, each
in a session and inside some scopes. What is said of a place here is what a scope
around it shows, which tables the clause of that scope lists, and that the chain of
scopes is as deep as the sub-selects are nested. Every step to another expression
keeps this, so it holds wherever a statement gets to. It would say little if a
statement got nowhere: `exists_reaches` shows that it gets to every expression that
it contains, so that what holds of all places holds of all parts of a statement.
-/

namespace SqlCompose

open Compose

variable {base : Context} {model : Option DataModel}

/-! ## Places -/

/-- What a statement or a sub-select selects from or writes to: its target, the
sources that are bound for it, and the text of the clause that lists them. -/
structure Frame where
  target : RelationalTarget
  sources : List BoundSource
  clause : String

/-- Where an expression is resolved. The frames belong to the current scope and to
the enclosing ones, innermost first. -/
structure Place where
  enclosing : List Scope
  session : Session
  frames : List Frame

namespace Place

/-- The context of a place. -/
def context (base : Context) (p : Place) : Context := base.within p.enclosing

theorem registry_isPlain (hplain : base.registry.IsPlain) (p : Place) :
    (p.context base).registry.IsPlain := hplain

/-- The scopes of a place, innermost first. -/
def chain (p : Place) : List Scope := p.session.scope :: p.enclosing

/-- The place later on in the same scopes. -/
def after (p : Place) (s : Session) : Place := { p with session := s }

/-- The place inside a sub-select. -/
def inside (p : Place) (mode : AliasMode) (target : RelationalTarget) (clause : String) : Place where
  enclosing := p.chain
  session := { p.session with scope := (Scope.inside p.chain .statement).seed mode target }
  frames := ⟨target, (Scope.inside p.chain .statement).seedSources mode target, clause⟩ :: p.frames

end Place

/-- From one place, at which some expressions are resolved in order, an expression
is reached at another place: as one of them, as an operand, or in a sub-select. -/
inductive Reaches (base : Context) :
    Place → List Expression → Place → Expression → Prop
  | here {p : Place} {e : Expression} {rest : List Expression} : Reaches base p (e :: rest) p e
  | later {p q : Place} {e x : Expression} {rest : List Expression} {text : String} {t : Session} :
      e.toSql.Yields (p.context base) p.session text t →
        Reaches base (p.after t) rest q x → Reaches base p (e :: rest) q x
  | operand {p q : Place} {e x : Expression} {rest : List Expression} :
      Reaches base p (e.operands base.dialect) q x → Reaches base p (e :: rest) q x
  /-- The clause of a sub-select is resolved before its operands are finished. -/
  | query {p q : Place} {select : SelectQuery} {x : Expression} {rest : List Expression}
      {source : Source} {clause : String} {t : Session} :
      select.source.source? base.model = some source →
        source.resolveSql.Yields
          ((p.inside base.aliasMode source.target clause).context base)
          (p.inside base.aliasMode source.target clause).session clause t →
        Reaches base (p.inside base.aliasMode source.target clause)
          (select.operands source.target.joins) q x →
        Reaches base p (.query select :: rest) q x

/-! ## Sub-selects -/

theorem Selection.runs_all (selections : List Selection) {ctx : Context} {s t : Session}
    {texts : List String} (h : (Selection.allToSql selections).Yields ctx s texts t) :
    ∃ texts', Runs ctx s (selections.map Selection.expr) texts' t := by
  induction selections generalizing s texts with
  | nil =>
    obtain ⟨_, rfl⟩ := yields_pure.mp h
    exact ⟨[], .nil⟩
  | cons selection rest ih =>
    obtain ⟨expr, aliasName⟩ := selection
    rw [Selection.allToSql] at h
    obtain ⟨_, u, hone, h⟩ := yields_bind.mp h
    obtain ⟨_, _, hrest, h⟩ := yields_bind.mp h
    obtain ⟨_, rfl⟩ := yields_pure.mp h
    rw [Selection.toSql] at hone
    obtain ⟨sql, _, hsql, hone⟩ := yields_bind.mp hone
    obtain ⟨_, rfl⟩ := yields_pure.mp hone
    obtain ⟨texts', hruns⟩ := ih hrest
    exact ⟨sql :: texts', .cons hsql hruns⟩

theorem runs_projected {projection : Option Projection} {ctx : Context} {s t : Session}
    {columns : List ProjectedColumn} (h : (projectedColumns projection).Yields ctx s columns t) :
    ∃ texts, Runs ctx s (projectedExpressions projection) texts t := by
  cases projection with
  | none =>
    obtain ⟨_, rfl⟩ := yields_pure.mp h
    exact ⟨[], .nil⟩
  | some p =>
    obtain ⟨selections, aliasMode, converter⟩ := p
    simp only [projectedColumns, Projection.toColumns, yields_ofResult_bind, yields_aliasMode_bind,
      yields_sequence_bind] at h
    obtain ⟨_, _, h⟩ := h
    obtain ⟨_, _, hselections, hcolumns⟩ := yields_bind.mp h
    obtain ⟨_, rfl⟩ := yields_pure.mp hcolumns
    exact Selection.runs_all selections hselections

theorem runs_condition? {filter : Option Filter} {ctx : Context} {s t : Session}
    {sql : Option String} (h : (conditionSql filter).Yields ctx s sql t) :
    ∃ texts, Runs ctx s (filter.map Expression.filter).toList texts t := by
  cases filter with
  | none =>
    obtain ⟨_, rfl⟩ := yields_pure.mp h
    exact ⟨[], .nil⟩
  | some f =>
    obtain ⟨text, _, htext, h⟩ := yields_bind.mp h
    obtain ⟨_, rfl⟩ := yields_pure.mp h
    exact ⟨[text], .single htext⟩

theorem runs_order? {sort : Option SortOrder} {ctx : Context} {s t : Session}
    {sql : Option String} (h : (orderSql sort).Yields ctx s sql t) :
    ∃ texts, Runs ctx s (sort.map Expression.sort).toList texts t := by
  cases sort with
  | none =>
    obtain ⟨_, rfl⟩ := yields_pure.mp h
    exact ⟨[], .nil⟩
  | some o =>
    obtain ⟨text, _, htext, h⟩ := yields_bind.mp h
    obtain ⟨_, rfl⟩ := yields_pure.mp h
    exact ⟨[text], .single htext⟩

/-- A query whose target is bound resolves its clause and its operands. -/
theorem SelectQuery.runs_operands {ctx : Context} {s t : Session} (hplain : ctx.registry.IsPlain)
    {q : SelectQuery} {source : Source} {sources : List BoundSource} {rendered : RenderedSelect}
    (hsource : q.source.source? ctx.model = some source)
    (hshows : s.scope.Shows source.target sources) (hholds : s.scope.holds source.target = true)
    (hkeeps : ∀ e ∈ Join.conditions source.target.joins, e.toSql.Keeps ctx)
    (h : (q.renderFrom source).Yields ctx s rendered t) :
    ∃ clause u, source.resolveSql.Yields ctx s clause u ∧
      ∃ texts, Runs ctx s (q.operands source.target.joins) texts t := by
  rw [SelectQuery.renderFrom_eq] at h
  obtain ⟨_, _, h⟩ := yields_ofResult_bind.mp h
  obtain ⟨clause, u, hclause, h⟩ := yields_bind.mp h
  obtain ⟨columns, _, hcolumns, h⟩ := yields_bind.mp h
  obtain ⟨condition, _, hcondition, h⟩ := yields_bind.mp h
  obtain ⟨order, v, horder, h⟩ := yields_bind.mp h
  -- cutting the text down to a page resolves nothing
  have hfinish : t = v := by
    obtain ⟨_, _, hwrite, hrest⟩ := yields_bind.mp h
    obtain ⟨_, rfl⟩ := yields_write.mp hwrite
    rw [yields_dialect_bind] at hrest
    obtain ⟨_, _, hpaged⟩ := yields_ofResult_bind.mp hrest
    exact (yields_pure.mp hpaged).2
  subst hfinish
  obtain ⟨_, _, _, _, hjoins⟩ := runs_clause hplain hsource hshows hholds hkeeps hclause
  obtain ⟨_, hselected⟩ := runs_projected hcolumns
  obtain ⟨_, hfiltered⟩ := runs_condition? hcondition
  obtain ⟨_, hordered⟩ := runs_order? horder
  exact ⟨clause, u, hclause, _, ((hjoins.append hselected).append hfiltered).append hordered⟩

/-! ## What is known of a place -/

/-- Targets are the sources of queries and nothing else, and those of queries are suitable. -/
def Expression.Suits (ok : RelationalTarget → Prop) (model : Option DataModel) : Expression → Prop
  | .target _ => False
  | .dataTarget _ => False
  | .query q => ∀ target, q.source.target? model = some target → ok target
  | _ => True

theorem Expression.Suits.isTarget {ok : RelationalTarget → Prop} {e : Expression}
    (h : e.Suits ok model) : e.isTarget = false := by
  cases e <;> first | rfl | cases h

/-- No join has an empty alias, which would stand for the target of the scope. -/
def RelationalTarget.KeepsRoot (target : RelationalTarget) : Prop :=
  ∀ j ∈ target.joins, j.aliasName ≠ some ""

/-- A frame tells what a scope inside some other ones binds, and what its clause lists. -/
structure Frame.Describes (d : Dialect) (frame : Frame) (scope : Scope) (depth : Nat) : Prop where
  shows : scope.Shows frame.target frame.sources
  sequence : scope.sequence = depth
  issued : ∀ a ∈ BoundSource.generated frame.sources, scope.Issued a
  nodup : (BoundSource.generated frame.sources).Nodup
  clause : ∃ ons, List.Forall₂ Join.IsCondition frame.target.joins ons ∧
    frame.clause = sqlText d (frame.target.clauseTokens (BoundSource.listed frame.sources) ons)

/-- Frames tell about scopes, one about each, and all of them have some property. -/
inductive Nest (d : Dialect) (P : Frame → Prop) : List Frame → List Scope → Prop
  | nil : Nest d P [] []
  | cons {frame : Frame} {frames : List Frame} {scope : Scope} {outer : List Scope} :
      frame.Describes d scope outer.length → P frame → Nest d P frames outer →
        Nest d P (frame :: frames) (scope :: outer)

namespace Nest

variable {d : Dialect} {P : Frame → Prop} {frames : List Frame} {chain : List Scope}

theorem property (h : Nest d P frames chain) : ∀ frame ∈ frames, P frame := by
  induction h with
  | nil => simp
  | cons _ hframe _ ih => exact List.forall_mem_cons.mpr ⟨hframe, ih⟩

/-- All clauses list what the names of their sources are bound to. -/
theorem clauses (h : Nest d P frames chain) :
    ∀ frame ∈ frames, ∃ ons, List.Forall₂ Join.IsCondition frame.target.joins ons ∧
      frame.clause =
        sqlText d (frame.target.clauseTokens (BoundSource.listed frame.sources) ons) := by
  induction h with
  | nil => simp
  | cons hframe _ _ ih => exact List.forall_mem_cons.mpr ⟨hframe.clause, ih⟩

theorem countP_statement (h : Nest d P frames chain) :
    (chain.countP fun s => s.kind == .statement) = chain.length := by
  rw [List.countP_eq_length]
  induction h with
  | nil => simp
  | cons hframe _ _ ih =>
    refine List.forall_mem_cons.mpr ⟨?_, ih⟩
    rw [hframe.shows.statement]
    rfl

/-- A key is looked up in one frame after the other. -/
theorem findBinding_eq (h : Nest d P frames chain) (k : String) :
    findBinding k true chain = frames.findSome? fun frame => BoundSource.find k frame.sources := by
  induction h with
  | nil => rfl
  | cons hframe _ _ ih =>
    rw [findBinding, hframe.shows.lookup, hframe.shows.statement, List.findSome?_cons]
    cases BoundSource.find k _ with
    | none => exact ih
    | some b => rfl

end Nest

/-! ## Steps and runs -/

section Runs

variable {ok : RelationalTarget → Prop} {P : Frame → Prop} {p q : Place} {es : List Expression}
  {x : Expression} {source : Source}

/-- The frame of a target that is bound in a fresh scope tells about the scope. -/
theorem Frame.describes_seed {ctx : Context} {s t : Session} (scope : Scope)
    (hplain : ctx.registry.IsPlain) (hkind : scope.kind = .statement) (hempty : scope.bindings = [])
    {e : Expression} {clause : String} (hsource : e.source? ctx.model = some source)
    (hroot : source.target.KeepsRoot)
    (hkeeps : ∀ c ∈ Join.conditions source.target.joins, c.toSql.Keeps ctx)
    (hclause : source.resolveSql.Yields ctx
      { s with scope := scope.seed ctx.aliasMode source.target } clause t) :
    (⟨source.target, scope.seedSources ctx.aliasMode source.target, clause⟩ : Frame).Describes
        ctx.dialect (scope.seed ctx.aliasMode source.target) scope.sequence ∧
      (scope.seed ctx.aliasMode source.target).holds source.target = true := by
  have hvalid : source.target.validate = .ok () := ((yields_resolveText hplain).mp hclause).1
  have hshows : (scope.seed ctx.aliasMode source.target).Shows source.target _ :=
    Scope.shows_seed hkind hempty
  have hholds : (scope.seed ctx.aliasMode source.target).holds source.target = true :=
    Scope.holds_seed hkind hempty hvalid hroot
  have hfresh : scope.holds source.target = false := by
    rw [Scope.holds, hempty]
    rfl
  obtain ⟨ons, _, hconditions, htext, _⟩ :=
    runs_clause hplain hsource hshows hholds hkeeps hclause
  exact ⟨⟨hshows, Scope.sequence_seed _, fun a ha => Scope.issued_seedSources hfresh ha,
    Scope.nodup_seedSources _ _ _, ons, hconditions, htext⟩, hholds⟩

/-- What holds of a place and of the expressions that are resolved there: the frames
tell about the scopes, targets are suitable sources, and resolving succeeds. -/
structure Sound (base : Context) (ok : RelationalTarget → Prop) (P : Frame → Prop)
    (p : Place) (es : List Expression) : Prop where
  nest : Nest base.dialect P p.frames p.chain
  suits : ∀ y, Contains base.dialect base.model es y → y.Suits ok base.model
  runs : ∃ texts u, Runs (p.context base) p.session es texts u

theorem keeps_of_suits (hplain : base.registry.IsPlain)
    (hsuits : ∀ y, Contains base.dialect base.model es y → y.Suits ok base.model) {e : Expression}
    (he : e ∈ es) (p : Place) : e.toSql.Keeps (p.context base) := by
  have htargets : ∀ y, Contains (p.context base).dialect base.model [e] y → y.isTarget = false :=
    fun y hy => (hsuits y (hy.of_mem he)).isTarget
  exact Expression.keeps (p.registry_isPlain hplain) e htargets

/-- The first expression is resolved where it stands. -/
theorem Sound.yields {e : Expression} (h : Sound base ok P p (e :: es)) :
    ∃ text t, e.toSql.Yields (p.context base) p.session text t := by
  obtain ⟨_, _, hruns⟩ := h.runs
  cases hruns with
  | cons hrun _ => exact ⟨_, _, hrun⟩

theorem Sound.later (hplain : base.registry.IsPlain) {e : Expression} {text : String} {t : Session}
    (h : Sound base ok P p (e :: es)) (hrun : e.toSql.Yields (p.context base) p.session text t) :
    Sound base ok P (p.after t) es := by
  have hscope : t.scope = p.session.scope :=
    keeps_of_suits hplain h.suits List.mem_cons_self p hrun
  obtain ⟨_, _, hruns⟩ := h.runs
  cases hruns with
  | cons hrun' hrest =>
    obtain ⟨_, rfl⟩ := hrun.unique hrun'
    refine ⟨?_, fun y hy => h.suits y (.later hy), _, _, hrest⟩
    show Nest base.dialect P p.frames (t.scope :: p.enclosing)
    rw [hscope]
    exact h.nest

theorem Sound.operand (hplain : base.registry.IsPlain) {e : Expression}
    (h : Sound base ok P p (e :: es)) : Sound base ok P p (e.operands base.dialect) := by
  refine ⟨h.nest, fun y hy => h.suits y (.operand hy), ?_⟩
  obtain ⟨text, t, hrun⟩ := h.yields
  cases he : e.isCompound with
  | false =>
    rw [Expression.operands_eq_nil he]
    exact ⟨[], _, .nil⟩
  | true =>
    obtain ⟨texts, hruns⟩ := Expression.runs_operands (p.registry_isPlain hplain) he hrun
    exact ⟨texts, t, hruns⟩

theorem Sound.query (hplain : base.registry.IsPlain) (hroot : ∀ target, ok target → target.KeepsRoot)
    (hP : ∀ chain target clause, ok target → target.validate = .ok () →
      P ⟨target, (Scope.inside chain .statement).seedSources base.aliasMode target, clause⟩)
    {select : SelectQuery} {clause : String} {t : Session}
    (hsource : select.source.source? base.model = some source)
    (hclause : source.resolveSql.Yields
      ((p.inside base.aliasMode source.target clause).context base)
      (p.inside base.aliasMode source.target clause).session clause t)
    (h : Sound base ok P p (.query select :: es)) :
    Sound base ok P (p.inside base.aliasMode source.target clause)
      (select.operands source.target.joins) := by
  have htarget := target?_of_source? hsource
  have hok : ok source.target := h.suits _ .here source.target htarget
  have hsuits : ∀ y, Contains base.dialect base.model (select.operands source.target.joins) y →
      y.Suits ok base.model := fun y hy => h.suits y (.query htarget hy)
  have hkeeps : ∀ c ∈ Join.conditions source.target.joins,
      c.toSql.Keeps ((p.inside base.aliasMode source.target clause).context base) := by
    intro c hc
    refine keeps_of_suits hplain hsuits ?_ _
    simp only [SelectQuery.operands, List.mem_append]
    exact .inl (.inl (.inl hc))
  have hinner := (p.inside base.aliasMode source.target clause).registry_isPlain hplain
  obtain ⟨hframe, hholds⟩ := Frame.describes_seed (Scope.inside p.chain .statement) hinner rfl rfl
    hsource (hroot _ hok) hkeeps hclause
  -- a scope is numbered by the statements around it, which are the frames further out
  have hsequence : (Scope.inside p.chain .statement).sequence = p.chain.length :=
    h.nest.countP_statement
  rw [hsequence] at hframe
  have hvalid : source.target.validate = .ok () := ((yields_resolveText hinner).mp hclause).1
  refine ⟨.cons hframe (hP _ _ _ hok hvalid) h.nest, hsuits, ?_⟩
  obtain ⟨text, u, hrun⟩ := h.yields
  obtain ⟨_, _, source', rendered, v, _, hsource', hrendered, _, _⟩ :=
    (yields_query (p.registry_isPlain hplain)).mp hrun
  obtain rfl : source = source' := Option.some.inj (hsource.symm.trans hsource')
  obtain ⟨_, _, _, texts, hruns⟩ :=
    SelectQuery.runs_operands hinner hsource hframe.shows hholds hkeeps hrendered
  exact ⟨texts, v, hruns⟩

/-- Wherever an expression is reached, the frames tell about the scopes there, and the
expression is resolved with success. -/
theorem Reaches.sound (hplain : base.registry.IsPlain)
    (hroot : ∀ target, ok target → target.KeepsRoot)
    (hP : ∀ chain target clause, ok target → target.validate = .ok () →
      P ⟨target, (Scope.inside chain .statement).seedSources base.aliasMode target, clause⟩)
    (hreach : Reaches base p es q x) (h : Sound base ok P p es) :
    Nest base.dialect P q.frames q.chain ∧
      ∃ text t, x.toSql.Yields (q.context base) q.session text t := by
  induction hreach with
  | here => exact ⟨h.nest, h.yields⟩
  | later hrun _ ih => exact ih (h.later hplain hrun)
  | operand _ ih => exact ih (h.operand hplain)
  | query hsource hclause _ ih => exact ih (h.query hplain hroot hP hsource hclause)

/-- Whatever expressions contain is reached: what is proved of the places that are reached leaves
out no operand and no sub-select. -/
theorem exists_reaches (hplain : base.registry.IsPlain)
    (hroot : ∀ target, ok target → target.KeepsRoot)
    (hP : ∀ chain target clause, ok target → target.validate = .ok () →
      P ⟨target, (Scope.inside chain .statement).seedSources base.aliasMode target, clause⟩)
    (hcontains : Contains base.dialect base.model es x) (h : Sound base ok P p es) :
    ∃ q, Reaches base p es q x := by
  -- on the way down to the expression: a run takes each of its steps
  induction hcontains generalizing p with
  | here => exact ⟨p, .here⟩
  | later _ ih =>
    obtain ⟨text, t, hrun⟩ := h.yields
    obtain ⟨q, hreach⟩ := ih (h.later hplain hrun)
    exact ⟨q, .later hrun hreach⟩
  | operand _ ih =>
    obtain ⟨q, hreach⟩ := ih (h.operand hplain)
    exact ⟨q, .operand hreach⟩
  | query htarget _ ih =>
    obtain ⟨text, u, hrun⟩ := h.yields
    obtain ⟨_, _, source, rendered, v, _, hsource, hrendered, _, _⟩ :=
      (yields_query (p.registry_isPlain hplain)).mp hrun
    obtain rfl := Option.some.inj (htarget.symm.trans (target?_of_source? hsource))
    rw [SelectQuery.renderFrom_eq] at hrendered
    obtain ⟨_, _, hrendered⟩ := yields_ofResult_bind.mp hrendered
    obtain ⟨clause, t, hclause, _⟩ := yields_bind.mp hrendered
    obtain ⟨q, hreach⟩ := ih (h.query hplain hroot hP hsource hclause)
    exact ⟨q, .query hsource hclause hreach⟩

end Runs

/-! ## Statements -/

/-- What a statement writes to. -/
def Statement.written : Statement → Option Expression
  | .select _ => none
  | .insert s => some s.target
  | .update s => some s.target
  | .delete s => some s.target

/-- The expressions of a statement. -/
def Statement.expressions : Statement → List Expression
  | .select q => [.query q]
  | .insert s => s.values.map Assignment.value
  | .update s => s.assignments.map Assignment.value ++ (s.filter.map Expression.filter).toList
  | .delete s => (s.filter.map Expression.filter).toList

/-- Where a statement starts to resolve its operands. A query binds its target in the
outermost scope; what is written to has no alias. -/
inductive Statement.Starts (base : Context) (s : Session) :
    Statement → Place → List Expression → Prop
  | select {q : SelectQuery} {source : Source} {clause : String} {t : Session} :
      q.source.source? base.model = some source →
        source.resolveSql.Yields base
          { s with scope := s.scope.seed base.aliasMode source.target } clause t →
        Statement.Starts base s (.select q)
          ⟨base.enclosing, { s with scope := s.scope.seed base.aliasMode source.target },
            [⟨source.target, s.scope.seedSources base.aliasMode source.target, clause⟩]⟩
          (q.operands source.target.joins)
  | written {st : Statement} {e : Expression} {source : Source} :
      st.written = some e → e.source? base.model = some source →
        Statement.Starts base s st
          ⟨base.enclosing, { s with scope := s.scope.seedUnaliased base.aliasMode source.target },
            [⟨source.target, s.scope.sources base.aliasMode source.target none,
              sqlText base.dialect [.qualified source.target.schema source.target.table]⟩]⟩
          st.expressions

theorem yields_assignedColumn {ctx : Context} {s t : Session} {p : Path} {column : String}
    (h : (assignedColumn p).Yields ctx s column t) : t = s := by
  unfold assignedColumn at h
  obtain ⟨_, _, h⟩ := yields_ofResult_bind.mp h
  split at h
  · exact absurd h yields_refuse
  · rw [yields_lookup_bind] at h
    exact (yields_column.mp h).2

/-- A value is resolved as an expression. -/
theorem runs_assignedValue {ctx : Context} {s t : Session} {e : Expression} {text : String}
    (h : (assignedValue e).Yields ctx s text t) :
    ∃ sql, e.toSql.Yields ctx s sql t := by
  obtain ⟨sql, _, hsql, hpure⟩ := yields_bind.mp h
  obtain ⟨_, rfl⟩ := yields_pure.mp hpure
  exact ⟨sql, hsql⟩

/-- In an assignment only the value is resolved. -/
theorem runs_assignment {ctx : Context} {s t : Session} {a : Assignment} {text : String}
    (h : (assignment a).Yields ctx s text t) :
    ∃ sql, a.value.toSql.Yields ctx s sql t := by
  obtain ⟨_, _, hcolumn, hrest⟩ := yields_bind.mp h
  obtain ⟨_, _, hvalue, hwrite⟩ := yields_bind.mp hrest
  obtain ⟨_, rfl⟩ := yields_write.mp hwrite
  rw [yields_assignedColumn hcolumn] at hvalue
  exact runs_assignedValue hvalue

/-- Where something is done for each assignment that resolves its value, the values
are resolved in order. -/
theorem runs_values {ctx : Context} {s t : Session} {f : Assignment → Compose String}
    (hf : ∀ a s text t, (f a).Yields ctx s text t →
      ∃ sql, a.value.toSql.Yields ctx s sql t)
    {assignments : List Assignment} {texts : List String}
    (h : (assignments.mapM f).Yields ctx s texts t) :
    ∃ texts', Runs ctx s (assignments.map Assignment.value) texts' t := by
  induction assignments generalizing s texts with
  | nil =>
    obtain ⟨_, rfl⟩ := yields_pure.mp h
    exact ⟨[], .nil⟩
  | cons a rest ih =>
    rw [List.mapM_cons] at h
    obtain ⟨_, _, hvalue, hothers⟩ := yields_bind.mp h
    obtain ⟨_, _, hrest, hpure⟩ := yields_bind.mp hothers
    obtain ⟨_, rfl⟩ := yields_pure.mp hpure
    obtain ⟨sql, hsql⟩ := hf _ _ _ _ hvalue
    obtain ⟨texts', hruns⟩ := ih hrest
    exact ⟨sql :: texts', .cons hsql hruns⟩

theorem yields_assignedColumns {ctx : Context} {s t : Session} {assignments : List Assignment}
    {columns : List String}
    (h : (assignments.mapM fun a => assignedColumn a.column).Yields ctx s columns t) : t = s := by
  induction assignments generalizing s columns with
  | nil => exact (yields_pure.mp h).2
  | cons a rest ih =>
    rw [List.mapM_cons] at h
    obtain ⟨_, _, hcolumn, hothers⟩ := yields_bind.mp h
    obtain ⟨_, _, hrest, hpure⟩ := yields_bind.mp hothers
    obtain ⟨_, rfl⟩ := yields_pure.mp hpure
    exact (ih hrest).trans (yields_assignedColumn hcolumn)

theorem runs_conditionClause {ctx : Context} {s t : Session} {filter : Option Filter}
    {tokens : List Token} (h : (conditionClause filter).Yields ctx s tokens t) :
    ∃ texts, Runs ctx s (filter.map Expression.filter).toList texts t := by
  cases filter with
  | none =>
    obtain ⟨_, rfl⟩ := yields_pure.mp h
    exact ⟨[], .nil⟩
  | some f =>
    obtain ⟨text, _, htext, h⟩ := yields_bind.mp h
    obtain ⟨_, rfl⟩ := yields_pure.mp h
    exact ⟨[text], .single htext⟩

/-- A table that is written to is bound without an alias. -/
theorem yields_writtenTable {ctx : Context} {s t : Session} (hplain : ctx.registry.IsPlain)
    {e : Expression} {token : Token} (h : (writtenTable e).Yields ctx s token t) :
    ∃ source, e.source? ctx.model = some source ∧
      t = { s with scope := s.scope.seedUnaliased ctx.aliasMode source.target } := by
  obtain ⟨source, _, hfound, hrest⟩ := yields_bind.mp h
  obtain ⟨_, hsource, rfl⟩ := (yields_toSource hplain).mp hfound
  obtain ⟨_, _, hseed, hpure⟩ := yields_bind.mp hrest
  obtain rfl := yields_updateScope.mp hseed
  exact ⟨source, hsource, (yields_pure.mp hpure).2⟩

/-- A valid statement that writes to a table goes on once the table is bound. -/
theorem yields_written_bind {ctx : Context} {s t : Session} (hplain : ctx.registry.IsPlain)
    {valid : Except SqlError Unit} {e : Expression} {rest : Token → Compose String}
    {rendered : RenderedSelect}
    (h : ((ofResult valid >>= fun _ => writtenTable e >>= rest) >>= fun sql =>
      pure (⟨sql, []⟩ : RenderedSelect)).Yields ctx s rendered t) :
    valid = .ok () ∧ ∃ source table sql, e.source? ctx.model = some source ∧
      (rest table).Yields ctx
        { s with scope := s.scope.seedUnaliased ctx.aliasMode source.target } sql t := by
  obtain ⟨sql, _, hrender, hpure⟩ := yields_bind.mp h
  obtain ⟨_, rfl⟩ := yields_pure.mp hpure
  obtain ⟨_, hvalid, hrender⟩ := yields_ofResult_bind.mp hrender
  obtain ⟨table, _, htable, hrest⟩ := yields_bind.mp hrender
  obtain ⟨source, hsource, rfl⟩ := yields_writtenTable hplain htable
  exact ⟨hvalid, source, table, sql, hsource, hrest⟩

/-- A statement that writes to a table resolves its expressions once the table is bound. -/
theorem Statement.runs_written {ctx : Context} {s t : Session} (hplain : ctx.registry.IsPlain)
    {st : Statement} {e : Expression} {rendered : RenderedSelect} (hwritten : st.written = some e)
    (h : st.rendered.Yields ctx s rendered t) :
    ∃ source texts, e.source? ctx.model = some source ∧
      (∃ verb, validateWritten verb e = .ok ()) ∧
      Runs ctx
        { s with scope := s.scope.seedUnaliased ctx.aliasMode source.target } st.expressions texts
        t := by
  cases st with
  | select q => cases hwritten
  | insert insert =>
    obtain rfl := Option.some.inj hwritten
    obtain ⟨hvalid, source, _, _, hsource, hrender⟩ := yields_written_bind hplain h
    obtain ⟨_, _, hcolumns, hrender⟩ := yields_bind.mp hrender
    obtain ⟨_, _, hvalues, hwrite⟩ := yields_bind.mp hrender
    obtain ⟨_, rfl⟩ := yields_write.mp hwrite
    -- the columns are written first and leave the session as it is
    rw [yields_assignedColumns hcolumns] at hvalues
    obtain ⟨texts, hruns⟩ := runs_values (fun _ _ _ _ => runs_assignedValue) hvalues
    exact ⟨source, texts, hsource, ⟨"INSERT", (ok_then_iff.mp hvalid).1⟩, hruns⟩
  | update update =>
    obtain rfl := Option.some.inj hwritten
    obtain ⟨hvalid, source, _, _, hsource, hrender⟩ := yields_written_bind hplain h
    obtain ⟨_, _, hassignments, hrender⟩ := yields_bind.mp hrender
    obtain ⟨_, _, hcondition, hwrite⟩ := yields_bind.mp hrender
    obtain ⟨_, rfl⟩ := yields_write.mp hwrite
    obtain ⟨_, hruns⟩ := runs_values (fun _ _ _ _ => runs_assignment) hassignments
    obtain ⟨_, hfiltered⟩ := runs_conditionClause hcondition
    exact ⟨source, _, hsource, ⟨"UPDATE", (ok_then_iff.mp hvalid).1⟩, hruns.append hfiltered⟩
  | delete delete =>
    obtain rfl := Option.some.inj hwritten
    obtain ⟨hvalid, source, _, _, hsource, hrender⟩ := yields_written_bind hplain h
    obtain ⟨_, _, hcondition, hwrite⟩ := yields_bind.mp hrender
    obtain ⟨_, rfl⟩ := yields_write.mp hwrite
    obtain ⟨texts, hfiltered⟩ := runs_conditionClause hcondition
    exact ⟨source, texts, hsource, ⟨"DELETE", (ok_then_iff.mp hvalid).1⟩, hfiltered⟩

section Starts

variable {ok : RelationalTarget → Prop} {P : Frame → Prop} {p : Place} {es : List Expression}
  {streams : StreamStore} {rendered : RenderedSelect} {t : Session}

/-- A query starts with its target in the outermost scope. -/
theorem sound_select (hplain : base.registry.IsPlain) (houter : base.enclosing = [])
    (hroot : ∀ target, ok target → target.KeepsRoot)
    (hP : ∀ chain target clause, ok target → target.validate = .ok () →
      P ⟨target, (Scope.inside chain .statement).seedSources base.aliasMode target, clause⟩)
    {q : SelectQuery} (hstart : Statement.Starts base
      (Session.initial streams) (.select q) p es)
    (hsuits : ∀ y, Contains base.dialect base.model [.query q] y → y.Suits ok base.model)
    (hrun : q.renderOuter.Yields base (Session.initial streams) rendered t) :
    Sound base ok P p es := by
  cases hstart with
  | written hwritten _ => cases hwritten
  | select hsource hclause =>
    rename_i source clause u
    have htarget := target?_of_source? hsource
    have hok : ok source.target := hsuits _ .here source.target htarget
    have hoperands : ∀ y, Contains base.dialect base.model (q.operands source.target.joins) y →
        y.Suits ok base.model := fun y hy => hsuits y (.query htarget hy)
    have hbase : base.within base.enclosing = base := rfl
    -- the conditions are resolved before the operands are, in the same scope
    have hkeeps : ∀ c ∈ Join.conditions source.target.joins,
        c.toSql.Keeps base := by
      intro c hc
      rw [← hbase]
      refine keeps_of_suits hplain hoperands ?_ ⟨base.enclosing, Session.initial streams, []⟩
      simp only [SelectQuery.operands, List.mem_append]
      exact .inl (.inl (.inl hc))
    obtain ⟨hframe, hholds⟩ := Frame.describes_seed Scope.root hplain rfl rfl hsource
      (hroot _ hok) hkeeps hclause
    refine ⟨?_, hoperands, ?_⟩
    · show Nest base.dialect P _ (_ :: base.enclosing)
      rw [houter]
      exact .cons hframe (hP [] _ _ hok ((yields_resolveText hplain).mp hclause).1) .nil
    · obtain ⟨source', _, hsource', hrendered⟩ := (yields_renderOuter hplain).mp hrun
      obtain rfl : source = source' := Option.some.inj (hsource.symm.trans hsource')
      obtain ⟨_, _, _, texts, hruns⟩ :=
        SelectQuery.runs_operands hplain hsource hframe.shows hholds hkeeps hrendered
      exact ⟨texts, t, hruns⟩

/-- What is written to has no joins. -/
theorem joins_of_written {verb : String} {e : Expression} {source : Source}
    (hvalid : validateWritten verb e = .ok ()) (hsource : e.source? model = some source) :
    source.target.joins = [] := by
  have htarget := target?_of_source? hsource
  cases e with
  | target target =>
    obtain ⟨schema, table, aliasName, joins, entity⟩ := target
    rw [← Option.some.inj htarget]
    cases joins with
    | nil => rfl
    | cons j rest => cases hvalid
  | dataTarget target =>
    obtain ⟨entity, aliasName, joins⟩ := target
    rw [← Option.some.inj htarget]
    cases joins with
    | nil => rfl
    | cons j rest => cases hvalid
  | _ => cases hsource

/-- The frame of a table that is written to tells about its scope. -/
theorem Frame.describes_written {d : Dialect} {mode : AliasMode} {target : RelationalTarget}
    (hjoins : target.joins = []) :
    (⟨target, Scope.root.sources mode target none,
      sqlText d [.qualified target.schema target.table]⟩ : Frame).Describes d
        (Scope.root.seedUnaliased mode target) 0 := by
  have hsources : Scope.root.sources mode target none = [target.bound none] := by
    rw [Scope.sources, hjoins]
    rfl
  -- a table that is written to gets no alias, so none is generated for it
  have hgenerated : BoundSource.generated [target.bound none] = [] := by
    rw [BoundSource.generated_cons]
    show (if target.aliasName = none then none else none).toList ++ [] = _
    split <;> rfl
  have hfind : BoundSource.find (target.bound none).name [target.bound none] =
      some (target.rootBinding none) :=
    BoundSource.find_cons_of_last (target.bound none).name_mem_keys (List.forall_mem_nil _)
  refine ⟨⟨Scope.kind_bindTarget target none, fun k => ?_, ?_⟩, ?_, ?_, ?_, [], ?_, ?_⟩
  · rw [Scope.seedUnaliased, Scope.lookup_bindTarget]
    exact Option.or_none
  · rw [hsources, hjoins]
    rfl
  · rw [Scope.seedUnaliased, Scope.bindTarget_eq, hjoins]
    exact Scope.sequence_bindNames _
  · rw [hsources, hgenerated]
    exact List.forall_mem_nil _
  · rw [hsources, hgenerated]
    exact List.nodup_nil
  · rw [hjoins]
    exact .nil
  · rw [RelationalTarget.clauseTokens, hjoins, hsources, BoundSource.listed, List.map_singleton, hfind]
    rfl

/-- A statement that writes starts with its table in the outermost scope, without
joins and without an alias. -/
theorem sound_written (hplain : base.registry.IsPlain) (houter : base.enclosing = [])
    (hP : ∀ target clause, P ⟨target, Scope.root.sources base.aliasMode target none, clause⟩)
    {st : Statement} {e : Expression} (hwritten : st.written = some e)
    (hstart : Statement.Starts base (Session.initial streams) st p es)
    (hsuits : ∀ y, Contains base.dialect base.model st.expressions y → y.Suits ok base.model)
    (hrun : st.rendered.Yields base (Session.initial streams) rendered t) :
    Sound base ok P p es := by
  cases hstart with
  | select => cases hwritten
  | written hwritten' hsource =>
    rename_i e' source
    obtain rfl : e' = e := Option.some.inj (hwritten'.symm.trans hwritten)
    obtain ⟨source', texts, hsource', ⟨verb, hvalid⟩, hruns⟩ :=
      Statement.runs_written hplain hwritten hrun
    obtain rfl : source = source' := Option.some.inj (hsource.symm.trans hsource')
    refine ⟨?_, hsuits, texts, t, hruns⟩
    show Nest base.dialect P _ (_ :: base.enclosing)
    rw [houter]
    exact .cons (Frame.describes_written (joins_of_written hvalid hsource)) (hP _ _) .nil

end Starts

end SqlCompose
