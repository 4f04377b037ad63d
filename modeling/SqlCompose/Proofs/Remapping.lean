import SqlCompose.Proofs.Mapping
import SqlCompose.Proofs.Needs
import SqlCompose.Proofs.Statements
import SqlCompose.Proofs.Steps

/-!
# SqlCompose.Proofs.Remapping -- statements under another data model

Putting a statement together asks the data model about names of the statement only. So the
statement comes to the same, whether it is compiled or refused, under every model that
agrees on these names, and under the model that knows nothing else.
-/

namespace SqlCompose

open Compose

variable {base : Context} {names : List String}

/-! ## Every expression -/

/-- A data target is the same source in models that agree on its names. -/
theorem DataTarget.same_source (t : DataTarget) (h : t.names ⊆ names) (model : Option DataModel)
    (hagree : Agree names base.model model) :
    DataTarget.toSource t model = DataTarget.toSource t base.model := by
  have hmapped := hagree.mapped h
  obtain ⟨entity, aliasName, joins⟩ := t
  rw [DataTarget.toSource, DataTarget.toSource, hmapped]

theorem asks_filter (hplain : base.registry.IsPlain) {f : Filter}
    (h : (Filter.toTokens f).Asks base names) :
    (Expression.toSql (.filter f)).Asks base names := by
  rw [Expression.toSql]
  exact .resolveText hplain (.bind h fun tokens _ => .write tokens)

theorem asks_sort (hplain : base.registry.IsPlain) {s : SortOrder}
    (h : (SortOrder.toTerms s).Asks base names) :
    (Expression.toSql (.sort s)).Asks base names := by
  rw [Expression.toSql]
  exact .resolveText hplain (.bind h fun terms _ => .write _)

section Mutual

set_option linter.unusedSectionVars false

variable (hplain : base.registry.IsPlain)

include hplain

mutual

/-- An expression asks about its own names. -/
theorem Expression.asks (e : Expression) (h : e.names ⊆ names) :
    (Expression.toSql e).Asks base names := by
  cases e with
  | path p =>
    rw [Expression.toSql]
    exact .resolveText hplain (.path (h p.name_mem_names))
  | dataTarget t =>
    rw [Expression.toSql]
    refine .resolveText hplain (.bind (.source hplain (DataTarget.same_source t h)
      (DataTarget.asks t h)) fun s hs => ?_)
    exact .sourceSql hplain hs.2
  | target t =>
    rw [Expression.toSql]
    exact .resolveText hplain (.sourceText (RelationalTarget.asks t h))
  | filter f => exact asks_filter hplain (Filter.asks f h)
  | sort s => exact asks_sort hplain (SortOrder.asks s h)
  | function f =>
    rw [Expression.toSql]
    exact .resolveText hplain (FunctionCall.asks f h)
  | literal l =>
    rw [Expression.toSql]
    exact .literal hplain l
  | parameter p =>
    rw [Expression.toSql]
    exact .resolveText hplain (.addParameter p)
  | sql r =>
    rw [Expression.toSql]
    exact .resolveText hplain (.bind (.fill r _ _ _) fun out _ => .pure trivial)
  | query q =>
    rw [Expression.toSql]
    refine .resolveText hplain (.bind (SelectQuery.asks_source q h) fun s hs => ?_)
    exact .bind (.inStatement hs.known (SelectQuery.asks q h hs)) fun rendered _ => .pure trivial

theorem Expression.asks_all (es : List Expression) (h : Expression.allNames es ⊆ names) :
    (Expression.allToSql es).Asks base names := by
  cases es with
  | nil => exact .pure trivial
  | cons e rest =>
    rw [Expression.allNames, List.append_subset] at h
    rw [Expression.allToSql]
    refine .bind (Expression.asks e h.1) fun sql _ => ?_
    exact .bind (Expression.asks_all rest h.2) fun others _ => .pure trivial

/-- Finding a source asks about the names of its target. -/
theorem Expression.asks_source (e : Expression) (h : e.names ⊆ names) :
    (Expression.toSource e).AsksFor base names fun s => s.Asks base names := by
  cases e with
  | dataTarget t =>
    rw [Expression.toSource]
    exact .mono (.source hplain (DataTarget.same_source t h) (DataTarget.asks t h))
      fun s hs => hs.2
  | target t =>
    rw [Expression.toSource]
    exact .mono (.source hplain (fun _ _ => rfl) (RelationalTarget.asks t h)) fun s hs => hs.2
  | _ =>
    rw [Expression.toSource]
    · exact .no_source hplain
    all_goals simp

theorem Filter.asks (f : Filter) (h : f.names ⊆ names) : (Filter.toTokens f).Asks base names := by
  cases f with
  | nullTest negated operand =>
    rw [Filter.toTokens]
    exact .bind (Expression.asks operand h) fun sql _ => .pure trivial
  | compare op left right =>
    rw [Filter.names, List.append_subset] at h
    rw [Filter.toTokens]
    refine .bind (Expression.asks left h.1) fun l _ => ?_
    cases right.isNullLiteral with
    | true => exact .pure trivial
    | false => exact .bind (Expression.asks right h.2) fun r _ => .pure trivial
  | member negated left right =>
    rw [Filter.names, List.append_subset] at h
    rw [Filter.toTokens]
    refine .bind (Expression.asks left h.1) fun l _ => ?_
    exact .bind (Expression.asks right h.2) fun r _ => .pure trivial
  | between operand low high =>
    rw [Filter.names, List.append_subset, List.append_subset] at h
    rw [Filter.toTokens]
    refine .bind (Expression.asks operand h.1.1) fun o _ => ?_
    refine .bind (Expression.asks low h.1.2) fun l _ => ?_
    exact .bind (Expression.asks high h.2) fun u _ => .pure trivial
  | like operand text mode ignoreCase =>
    rw [Filter.toTokens]
    refine .bind (Expression.asks operand h) fun o _ => .bind .dialect fun d _ => ?_
    exact .bind (.literal hplain _) fun marker _ => .pure trivial
  | junction op children =>
    rw [Filter.toTokens]
    exact .bind (Filter.asks_all children h) fun inner _ => .pure trivial
  | not child =>
    rw [Filter.toTokens]
    exact .bind (Filter.asks child h) fun inner _ => .pure trivial
  | rows negated query =>
    rw [Filter.toTokens]
    exact .bind (Expression.asks query h) fun sql _ => .pure trivial

theorem Filter.asks_all (fs : List Filter) (h : Filter.allNames fs ⊆ names) :
    (Filter.allToTokens fs).Asks base names := by
  cases fs with
  | nil => exact .pure trivial
  | cons f rest =>
    rw [Filter.allNames, List.append_subset] at h
    rw [Filter.allToTokens]
    refine .bind (Filter.asks f h.1) fun tokens _ => ?_
    exact .bind (Filter.asks_all rest h.2) fun others _ => .pure trivial

theorem SortOrder.asks (s : SortOrder) (h : s.names ⊆ names) :
    (SortOrder.toTerms s).Asks base names := by
  cases s with
  | term expr direction =>
    rw [SortOrder.toTerms]
    exact .bind (Expression.asks expr h) fun sql _ => .pure trivial
  | composite terms =>
    rw [SortOrder.toTerms]
    exact SortOrder.asks_all terms h

theorem SortOrder.asks_all (sorts : List SortOrder) (h : SortOrder.allNames sorts ⊆ names) :
    (SortOrder.allToTerms sorts).Asks base names := by
  cases sorts with
  | nil => exact .pure trivial
  | cons s rest =>
    rw [SortOrder.allNames, List.append_subset] at h
    rw [SortOrder.allToTerms]
    refine .bind (SortOrder.asks s h.1) fun terms _ => ?_
    exact .bind (SortOrder.asks_all rest h.2) fun others _ => .pure trivial

theorem FunctionCall.asks (f : FunctionCall) (h : f.names ⊆ names) :
    (FunctionCall.toSql f).Asks base names := by
  obtain ⟨kind, args, distinct⟩ := f
  rw [FunctionCall.names, List.cons_subset] at h
  rw [FunctionCall.toSql]
  refine .bind (Expression.asks_all args h.2) fun texts _ => ?_
  exact .bind .dialect fun d _ => .pure trivial

theorem Join.asks (joins : List Join) (h : Join.allNames joins ⊆ names) :
    ∀ c ∈ Join.toConditions joins, ∀ x ∈ c, x.Asks base names := by
  cases joins with
  | nil => exact List.forall_mem_nil _
  | cons j rest =>
    rw [Join.allNames, List.append_subset] at h
    rw [Join.toConditions, List.forall_mem_cons]
    refine ⟨?_, Join.asks rest h.2⟩
    obtain ⟨kind, name, source, aliasName, on, entity⟩ := j
    intro x hx
    cases on with
    | none => cases hx
    | some f =>
      obtain rfl := Option.some.inj hx
      have hon : f.names ⊆ names := by
        rw [Join.names, List.append_subset] at h
        exact h.1.2
      exact .resolveText hplain (.bind (Filter.asks f hon) fun tokens _ => .write tokens)

theorem RelationalTarget.asks (t : RelationalTarget) (h : t.names ⊆ names) :
    (RelationalTarget.toSource t).Asks base names where
  known := by
    rw [RelationalTarget.target_toSource]
    exact RelationalTarget.isKnown_of_names h
  conditions := by
    obtain ⟨schema, table, aliasName, joins, entity⟩ := t
    rw [RelationalTarget.names, List.append_subset] at h
    exact Join.asks joins h.2

theorem DataTarget.asks (t : DataTarget) (h : t.names ⊆ names) :
    (DataTarget.toSource t base.model).Asks base names where
  known := by
    rw [DataTarget.target_toSource]
    exact DataTarget.isKnown_mapped _ h
  conditions := by
    obtain ⟨entity, aliasName, joins⟩ := t
    rw [DataTarget.names, List.append_subset] at h
    exact Join.asks joins h.2

theorem Selection.asks (s : Selection) (h : s.names ⊆ names) :
    (Selection.toSql s).Asks base names := by
  obtain ⟨expr, aliasName⟩ := s
  rw [Selection.names, List.append_subset] at h
  rw [Selection.toSql]
  exact .bind (Expression.asks expr h.2) fun sql _ => .pure trivial

theorem Selection.asks_all (selections : List Selection)
    (h : Selection.allNames selections ⊆ names) :
    (Selection.allToSql selections).Asks base names := by
  cases selections with
  | nil => exact .pure trivial
  | cons s rest =>
    rw [Selection.allNames, List.append_subset] at h
    rw [Selection.allToSql]
    refine .bind (Selection.asks s h.1) fun sql _ => ?_
    exact .bind (Selection.asks_all rest h.2) fun others _ => .pure trivial

theorem Projection.asks (p : Projection) (h : p.names ⊆ names) :
    (Projection.toColumns p).Asks base names := by
  obtain ⟨selections, aliasMode, converter⟩ := p
  rw [Projection.toColumns]
  refine .bind (.ofResult _) fun _ _ => .bind .aliasMode fun mode _ => .bind .sequence fun n _ => ?_
  exact .bind (Selection.asks_all selections h) fun sqls _ => .pure trivial

/-- A query asks about its names in a scope in which its source is bound. -/
theorem SelectQuery.asks (q : SelectQuery) (h : q.names ⊆ names) {s : Source}
    (hs : s.Asks base names) : (SelectQuery.renderFrom q s).Asks base names := by
  rw [SelectQuery.renderFrom_eq]
  rw [SelectQuery.names_eq, List.append_subset, List.append_subset, List.append_subset] at h
  obtain ⟨source, distinct, projection, filter, sort, limit, offset, lock⟩ := q
  obtain ⟨⟨⟨_, hprojection⟩, hfilter⟩, hsort⟩ := h
  refine .bind (.ofResult _) fun _ _ => .bind (.sourceSql hplain hs) fun from_ _ => ?_
  refine .bind (P := fun _ => True) ?_ fun columns _ => .bind (P := fun _ => True) ?_
    fun condition _ => .bind (P := fun _ => True) ?_ fun order _ => ?_
  · cases projection with
    | none => exact .pure trivial
    | some p => exact Projection.asks p hprojection
  · cases filter with
    | none => exact .pure trivial
    | some f => exact .bind (asks_filter hplain (Filter.asks f hfilter)) fun sql _ => .pure trivial
  · cases sort with
    | none => exact .pure trivial
    | some o => exact .bind (asks_sort hplain (SortOrder.asks o hsort)) fun sql _ => .pure trivial
  · exact .bind (.write _) fun sql _ => .bind .dialect fun d _ => .bind (.ofResult _)
      fun paged _ => .pure trivial

theorem SelectQuery.asks_source (q : SelectQuery) (h : q.names ⊆ names) :
    (SelectQuery.toSource q).AsksFor base names fun s => s.Asks base names := by
  obtain ⟨source, distinct, projection, filter, sort, limit, offset, lock⟩ := q
  rw [SelectQuery.toSource]
  rw [SelectQuery.names_eq, List.append_subset, List.append_subset, List.append_subset] at h
  exact Expression.asks_source source h.1.1.1

end

end Mutual

/-! ## Needs -/

section Needs

set_option linter.unusedSectionVars false

variable {model model' : Option DataModel} (hagree : Agree names model model')

include hagree

theorem Expression.keys_of_agree (e : Expression) (h : e.names ⊆ names) :
    e.keys model' = e.keys model := by
  cases e with
  | dataTarget t => rw [keys, keys, hagree.mapped h]
  | _ => rfl

mutual

/-- An expression needs the same in models that agree on its names. -/
theorem Expression.needs_of_agree (e : Expression) (h : e.names ⊆ names) :
    e.needs model' = e.needs model := by
  cases e with
  | path p => rfl
  | dataTarget t =>
    obtain ⟨entity, aliasName, joins⟩ := t
    rw [Expression.names, DataTarget.names, List.append_subset] at h
    exact Join.needs_of_agree joins h.2
  | target t =>
    obtain ⟨schema, table, aliasName, joins, entity⟩ := t
    rw [Expression.names, RelationalTarget.names, List.append_subset] at h
    exact Join.needs_of_agree joins h.2
  | filter f => exact Filter.needs_of_agree f h
  | sort s => exact SortOrder.needs_of_agree s h
  | function f =>
    obtain ⟨kind, args, distinct⟩ := f
    rw [Expression.names, FunctionCall.names, List.cons_subset] at h
    exact Expression.allNeeds_of_agree args h.2
  | literal l => rfl
  | parameter p => rfl
  | sql r => rfl
  | query q => exact SelectQuery.needs_of_agree q h

theorem Expression.allNeeds_of_agree (es : List Expression) (h : Expression.allNames es ⊆ names) :
    Expression.allNeeds model' es = Expression.allNeeds model es := by
  cases es with
  | nil => rfl
  | cons e rest =>
    rw [Expression.allNames, List.append_subset] at h
    rw [Expression.allNeeds, Expression.allNeeds, Expression.needs_of_agree e h.1,
      Expression.allNeeds_of_agree rest h.2]

theorem Filter.needs_of_agree (f : Filter) (h : f.names ⊆ names) :
    f.needs model' = f.needs model := by
  cases f with
  | nullTest negated operand => exact Expression.needs_of_agree operand h
  | compare op left right =>
    rw [Filter.names, List.append_subset] at h
    rw [Filter.needs, Filter.needs, Expression.needs_of_agree left h.1,
      Expression.needs_of_agree right h.2]
  | member negated left right =>
    rw [Filter.names, List.append_subset] at h
    rw [Filter.needs, Filter.needs, Expression.needs_of_agree left h.1,
      Expression.needs_of_agree right h.2]
  | between operand low high =>
    rw [Filter.names, List.append_subset, List.append_subset] at h
    rw [Filter.needs, Filter.needs, Expression.needs_of_agree operand h.1.1,
      Expression.needs_of_agree low h.1.2, Expression.needs_of_agree high h.2]
  | like operand text mode ignoreCase => exact Expression.needs_of_agree operand h
  | junction op children => exact Filter.allNeeds_of_agree children h
  | not child => exact Filter.needs_of_agree child h
  | rows negated query => exact Expression.needs_of_agree query h

theorem Filter.allNeeds_of_agree (fs : List Filter) (h : Filter.allNames fs ⊆ names) :
    Filter.allNeeds model' fs = Filter.allNeeds model fs := by
  cases fs with
  | nil => rfl
  | cons f rest =>
    rw [Filter.allNames, List.append_subset] at h
    rw [Filter.allNeeds, Filter.allNeeds, Filter.needs_of_agree f h.1,
      Filter.allNeeds_of_agree rest h.2]

theorem SortOrder.needs_of_agree (s : SortOrder) (h : s.names ⊆ names) :
    s.needs model' = s.needs model := by
  cases s with
  | term expr direction => exact Expression.needs_of_agree expr h
  | composite terms => exact SortOrder.allNeeds_of_agree terms h

theorem SortOrder.allNeeds_of_agree (sorts : List SortOrder)
    (h : SortOrder.allNames sorts ⊆ names) :
    SortOrder.allNeeds model' sorts = SortOrder.allNeeds model sorts := by
  cases sorts with
  | nil => rfl
  | cons s rest =>
    rw [SortOrder.allNames, List.append_subset] at h
    rw [SortOrder.allNeeds, SortOrder.allNeeds, SortOrder.needs_of_agree s h.1,
      SortOrder.allNeeds_of_agree rest h.2]

theorem Join.needs_of_agree (joins : List Join) (h : Join.allNames joins ⊆ names) :
    Join.allNeeds model' joins = Join.allNeeds model joins := by
  cases joins with
  | nil => rfl
  | cons j rest =>
    obtain ⟨kind, name, source, aliasName, on, entity⟩ := j
    rw [Join.allNames, List.append_subset] at h
    rw [Join.allNeeds, Join.allNeeds, Join.needs_of_agree rest h.2]
    cases on with
    | none => rfl
    | some f =>
      have hon : f.names ⊆ names := by
        rw [Join.names, List.append_subset] at h
        exact h.1.2
      rw [Join.needs, Join.needs, Filter.needs_of_agree f hon]

theorem Selection.allNeeds_of_agree (selections : List Selection)
    (h : Selection.allNames selections ⊆ names) :
    Selection.allNeeds model' selections = Selection.allNeeds model selections := by
  cases selections with
  | nil => rfl
  | cons s rest =>
    obtain ⟨expr, aliasName⟩ := s
    rw [Selection.allNames, List.append_subset, Selection.names, List.append_subset] at h
    rw [Selection.allNeeds, Selection.allNeeds, Selection.needs, Selection.needs,
      Expression.needs_of_agree expr h.1.2, Selection.allNeeds_of_agree rest h.2]

/-- A query binds the same keys, and its parts need the same. -/
theorem SelectQuery.needs_of_agree (q : SelectQuery) (h : q.names ⊆ names) :
    q.needs model' = q.needs model := by
  rw [SelectQuery.names_eq, List.append_subset, List.append_subset, List.append_subset] at h
  rw [SelectQuery.needs_eq, SelectQuery.needs_eq, Expression.keys_of_agree hagree q.source h.1.1.1,
    SelectQuery.innerNeeds, SelectQuery.innerNeeds]
  obtain ⟨source, distinct, projection, filter, sort, limit, offset, lock⟩ := q
  obtain ⟨⟨⟨hsource, hprojection⟩, hfilter⟩, hsort⟩ := h
  have hsource := Expression.needs_of_agree source hsource
  have hprojection : projectionNeeds model' projection = projectionNeeds model projection := by
    cases projection with
    | none => rfl
    | some p =>
      obtain ⟨selections, aliasMode, converter⟩ := p
      rw [projectionNeeds, projectionNeeds, Projection.needs, Projection.needs,
        Selection.allNeeds_of_agree selections hprojection]
  have hfilter : conditionNeeds model' filter = conditionNeeds model filter := by
    cases filter with
    | none => rfl
    | some f => exact Filter.needs_of_agree f hfilter
  have hsort : orderNeeds model' sort = orderNeeds model sort := by
    cases sort with
    | none => rfl
    | some o => exact SortOrder.needs_of_agree o hsort
  rw [hsource, hprojection, hfilter, hsort]

end

end Needs

/-! ## Statements -/

section Statements

variable (hplain : base.registry.IsPlain)

include hplain

/-- A query of its own binds its source in the scope that it is put together in. -/
theorem SelectQuery.asks_outer (q : SelectQuery) (h : q.names ⊆ names) :
    q.renderOuter.Asks base names := by
  have hsource : q.source.names ⊆ names := by
    rw [SelectQuery.names_eq, List.append_subset, List.append_subset, List.append_subset] at h
    exact h.1.1.1
  refine .bind (Expression.asks_source hplain q.source hsource) fun s hs => ?_
  exact .bind (.seed hs.known) fun _ _ => SelectQuery.asks hplain q h hs

theorem asks_writtenTable (e : Expression) (h : e.names ⊆ names) :
    (writtenTable e).Asks base names := by
  refine .bind (Expression.asks_source hplain e h) fun s hs => ?_
  exact .bind (.seedUnaliased hs.known) fun _ _ => .pure trivial

omit hplain in
theorem asks_assignedColumn (p : Path) (h : p.names ⊆ names) :
    (assignedColumn p).Asks base names := by
  refine .bind (.ofResult _) fun _ _ => ?_
  split
  · exact .refuse _
  · exact .bind (.findBinding Scope.rootKey false) fun b hb => .column hb (h p.name_mem_names)

theorem asks_assignedValue (e : Expression) (h : e.names ⊆ names) :
    (assignedValue e).Asks base names :=
  .bind (Expression.asks hplain e h) fun _ _ => .pure trivial

theorem asks_conditionClause (filter : Option Filter) (h : conditionNames filter ⊆ names) :
    (conditionClause filter).Asks base names := by
  cases filter with
  | none => exact .pure trivial
  | some f => exact .bind (Expression.asks hplain (.filter f) h) fun sql _ => .pure trivial

omit hplain in
/-- The columns of a statement that changes rows ask about their names. -/
theorem asks_columns {assignments : List Assignment}
    (h : assignments.flatMap Assignment.names ⊆ names) :
    (assignments.mapM fun a => assignedColumn a.column).Asks base names :=
  .mapM fun a ha => asks_assignedColumn a.column fun _ hname =>
    h (List.mem_flatMap.mpr ⟨a, ha, List.mem_append_left _ hname⟩)

theorem asks_values {assignments : List Assignment}
    (h : assignments.flatMap Assignment.names ⊆ names) :
    (assignments.mapM fun a => assignedValue a.value).Asks base names :=
  .mapM fun a ha => asks_assignedValue hplain a.value fun _ hname =>
    h (List.mem_flatMap.mpr ⟨a, ha, List.mem_append_right _ hname⟩)

theorem asks_assignments {assignments : List Assignment}
    (h : assignments.flatMap Assignment.names ⊆ names) :
    (assignments.mapM assignment).Asks base names := by
  refine .mapM fun a ha => ?_
  have ha : a.names ⊆ names := fun _ hname => h (List.mem_flatMap.mpr ⟨a, ha, hname⟩)
  rw [Assignment.names, List.append_subset] at ha
  refine .bind (asks_assignedColumn a.column ha.1) fun column _ => ?_
  exact .bind (asks_assignedValue hplain a.value ha.2) fun value _ => .write _

/-- The text of a statement that changes rows asks about the names of the statement. -/
theorem InsertStatement.asks (s : InsertStatement) (h : (Statement.insert s).names ⊆ names) :
    s.render.Asks base names := by
  rw [Statement.names, List.append_subset] at h
  refine .bind (.ofResult _) fun _ _ => .bind (asks_writtenTable hplain s.target h.1) fun table _ => ?_
  exact .bind (asks_columns h.2) fun columns _ => .bind (asks_values hplain h.2) fun values _ =>
    .write _

theorem UpdateStatement.asks (s : UpdateStatement) (h : (Statement.update s).names ⊆ names) :
    s.render.Asks base names := by
  rw [Statement.names, List.append_subset, List.append_subset] at h
  refine .bind (.ofResult _) fun _ _ =>
    .bind (asks_writtenTable hplain s.target h.1.1) fun table _ => ?_
  exact .bind (asks_assignments hplain h.1.2) fun assignments _ =>
    .bind (asks_conditionClause hplain s.filter h.2) fun condition _ => .write _

theorem DeleteStatement.asks (s : DeleteStatement) (h : (Statement.delete s).names ⊆ names) :
    s.render.Asks base names := by
  rw [Statement.names, List.append_subset] at h
  refine .bind (.ofResult _) fun _ _ => .bind (asks_writtenTable hplain s.target h.1) fun table _ => ?_
  exact .bind (asks_conditionClause hplain s.filter h.2) fun condition _ => .write _

end Statements

/-! ## Compiled statements -/

namespace Compiler

variable {c : Compiler} {model : Option DataModel}

/-- A statement of its own starts in a scope that was mapped from nothing. -/
theorem run_of_asks {α : Type} {x : Compose α} (hx : x.Asks c.context names)
    (hagree : Agree names c.model model) (streams : StreamStore) :
    ({ c with model := model } : Compiler).run x streams = c.run x streams := by
  obtain ⟨r, t, hleft, hright, _⟩ := @hx model hagree [] (Session.initial streams)
    Scope.knows_root (List.forall_mem_nil _)
  have hsame : x.outcome ({ c with model := model } : Compiler).context (Session.initial streams) =
      x.outcome c.context (Session.initial streams) := hright.trans hleft.symm
  rw [run_eq, run_eq, hsame]

theorem compileSelect_of_agree (hplain : c.context.registry.IsPlain) {q : SelectQuery}
    (hnames : q.names ⊆ names) (hagree : Agree names c.model model) :
    ({ c with model := model } : Compiler).compileSelect q = c.compileSelect q := by
  funext streams
  refine run_of_asks (.bind (SelectQuery.asks_outer hplain q hnames) fun rendered _ => ?_) hagree
    streams
  exact .bind (.prepare hplain _) fun statement _ => .pure trivial

/-- A statement comes to the same under every model that agrees on its names. -/
theorem compile_of_agree (hplain : c.context.registry.IsPlain) {st : Statement}
    (hnames : st.names ⊆ names) (hagree : Agree names c.model model) :
    ({ c with model := model } : Compiler).compile st = c.compile st := by
  cases st with
  | select q => simp only [compile, compileSelect_of_agree hplain hnames hagree]
  | insert s =>
    have hrun : ({ c with model := model } : Compiler).compileInsert s = c.compileInsert s := by
      funext streams
      refine run_of_asks (.bind (InsertStatement.asks hplain s hnames) fun sql _ => ?_)
        hagree streams
      exact .bind (.prepare hplain sql) fun statement _ => .pure trivial
    simp only [compile, hrun]
  | update s =>
    have hrun : ({ c with model := model } : Compiler).compileUpdate s = c.compileUpdate s := by
      funext streams
      exact run_of_asks (.bind (UpdateStatement.asks hplain s hnames) fun sql _ =>
        .prepare hplain sql) hagree streams
    simp only [compile, hrun]
  | delete s =>
    have hrun : ({ c with model := model } : Compiler).compileDelete s = c.compileDelete s := by
      funext streams
      exact run_of_asks (.bind (DeleteStatement.asks hplain s hnames) fun sql _ =>
        .prepare hplain sql) hagree streams
    simp only [compile, hrun]

/-- A compiler whose model knows nothing beyond some names. -/
def restricted (c : Compiler) (names : List String) : Compiler :=
  { c with model := c.model.map fun m => m.restricted names }

/-- A run is the same under a model that knows nothing but the names that it asks about. -/
theorem yields_restricted {α : Type} {x : Compose α} (hx : x.Asks c.context names)
    {streams : StreamStore} {a : α} {t : Session} :
    x.Yields (c.restricted names).context (Session.initial streams) a t ↔
      x.Yields c.context (Session.initial streams) a t :=
  hx.yields_iff (agree_restricted c.model names) Scope.knows_root (List.forall_mem_nil _)

/-- A part of a statement does the same in a scope that was mapped from these names. -/
theorem yields_of_restricted {α : Type} {x : Compose α} (hx : x.Asks c.context names)
    {s t : Session} (hs : s.scope.Knows names) {a : α}
    (h : x.Yields (c.restricted names).context s a t) :
    x.Yields c.context s a t ∧ t.scope.Knows names := by
  have hchain : ∀ o ∈ ([] : List Scope), o.Knows names := List.forall_mem_nil _
  have h := (hx.yields_iff (agree_restricted c.model names) hs hchain).mp h
  exact ⟨h, hx.knows_of_yields hs hchain h⟩

/-- A statement asks the model about nothing but its own names. -/
theorem compile_restricted (hplain : c.context.registry.IsPlain) (st : Statement) :
    (c.restricted st.names).compile st = c.compile st :=
  compile_of_agree hplain (List.Subset.refl _) (agree_restricted c.model st.names)

end Compiler

end SqlCompose
