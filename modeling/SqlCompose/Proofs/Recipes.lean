import SqlCompose.Proofs.Bound
import SqlCompose.Proofs.Spelling
import SqlCompose.Proofs.Statements

/-!
# SqlCompose.Proofs.Recipes -- every compiled statement is spelled

The text of a statement of any kind is spelled from its ingredients before
markers take the places of its placeholders. What is written to has no joins, so
all raw SQL of a changing statement is in its values and its condition.
-/

namespace SqlCompose

open Compose Lexicon

variable {base : Context} {L : Lexicon}

section Parts

variable (hregistry : base.registry.IsPlain) (hmodel : ∀ s ∈ modelNames base.model, Plain L.plain s)

include hregistry hmodel

theorem spelled_writtenTable {e : Expression} (h : L.HasAll e.ingredients) :
    (writtenTable e).Emits base L.plain fun _ token => Plain L.plain (token.text base.dialect) := by
  refine .bind (Expression.spelled_source hregistry hmodel e h)
    fun source hsource => ?_
  obtain ⟨_, hsource⟩ := hsource
  refine .bind (.updateScope fun scope hscope => hscope.seedUnaliased L.writable hsource.target)
    fun _ _ => ?_
  exact .pure fun _ _ _ => hsource.target.qualified L.writable

theorem spelled_assignedValue {e : Expression} (h : L.HasAll e.ingredients) :
    (assignedValue e).Emits base L.plain fun acc text => L.Text acc (raws e.ingredients) text := by
  refine .bind (Expression.spelled hregistry hmodel e h) fun sql _ => ?_
  exact .pure fun _ hsql => hsql.enclosed _

theorem spelled_conditionClause {condition : Option Filter}
    (h : L.HasAll (conditionIngredients condition)) :
    (conditionClause condition).Emits base L.plain fun acc tokens =>
      L.Tokens base.dialect acc (raws (conditionIngredients condition)) tokens := by
  cases condition with
  | none => exact .pure fun _ => Tokens.nil
  | some f =>
    refine .bind (Filter.spelled_sql hregistry
      (Filter.spelled hregistry hmodel f h)) fun sql _ => ?_
    exact .pure fun _ hsql => .optional (by decide) hsql

omit hregistry in
theorem spelled_assignedColumn {a : Assignment} (h : L.HasAll a.ingredients) :
    (assignedColumn a.column).Emits base L.plain fun _ column => Plain L.plain column := by
  rw [Assignment.ingredients, hasAll_append, hasAll_named] at h
  exact emits_assignedColumn hmodel h.1

theorem spelled_assignment {a : Assignment} (h : L.HasAll a.ingredients) :
    (assignment a).Emits base L.plain fun acc text => L.Text acc (raws a.value.ingredients) text := by
  refine .bind (spelled_assignedColumn hmodel h) fun column _ => ?_
  rw [Assignment.ingredients, hasAll_append] at h
  refine .bind (spelled_assignedValue hregistry hmodel h.2) fun value _ => ?_
  refine .write fun acc hvalue hcolumn => ?_
  exact Tokens.cons (t := .ident column) (.of_plain hcolumn) (.fixed (by decide) (.last hvalue))

/-! ## Whole statements -/

theorem SelectQuery.spelled_outer {q : SelectQuery} (h : L.HasAll q.ingredients) :
    q.renderOuter.Emits base L.plain fun acc rendered =>
      L.Text acc (raws q.ingredients) rendered.sql := by
  have hsource := h
  rw [SelectQuery.ingredients_eq, hasAll_append, hasAll_append, hasAll_append] at hsource
  refine .bind (Expression.spelled_source hregistry hmodel q.source
    hsource.1.1.2) fun s hs => ?_
  obtain ⟨_, hs⟩ := hs
  refine .bind (.updateScope fun scope hscope => hscope.seed L.writable hs.target) fun _ _ => ?_
  refine (SelectQuery.spelled hregistry hmodel q h hs).mono ?_
  exact fun _ _ hrendered _ _ => hrendered

omit hregistry hmodel in
theorem Assignment.hasAll_of_mem {assignments : List Assignment}
    (h : L.HasAll (assignments.flatMap Assignment.ingredients)) :
    ∀ a ∈ assignments, L.HasAll a.ingredients :=
  fun a ha i hi => h i (List.mem_flatMap.mpr ⟨a, ha, hi⟩)

/-- An insertion has the raw SQL of its values. -/
theorem InsertStatement.spelled {s : InsertStatement}
    (h : L.HasAll (Statement.insert s).ingredients) :
    s.render.Emits base L.plain fun acc text =>
      L.Text acc (raws (Statement.insert s).ingredients) text := by
  rw [Statement.ingredients, hasAll_append] at h
  have heach := Assignment.hasAll_of_mem h.2
  have hvalue : ∀ a ∈ s.values, (assignedValue a.value).Emits base L.plain fun acc text =>
      L.Text acc (raws a.value.ingredients) text := by
    intro a ha
    have ha := heach a ha
    rw [Assignment.ingredients, hasAll_append] at ha
    exact spelled_assignedValue hregistry hmodel ha.2
  refine .bind (.ofResult (P := fun _ _ => s.validate = .ok ()) fun _ hvalid _ => hvalid)
    fun _ hvalid => ?_
  obtain ⟨_, hvalid⟩ := hvalid
  have hwritten := raws_of_written (ok_then_iff.mp hvalid).1
  refine .bind (spelled_writtenTable hregistry hmodel h.1) fun table _ => ?_
  refine .bind (.mapM fun a ha => spelled_assignedColumn hmodel (heach a ha)) fun columns _ => ?_
  refine .bind (.mapM hvalue) fun values _ => .write fun acc hvalues hcolumns htable _ => ?_
  rw [Statement.ingredients, raws_append, hwritten, List.nil_append, raws_flatMap_assignments]
  exact Tokens.insert htable (forall_mem_of_forall₂ hcolumns) (List.forall₂_map_left_iff.mpr hvalues)

/-- An update has the raw SQL of its values, then that of its condition. -/
theorem UpdateStatement.spelled {s : UpdateStatement}
    (h : L.HasAll (Statement.update s).ingredients) :
    s.render.Emits base L.plain fun acc text =>
      L.Text acc (raws (Statement.update s).ingredients) text := by
  rw [Statement.ingredients, hasAll_append, hasAll_append] at h
  have heach := Assignment.hasAll_of_mem h.1.2
  refine .bind (.ofResult (P := fun _ _ => s.validate = .ok ()) fun _ hvalid _ => hvalid)
    fun _ hvalid => ?_
  obtain ⟨_, hvalid⟩ := hvalid
  have hwritten := raws_of_written (ok_then_iff.mp hvalid).1
  refine .bind (spelled_writtenTable hregistry hmodel h.1.1) fun table _ => ?_
  refine .bind (.mapM fun a ha => spelled_assignment hregistry hmodel (heach a ha))
    fun assignments _ => ?_
  refine .bind (spelled_conditionClause hregistry hmodel h.2) fun condition _ => ?_
  refine .write fun acc hcondition hassignments htable _ => ?_
  rw [Statement.ingredients, raws_append, raws_append, hwritten, List.nil_append,
    raws_flatMap_assignments]
  exact Tokens.update htable (List.forall₂_map_left_iff.mpr hassignments) hcondition

/-- A deletion has the raw SQL of its condition. -/
theorem DeleteStatement.spelled {s : DeleteStatement}
    (h : L.HasAll (Statement.delete s).ingredients) :
    s.render.Emits base L.plain fun acc text =>
      L.Text acc (raws (Statement.delete s).ingredients) text := by
  rw [Statement.ingredients, hasAll_append] at h
  refine .bind (.ofResult (P := fun _ _ => s.validate = .ok ()) fun _ hvalid _ => hvalid)
    fun _ hvalid => ?_
  obtain ⟨_, hvalid⟩ := hvalid
  have hwritten := raws_of_written (ok_then_iff.mp hvalid).1
  refine .bind (spelled_writtenTable hregistry hmodel h.1) fun table _ => ?_
  refine .bind (spelled_conditionClause hregistry hmodel h.2) fun condition _ => ?_
  refine .write fun acc hcondition htable _ => ?_
  rw [Statement.ingredients, raws_append, hwritten, List.nil_append]
  exact Tokens.delete htable hcondition

/-- The text of a statement is spelled from its ingredients. -/
theorem Statement.spelled {st : Statement} (h : L.HasAll st.ingredients) :
    st.rendered.Emits base L.plain fun acc rendered =>
      L.Text acc (raws st.ingredients) rendered.sql := by
  cases st with
  | select q => exact SelectQuery.spelled_outer hregistry hmodel h
  | insert s =>
    exact .bind (InsertStatement.spelled hregistry hmodel h) fun sql _ => .pure fun _ hsql => hsql
  | update s =>
    exact .bind (UpdateStatement.spelled hregistry hmodel h) fun sql _ => .pure fun _ hsql => hsql
  | delete s =>
    exact .bind (DeleteStatement.spelled hregistry hmodel h) fun sql _ => .pure fun _ hsql => hsql

end Parts

/-! ## Compiled statements -/

/-- A compiled statement is a text that is spelled from its ingredients, with the
markers of the parameters that its placeholders name, and with what binding gives
for these in order. -/
theorem spelled_of_compile {c : Compiler} (hregistry : c.context.registry.IsPlain) {st : Statement}
    (h : L.HasAll st.ingredients) (hmodel : ∀ s ∈ modelNames c.model, Plain L.plain s)
    {streams streams' : StreamStore} {compiled : CompiledStatement}
    (hcompile : c.compile st streams = (.ok compiled, streams')) :
    ∃ rendered t u ps bounds,
      st.rendered.Yields c.context (Session.initial streams) rendered t ∧
      L.Text t.parameters (raws st.ingredients) rendered.sql ∧
      t.parameters.named? rendered.sql.toList = some ps ∧
      (bindAll ps).Yields c.context t bounds u ∧
      compiled.statement =
        ⟨String.ofList (t.parameters.fill rendered.sql.toList), bounds.map (·.parameter)⟩ := by
  obtain ⟨rendered, t, u, hrendered, hprepared, _, _⟩ := compile_eq_ok hcompile
  have hspelled := Statement.spelled hregistry hmodel h
  obtain ⟨_, _, _, htext⟩ := @hspelled [] _ _ _ Scope.isPlain_root (by simp) hrendered
  obtain ⟨ps, bounds, hps, hbounds, hstatement⟩ := (yields_prepare hregistry).mp hprepared
  exact ⟨rendered, t, u, ps, bounds, hrendered, htext _ (.refl _), hps, hbounds, hstatement⟩

end SqlCompose
