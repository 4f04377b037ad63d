import SqlCompose.Proofs.Fragments
import SqlCompose.Statement.Compiler

/-!
# SqlCompose.Proofs.Statements -- statements of every kind show their outline

Statements of every kind are compiled in two steps: their text is put together
with placeholders, then markers take the places of these. The text shows the
outline of the statement, with the sub-selects among the values and conditions.
-/

namespace SqlCompose

open Compose

variable {α β : Type} {base : Context} {plain : Char → Prop}
  {select : SelectQuery → List Char → Prop}

/-! ## Two steps -/

/-- The text of a statement with placeholders, and the columns it gives. -/
def Statement.rendered : Statement → Compose RenderedSelect
  | .select q => q.renderOuter
  | .insert s => do
    let sql ← s.render
    pure ⟨sql, []⟩
  | .update s => do
    let sql ← s.render
    pure ⟨sql, []⟩
  | .delete s => do
    let sql ← s.render
    pure ⟨sql, []⟩

namespace CompiledStatement

/-- The finished text and the parameters of a compiled statement. -/
def statement : CompiledStatement → SqlStatement
  | .query q => q.statement
  | .insert i => i.statement
  | .change s => s

/-- The columns that a compiled statement gives. -/
def columns : CompiledStatement → List ProjectedColumn
  | .query q => q.columns
  | .insert _ => []
  | .change _ => []

end CompiledStatement

/-- The session in which a statement is compiled. -/
def Session.initial (streams : StreamStore) : Session := { scope := Scope.root, streams := streams }

theorem run_eq (c : Compiler) (x : Compose α) (streams : StreamStore) :
    c.run x streams = ((x.outcome c.context (Session.initial streams)).1,
      (x.outcome c.context (Session.initial streams)).2.streams) := rfl

theorem run_eq_ok {c : Compiler} {x : Compose α} {streams streams' : StreamStore} {a : α} :
    c.run x streams = (.ok a, streams') ↔
      ∃ t, x.Yields c.context (Session.initial streams) a t ∧ t.streams = streams' := by
  unfold Yields
  rw [run_eq]
  rcases x.outcome c.context (Session.initial streams) with ⟨result, t⟩
  constructor
  · intro h
    cases h
    exact ⟨t, rfl, rfl⟩
  · rintro ⟨_, h, rfl⟩
    cases h
    rfl

theorem map_eq_ok {x : Streaming α} {f : α → β} {streams streams' : StreamStore} {b : β} :
    (x >>= fun a => pure (f a)) streams = (.ok b, streams') ↔
      ∃ a, x streams = (.ok a, streams') ∧ f a = b := by
  have h : (x >>= fun a => pure (f a)) streams =
      ExceptT.bindCont (fun a => (pure (f a) : Streaming β))
        (x streams : Except SqlError α × StreamStore).1
        (x streams : Except SqlError α × StreamStore).2 := rfl
  rw [h]
  rcases (x streams : Except SqlError α × StreamStore) with ⟨e | a, t⟩
  · constructor
    · intro h
      cases h
    · rintro ⟨_, h, _⟩
      cases h
  · constructor
    · intro h
      cases h
      exact ⟨a, rfl, rfl⟩
    · rintro ⟨_, h, rfl⟩
      cases h
      rfl

theorem yields_text {x : Compose String} {sql : String} {ctx : Context} {s t : Session}
    (h : x.Yields ctx s sql t) :
    (x >>= fun sql => pure (⟨sql, []⟩ : RenderedSelect)).Yields ctx s ⟨sql, []⟩ t :=
  yields_bind.mpr ⟨sql, t, h, yields_pure.mpr ⟨rfl, rfl⟩⟩

/-- A query is compiled if it is put together and its text is prepared. -/
theorem compileSelect_eq_ok_iff {c : Compiler} {q : SelectQuery} {streams streams' : StreamStore}
    {compiled : CompiledQuery} :
    c.compileSelect q streams = (.ok compiled, streams') ↔
      ∃ rendered t u, q.renderOuter.Yields c.context (Session.initial streams) rendered t ∧
        (prepare rendered.sql).Yields c.context t compiled.statement u ∧ u.streams = streams' ∧
          compiled.columns = rendered.columns ∧
            compiled.converter = q.projection.bind Projection.converter := by
  constructor
  · intro h
    obtain ⟨v, hrun, hstreams⟩ := run_eq_ok.mp h
    obtain ⟨rendered, t, hrendered, hrun⟩ := yields_bind.mp hrun
    obtain ⟨statement, u, hprepared, hrun⟩ := yields_bind.mp hrun
    obtain ⟨rfl, rfl⟩ := yields_pure.mp hrun
    exact ⟨rendered, t, _, hrendered, hprepared, hstreams, rfl, rfl⟩
  · rintro ⟨rendered, t, u, hrendered, hprepared, hstreams, hcolumns, hconverter⟩
    refine run_eq_ok.mpr ⟨u, ?_, hstreams⟩
    obtain ⟨statement, columns, converter⟩ := compiled
    subst hcolumns hconverter
    exact yields_bind.mpr ⟨rendered, t, hrendered,
      yields_bind.mpr ⟨statement, u, hprepared, yields_pure.mpr ⟨rfl, rfl⟩⟩⟩

/-- A compiled query is its prepared text. -/
theorem compileSelect_eq_ok {c : Compiler} {q : SelectQuery} {streams streams' : StreamStore}
    {compiled : CompiledQuery} (h : c.compileSelect q streams = (.ok compiled, streams')) :
    ∃ rendered t u, q.renderOuter.Yields c.context (Session.initial streams) rendered t ∧
      (prepare rendered.sql).Yields c.context t compiled.statement u ∧ u.streams = streams' ∧
        compiled.columns = rendered.columns := by
  obtain ⟨rendered, t, u, hrendered, hprepared, hstreams, hcolumns, _⟩ := compileSelect_eq_ok_iff.mp h
  exact ⟨rendered, t, u, hrendered, hprepared, hstreams, hcolumns⟩

/-- A compiled statement is its prepared text. -/
theorem compile_eq_ok {c : Compiler} {st : Statement} {streams streams' : StreamStore}
    {compiled : CompiledStatement} (h : c.compile st streams = (.ok compiled, streams')) :
    ∃ rendered t u, st.rendered.Yields c.context (Session.initial streams) rendered t ∧
      (prepare rendered.sql).Yields c.context t compiled.statement u ∧ u.streams = streams' ∧
        compiled.columns = rendered.columns := by
  cases st with
  | select q =>
    obtain ⟨query, hquery, rfl⟩ := map_eq_ok.mp h
    exact compileSelect_eq_ok hquery
  | insert s =>
    obtain ⟨insert, hinsert, rfl⟩ := map_eq_ok.mp h
    obtain ⟨v, hrun, hstreams⟩ := run_eq_ok.mp hinsert
    obtain ⟨sql, t, hsql, hrun⟩ := yields_bind.mp hrun
    obtain ⟨statement, u, hprepared, hrun⟩ := yields_bind.mp hrun
    obtain ⟨rfl, rfl⟩ := yields_pure.mp hrun
    exact ⟨⟨sql, []⟩, t, _, yields_text hsql, hprepared, hstreams, rfl⟩
  | update s =>
    obtain ⟨statement, hstatement, rfl⟩ := map_eq_ok.mp h
    obtain ⟨u, hrun, hstreams⟩ := run_eq_ok.mp hstatement
    obtain ⟨sql, t, hsql, hprepared⟩ := yields_bind.mp hrun
    exact ⟨⟨sql, []⟩, t, u, yields_text hsql, hprepared, hstreams, rfl⟩
  | delete s =>
    obtain ⟨statement, hstatement, rfl⟩ := map_eq_ok.mp h
    obtain ⟨u, hrun, hstreams⟩ := run_eq_ok.mp hstatement
    obtain ⟨sql, t, hsql, hprepared⟩ := yields_bind.mp hrun
    exact ⟨⟨sql, []⟩, t, u, yields_text hsql, hprepared, hstreams, rfl⟩

/-- A compiler without a registry of its own uses that of its dialect. -/
theorem Compiler.registry_isPlain {c : Compiler} (h : c.registry = none) :
    c.context.registry.IsPlain := by
  simp only [Compiler.context, h, Option.getD_none]
  exact c.dialect.registry_isPlain

/-- A compiler for the ANSI dialect without a data model. -/
def Compiler.ansi (mode : AliasMode) : Compiler := { dialect := .new .ansi, aliasMode := mode }

theorem exists_of_isOk {γ : Type} {result : Except SqlError α × γ} (h : result.1.isOk = true) :
    ∃ a t, result = (.ok a, t) := by
  rcases result with ⟨e | a, t⟩
  · simp [Except.isOk, Except.toBool] at h
  · exact ⟨a, t, rfl⟩

theorem exists_of_toOption {γ : Type} {result : Except SqlError α × γ} {a : α}
    (h : result.1.toOption = some a) : ∃ t, result = (.ok a, t) := by
  rcases result with ⟨e | b, t⟩
  · simp [Except.toOption] at h
  · obtain rfl : b = a := Option.some.inj h
    exact ⟨t, rfl⟩

theorem succeeds_of_isOk (c : Compiler) (st : Statement) (streams : StreamStore)
    (h : (c.compile st streams).1.isOk = true) :
    ∃ compiled streams', c.compile st streams = (.ok compiled, streams') := exists_of_isOk h

/-! ## Parts of statements that change rows -/

/-- The values of an insertion stand in parentheses after its columns. -/
theorem Reading.shows_insert {r : Reading} {d : Dialect} (hplain : Admits r.plain) {table : Token}
    (htable : Plain r.plain (table.text d)) {columns values : List String}
    (hcolumns : AllPlain r.plain columns) {itemss : List (List Item)}
    (hvalues : r.ShowsEach itemss values) :
    r.Shows (sqlText d ([Token.insert, .space, .into, .space, table, .space, .leftParen] ++
      commaSeparated columns ++ [Token.rightParen, .space, .values, .space, .leftParen] ++
        commaSeparated values ++ [Token.rightParen])).toList itemss.flatten := by
  have hlist : r.Shows (sqlText d (commaSeparated values)).toList itemss.flatten := by
    rw [sqlText_commaSeparated]
    exact hvalues.commas hplain
  have hrow := Shows.fixed_append hplain (k := [.rightParen, .space, .values, .space])
    (by decide) (Shows.parentheses hplain hlist)
  have hcolumns := Shows.fixed_append hplain (k := [.space, .leftParen]) (by decide)
    (Shows.tokens_append (plain_commas hplain hcolumns) hrow)
  have htable := Shows.tokens_append (a := [table]) (by simpa [sqlText, String.join] using htable)
    hcolumns
  have hinsert := Shows.fixed_append hplain (k := [.insert, .space, .into, .space])
    (by decide) htable
  simpa using hinsert

/-- The condition of an update comes after its assignments. -/
theorem Reading.shows_update {r : Reading} {d : Dialect} (hplain : Admits r.plain) {table : Token}
    (htable : Plain r.plain (table.text d)) {assignments : List String}
    {itemss : List (List Item)} (hassignments : r.ShowsEach itemss assignments)
    {condition : List Token} {items : List Item} (hcondition : r.ShowsTail d condition items) :
    r.Shows (sqlText d ([Token.update, .space, table, .space, .set, .space] ++
      commaSeparated assignments ++ condition)).toList (itemss.flatten ++ items) := by
  have hlist : r.Shows (sqlText d (commaSeparated assignments)).toList itemss.flatten := by
    rw [sqlText_commaSeparated]
    exact hassignments.commas hplain
  have hset := hlist.append hcondition.2 hcondition.1
  rw [← toList_append] at hset
  have hset := Shows.fixed_append hplain (k := [.space, .set, .space]) (by decide) hset
  have htable := Shows.tokens_append (a := [table]) (by simpa [sqlText, String.join] using htable)
    hset
  have hupdate := Shows.fixed_append hplain (k := [.update, .space]) (by decide) htable
  simpa using hupdate

/-- The condition of a deletion comes after its table. -/
theorem Reading.shows_delete {r : Reading} {d : Dialect} (hplain : Admits r.plain) {table : Token}
    (htable : Plain r.plain (table.text d)) {condition : List Token} {items : List Item}
    (hcondition : r.ShowsTail d condition items) :
    r.Shows (sqlText d ([Token.delete, .space, .from, .space, table] ++ condition)).toList
      items := by
  have htable := Shows.tokens_append (a := [table]) (by simpa [sqlText, String.join] using htable)
    hcondition.1
  exact .fixed_append hplain (k := [.delete, .space, .from, .space]) (by decide) htable

theorem forall_mem_of_forall₂ {P : β → Prop} {as : List α} {bs : List β}
    (h : List.Forall₂ (fun _ b => P b) as bs) : ∀ b ∈ bs, P b := by
  induction h with
  | nil => nofun
  | cons hb _ ih => exact List.forall_mem_cons.mpr ⟨hb, ih⟩

section Parts

variable (hplain : Admits plain) (hregistry : base.registry.IsPlain)
  (hmodel : ∀ s ∈ modelNames base.model, Plain plain s)

include hplain hregistry hmodel

theorem emits_writtenTable {e : Expression} (h : AllPlain plain e.names) :
    (writtenTable e).Emits base plain fun _ token => Plain plain (token.text base.dialect) := by
  refine .bind (Expression.emits_source hplain hregistry hmodel e h)
    fun source hsource => ?_
  obtain ⟨_, hsource⟩ := hsource
  have htarget := RelationalTarget.isPlain_of_names hsource.names
  refine .bind (.updateScope fun scope hscope => hscope.seedUnaliased hplain.writable htarget)
    fun _ _ => ?_
  refine .pure fun _ _ _ => ?_
  have htable := htarget.qualified hplain.writable
  simpa [Token.text] using htable

omit hplain hregistry in
theorem emits_assignedColumn {p : Path} (h : AllPlain plain p.names) :
    (assignedColumn p).Emits base plain fun _ column => Plain plain column := by
  refine .bind (.ofResult (P := fun _ _ => True) fun _ _ _ => trivial) fun _ _ => ?_
  split
  · exact .refuse _
  · refine .bind (.lookup (P := fun _ => True) fun _ _ => trivial) fun root _ => ?_
    exact (Emits.column hmodel (h _ p.name_mem_names)).mono fun _ _ hcolumn _ _ => hcolumn

/-- An assigned sub-select stands in parentheses. -/
theorem emits_assignedValue {e : Expression} (h : AllPlain plain e.names) :
    (assignedValue e).Emits base plain
      (ShowsText plain (Resolves base) (e.outline base.dialect true)) := by
  refine .bind (Expression.emits hplain hregistry hmodel e h) fun sql _ => ?_
  exact .pure fun _ hsql => Reading.shows_selected hplain hsql

theorem emits_conditionClause {condition : Option Filter}
    (h : AllPlain plain (conditionNames condition)) :
    (conditionClause condition).Emits base plain fun acc tokens =>
      (acc.reading plain (Resolves base)).ShowsTail base.dialect tokens
        (conditionOutline base.dialect condition) := by
  cases condition with
  | none => exact .pure fun _ => Reading.ShowsTail.nil
  | some f =>
    refine .bind (Filter.emits_sql hregistry
      (Filter.emits hplain hregistry hmodel f h)) fun sql _ => ?_
    exact .pure fun _ hsql => .optional hplain (by decide) hsql

/-- One assignment shows its value. -/
theorem emits_assignment {a : Assignment} (h : AllPlain plain a.names) :
    (assignment a).Emits base plain
      (ShowsText plain (Resolves base)
        (a.value.outline base.dialect true)) := by
  rw [Assignment.names, allPlain_append] at h
  refine .bind (emits_assignedColumn hmodel h.1) fun column _ => ?_
  refine .bind (emits_assignedValue hplain hregistry hmodel h.2) fun value _ => ?_
  refine .write fun acc hvalue hcolumn => ?_
  have hfragment : (acc.reading plain (Resolves base)).Shows
      (sqlText base.dialect [.fragment value]).toList (a.value.outline base.dialect true) := by
    simpa [toList_sqlText, Token.text, ShowsText] using hvalue
  have hequal := Reading.Shows.fixed hplain (t := .eq) (by decide) hfragment
  rw [ShowsText, toList_sqlText, List.flatMap_cons, ← toList_sqlText]
  exact .plain_append hcolumn hequal

/-! ## Whole statements -/

/-- A query of its own shows its outline. -/
theorem SelectQuery.emits_outer {q : SelectQuery} (h : AllPlain plain q.names) :
    q.renderOuter.Emits base plain fun acc rendered =>
      ShowsText plain (Resolves base) (q.outline base.dialect) acc
        rendered.sql := by
  have hsource : AllPlain plain q.source.names := by
    rw [SelectQuery.names_eq, allPlain_append, allPlain_append, allPlain_append] at h
    exact h.1.1.1
  refine .bind (Expression.emits_source hplain hregistry hmodel q.source hsource)
    fun s hs => ?_
  obtain ⟨_, hs⟩ := hs
  refine .bind (.updateScope fun scope hscope =>
    hscope.seed hplain.writable (RelationalTarget.isPlain_of_names hs.names)) fun _ _ => ?_
  refine (SelectQuery.emits hplain hregistry hmodel q h hs).mono ?_
  exact fun _ _ hrendered _ _ => hrendered.1

omit hplain hregistry hmodel in
theorem Assignment.plain_names {assignments : List Assignment}
    (h : AllPlain plain (assignments.flatMap Assignment.names)) :
    ∀ a ∈ assignments, AllPlain plain a.names := by
  intro a ha name hname
  exact h name (List.mem_flatMap.mpr ⟨a, ha, hname⟩)

/-- An insertion shows its values. -/
theorem InsertStatement.emits {s : InsertStatement} (h : AllPlain plain (Statement.insert s).names) :
    s.render.Emits base plain
      (ShowsText plain (Resolves base)
        (Assignment.outlines base.dialect s.values)) := by
  rw [Statement.names, allPlain_append] at h
  have hnames : ∀ a ∈ s.values, AllPlain plain a.column.names ∧ AllPlain plain a.value.names := by
    intro a ha
    rw [← allPlain_append]
    exact Assignment.plain_names h.2 a ha
  refine .bind (.ofResult (P := fun _ _ => True) fun _ _ _ => trivial) fun _ _ => ?_
  refine .bind (emits_writtenTable hplain hregistry hmodel h.1) fun table _ => ?_
  refine .bind (.mapM fun a ha => emits_assignedColumn hmodel (hnames a ha).1) fun columns _ => ?_
  refine .bind (.mapM fun a ha => emits_assignedValue hplain hregistry hmodel (hnames a ha).2)
    fun values _ => .write fun acc hvalues hcolumns htable _ => ?_
  rw [Assignment.outlines, List.flatMap_def]
  exact Reading.shows_insert hplain htable (forall_mem_of_forall₂ hcolumns)
    (List.forall₂_map_left_iff.mpr hvalues)

/-- An update shows its values, then its condition. -/
theorem UpdateStatement.emits {s : UpdateStatement} (h : AllPlain plain (Statement.update s).names) :
    s.render.Emits base plain
      (ShowsText plain (Resolves base)
        (Assignment.outlines base.dialect s.assignments ++
          conditionOutline base.dialect s.filter)) := by
  rw [Statement.names, allPlain_append, allPlain_append] at h
  have hnames := Assignment.plain_names h.1.2
  refine .bind (.ofResult (P := fun _ _ => True) fun _ _ _ => trivial) fun _ _ => ?_
  refine .bind (emits_writtenTable hplain hregistry hmodel h.1.1) fun table _ => ?_
  refine .bind (.mapM fun a ha => emits_assignment hplain hregistry hmodel (hnames a ha))
    fun assignments _ => ?_
  refine .bind (emits_conditionClause hplain hregistry hmodel h.2) fun condition _ => ?_
  refine .write fun acc hcondition hassignments htable _ => ?_
  rw [Assignment.outlines, List.flatMap_def]
  exact Reading.shows_update hplain htable (List.forall₂_map_left_iff.mpr hassignments) hcondition

/-- A deletion shows its condition. -/
theorem DeleteStatement.emits {s : DeleteStatement} (h : AllPlain plain (Statement.delete s).names) :
    s.render.Emits base plain
      (ShowsText plain (Resolves base)
        (conditionOutline base.dialect s.filter)) := by
  rw [Statement.names, allPlain_append] at h
  refine .bind (.ofResult (P := fun _ _ => True) fun _ _ _ => trivial) fun _ _ => ?_
  refine .bind (emits_writtenTable hplain hregistry hmodel h.1) fun table _ => ?_
  refine .bind (emits_conditionClause hplain hregistry hmodel h.2) fun condition _ => ?_
  exact .write fun acc hcondition htable _ => Reading.shows_delete hplain htable hcondition

/-- The text of a statement shows its outline. -/
theorem Statement.emits {st : Statement} (h : AllPlain plain st.names) :
    st.rendered.Emits base plain fun acc rendered =>
      ShowsText plain (Resolves base) (st.outline base.dialect) acc
        rendered.sql := by
  have htext : ∀ {x : Compose String} {items : List Item},
      x.Emits base plain (ShowsText plain (Resolves base) items) →
        (x >>= fun sql => pure (⟨sql, []⟩ : RenderedSelect)).Emits base plain fun acc rendered =>
          ShowsText plain (Resolves base) items acc rendered.sql := by
    intro x items hx
    exact .bind hx fun sql _ => .pure fun _ hsql => hsql
  cases st with
  | select q => exact SelectQuery.emits_outer hplain hregistry hmodel h
  | insert s => exact htext (InsertStatement.emits hplain hregistry hmodel h)
  | update s => exact htext (UpdateStatement.emits hplain hregistry hmodel h)
  | delete s => exact htext (DeleteStatement.emits hplain hregistry hmodel h)

end Parts

/-- The text of a compiled statement shows its outline before markers take the
places of its placeholders. -/
theorem shows_of_compile {c : Compiler} (hregistry : c.registry = none) {st : Statement}
    (hplain : Admits plain) (hnames : AllPlain plain st.names)
    (hmodel : ∀ s ∈ modelNames c.model, Plain plain s) {streams streams' : StreamStore}
    {compiled : CompiledStatement} (h : c.compile st streams = (.ok compiled, streams')) :
    ∃ sql t u, (prepare sql).Yields c.context t compiled.statement u ∧ t.streams = streams ∧
      u.streams = streams' ∧
        ShowsText plain (Resolves c.context) (st.outline c.dialect)
          t.parameters sql := by
  obtain ⟨rendered, t, u, hrendered, hprepared, hstreams', _⟩ := compile_eq_ok h
  have hcontext := Compiler.registry_isPlain hregistry
  have hemits := Statement.emits hplain hcontext hmodel hnames
  obtain ⟨_, hstreams, _, hshows⟩ := @hemits [] _ _ _ Scope.isPlain_root (by simp) hrendered
  exact ⟨rendered.sql, t, u, hprepared, hstreams, hstreams', hshows _ (.refl _)⟩

end SqlCompose
