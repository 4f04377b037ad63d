import SqlCompose.Proofs.Remapping
import SqlCompose.Proofs.Slots

/-!
# SqlCompose.Proofs.ValueLists -- the lists of compiled statements

The values of an insertion, the assignments of an update and the columns of a query stand in
one list of the compiled text, once markers have taken the places of placeholders. The list has
one entry for each of them, unless one is a list literal of several items.
-/

namespace SqlCompose

open Compose Lexeme Pagination

variable {c : Compiler} {acc : Accumulator} {streams : StreamStore} {t u : Session}
  {texts : List String}

/-! ## Rows with markers -/

/-- A text that is prepared has markers in the places of its placeholders. -/
theorem settled_of_prepare {ctx : Context} (hregistry : ctx.registry.IsPlain) {sql : String}
    {statement : SqlStatement} (h : (prepare sql).Yields ctx t statement u) :
    statement.sql = t.parameters.settled sql := by
  obtain ⟨_, _, _, _, rfl⟩ := (yields_prepare hregistry).mp h
  rfl

/-- The texts of expressions that stand in one list, each with as many entries as its width. -/
structure Expression.Rows (acc : Accumulator) (slots : List Expression) (texts : List String) :
    Prop where
  ne_nil : texts ≠ []
  rows : List.Forall₂ (fun e text =>
    Row (LaysText Wording.uncut.value acc .uncut) (max 1 e.width) text) slots texts

namespace Expression.Rows

variable {slots : List Expression}

theorem of_forall₂ {α : Type} {as : List α} {f : α → Expression} (hne : as ≠ [])
    (h : List.Forall₂ (fun a text =>
      Row (LaysText Wording.uncut.value acc .uncut) (max 1 (f a).width) text) as texts) :
    Rows acc (as.map f) texts := by
  refine ⟨?_, List.forall₂_map_left_iff.mpr h⟩
  rintro rfl
  exact hne (List.forall₂_nil_right_iff.mp h)

theorem settles (h : Rows acc slots texts) :
    acc.SettlesText (", ".intercalate texts) ∧
      acc.settled (", ".intercalate texts) = ", ".intercalate (texts.map acc.settled) :=
  Accumulator.SettlesText.intercalate
    (forall_mem_of_forall₂ (h.rows.imp fun _ _ hrow => hrow.settles.1))

theorem settled (h : Rows acc slots texts) :
    List.Forall₂ (Row fun a => Conforms .uncut a.toList) (slots.map fun e => max 1 e.width)
      (texts.map acc.settled) := by
  rw [List.forall₂_map_left_iff, List.forall₂_map_right_iff]
  exact h.rows.imp fun _ _ hrow => hrow.settles.2

/-- The markers that take the places of placeholders in a list leave the text around it alone. -/
theorem settled_around (h : Rows acc slots texts) {opening : String} (hopening : NoColon opening)
    (closing : String) :
    acc.settled (opening ++ ", ".intercalate texts ++ closing) =
      opening ++ ", ".intercalate (texts.map acc.settled) ++ acc.settled closing := by
  have hopens : acc.SettlesText opening := .of_noColon hopening
  rw [(hopens.append h.settles.1).settled_append, hopens.settled_append,
    Accumulator.settled_of_noColon hopening, h.settles.2]

end Expression.Rows

/-! ## Statements -/

/-- The expressions that stand in the list of a statement, if it has one. -/
def Statement.slots : Statement → Option (List Expression)
  | .select q => q.projection.map fun p => p.selections.map Selection.expr
  | .insert s => some (s.values.map Assignment.value)
  | .update s => some (s.assignments.map Assignment.value)
  | .delete _ => none

/-- The list of a compiled statement is made of these texts: the values of an insertion in the
order of its columns, the assignments of an update, or the columns of the innermost query. -/
inductive Statement.Lists (c : Compiler) (streams : StreamStore) (t : Session)
    (compiled : CompiledStatement) : Statement → List String → Prop
  | insert {i : InsertStatement} {table : Token} {columns values : List String} {u v : Session} :
    (writtenTable i.target).Yields c.context (Session.initial streams) table u →
    (i.values.mapM fun a => assignedColumn a.column).Yields c.context u columns v →
    (i.values.mapM fun a => assignedValue a.value).Yields c.context v values t →
    columns.length = i.values.length ∧ entries (", ".intercalate columns) = columns →
    compiled.statement.sql = "INSERT INTO " ++ table.text c.dialect ++ " (" ++
      ", ".intercalate columns ++ ") VALUES (" ++
      ", ".intercalate (values.map t.parameters.settled) ++ ")" →
    Lists c streams t compiled (.insert i) (values.map t.parameters.settled)
  | update {w : UpdateStatement} {table : Token} {assignments : List String}
      {condition : List Token} {u v : Session} :
    (writtenTable w.target).Yields c.context (Session.initial streams) table u →
    (w.assignments.mapM assignment).Yields c.context u assignments v →
    (conditionClause w.filter).Yields c.context v condition t →
    compiled.statement.sql = "UPDATE " ++ table.text c.dialect ++ " SET " ++
      ", ".intercalate (assignments.map t.parameters.settled) ++
      t.parameters.settled (sqlText c.dialect condition) →
    Lists c streams t compiled (.update w) (assignments.map t.parameters.settled)
  | select {q : SelectQuery} {sql rest : String} :
    q.renderOuter.Yields c.context (Session.initial streams) ⟨sql, compiled.columns⟩ t →
    peel compiled.statement.sql.toList = (c.dialect.pageColumns q.limit q.offset,
      ("SELECT " ++ (if q.distinct then "DISTINCT " else "") ++
        ", ".intercalate (compiled.columns.map fun column => t.parameters.settled column.text) ++
        " FROM " ++ rest).toList) →
    Lists c streams t compiled (.select q)
      (compiled.columns.map fun column => t.parameters.settled column.text)

/-- The lists of a statement are the same under a model that knows only its names. -/
theorem Statement.Lists.of_restricted (hregistry : c.context.registry.IsPlain) {st : Statement}
    {compiled : CompiledStatement}
    (h : st.Lists (c.restricted st.names) streams t compiled texts) :
    st.Lists c streams t compiled texts := by
  have hroot : (Session.initial streams).scope.Knows st.names := Scope.knows_root
  cases h with
  | @insert i _ _ _ _ _ htable hcolumns hvalues hentries hsql =>
    obtain ⟨htarget, hassigned⟩ := List.append_subset.mp (List.Subset.refl (Statement.insert i).names)
    obtain ⟨htable, hu⟩ :=
      Compiler.yields_of_restricted (asks_writtenTable hregistry _ htarget) hroot htable
    obtain ⟨hcolumns, hv⟩ := Compiler.yields_of_restricted (asks_columns hassigned) hu hcolumns
    obtain ⟨hvalues, _⟩ := Compiler.yields_of_restricted (asks_values hregistry hassigned) hv hvalues
    exact .insert htable hcolumns hvalues hentries hsql
  | @update w _ _ _ _ _ htable hassignments hcondition hsql =>
    obtain ⟨hchanged, hfilter⟩ := List.append_subset.mp (List.Subset.refl (Statement.update w).names)
    obtain ⟨htarget, hassigned⟩ := List.append_subset.mp hchanged
    obtain ⟨htable, hu⟩ :=
      Compiler.yields_of_restricted (asks_writtenTable hregistry _ htarget) hroot htable
    obtain ⟨hassignments, hv⟩ :=
      Compiler.yields_of_restricted (asks_assignments hregistry hassigned) hu hassignments
    obtain ⟨hcondition, _⟩ :=
      Compiler.yields_of_restricted (asks_conditionClause hregistry _ hfilter) hv hcondition
    exact .update htable hassignments hcondition hsql
  | @select q _ _ hrun hpeel =>
    have hasks : q.renderOuter.Asks c.context q.names :=
      SelectQuery.asks_outer hregistry q (List.Subset.refl _)
    exact .select ((Compiler.yields_restricted hasks).mp hrun) hpeel

/-! ## Texts of statements -/

theorem IsIdentifier.noColon {a : String} (h : IsIdentifier false a) : NoColon a :=
  fun hmem => absurd (h.word _ hmem) (by decide)

theorem IsDotted.noColon {a : String} (h : IsDotted false a) : NoColon a := by
  induction h with
  | name hname => exact hname.noColon
  | dot _ _ iha ihb => exact noColon_append (noColon_append iha (by decide)) ihb

theorem noColon_intercalate (h : ∀ a ∈ texts, NoColon a) : NoColon (", ".intercalate texts) := by
  induction texts with
  | nil => decide
  | cons first rest ih =>
    obtain ⟨hfirst, hrest⟩ := List.forall_mem_cons.mp h
    cases rest with
    | nil => simpa using hfirst
    | cons next rest =>
      rw [String.intercalate_cons_cons]
      exact noColon_append (noColon_append hfirst (by decide)) (ih hrest)

/-- What stands in front of the values of an insertion has no colons. -/
theorem noColon_insertion {table : String} (htable : IsDotted false table)
    (h : ∀ a ∈ texts, IsIdentifier false a) :
    NoColon ("INSERT INTO " ++ table ++ " (" ++ ", ".intercalate texts ++ ") VALUES (") := by
  have hcolumns := noColon_intercalate fun a ha => (h a ha).noColon
  have htable := noColon_append (a := "INSERT INTO ") (by decide) htable.noColon
  exact noColon_append (noColon_append (noColon_append htable (by decide)) hcolumns) (by decide)

theorem entries_identifiers (hne : texts ≠ []) (h : ∀ a ∈ texts, IsIdentifier false a) :
    entries (", ".intercalate texts) = texts := by
  refine entries_intercalate hne fun a ha => conforms_word (h a ha).word fun hrule => ?_
  exact absurd hrule (by decide)

theorem sqlText_insertion (d : Dialect) (table : Token) (columns values : List String) :
    sqlText d ([Token.insert, .space, .into, .space, table, .space, .leftParen] ++
      commaSeparated columns ++ [Token.rightParen, .space, .values, .space, .leftParen] ++
      commaSeparated values ++ [Token.rightParen]) =
    "INSERT INTO " ++ table.text d ++ " (" ++ ", ".intercalate columns ++ ") VALUES (" ++
      ", ".intercalate values ++ ")" := by
  have hopening : sqlText d [Token.insert, .space, .into, .space, table, .space, .leftParen] =
      "INSERT INTO " ++ table.text d ++ " (" := by
    simp [Token.text, sqlText, ← String.append_assoc]
  have hbetween : sqlText d [Token.rightParen, .space, .values, .space, .leftParen] =
    ") VALUES (" := rfl
  have hclosing : sqlText d [Token.rightParen] = ")" := rfl
  simp only [sqlText_append, sqlText_commaSeparated, hopening, hbetween, hclosing]

theorem sqlText_change (d : Dialect) (table : Token) (assignments : List String)
    (condition : List Token) :
    sqlText d ([Token.update, .space, table, .space, .set, .space] ++
      commaSeparated assignments ++ condition) =
    "UPDATE " ++ table.text d ++ " SET " ++ ", ".intercalate assignments ++ sqlText d condition := by
  have hopening : sqlText d [Token.update, .space, table, .space, .set, .space] =
      "UPDATE " ++ table.text d ++ " SET " := by
    simp [Token.text, sqlText, ← String.append_assoc]
  rw [sqlText_append, sqlText_append, sqlText_commaSeparated, hopening]

theorem sqlText_selecting (d : Dialect) (distinct : Bool) (columns : List ProjectedColumn) :
    selecting d distinct columns = "SELECT " ++ (if distinct then "DISTINCT " else "") ++
      ", ".intercalate (columns.map ProjectedColumn.text) ++ " FROM " := by
  have hopening : sqlText d ([Token.select, .space] ++
      (if distinct then [Token.distinct, .space] else [])) =
        "SELECT " ++ (if distinct then "DISTINCT " else "") := by
    cases distinct <;> rfl
  have hclosing : sqlText d [Token.space, .from, .space] = " FROM " := rfl
  rw [selecting, sqlText_append, sqlText_append, sqlText_commaSeparated, hopening, hclosing]

/-! ## Rows of statements -/

theorem validate_of_mem {assignments : List Assignment}
    (h : validateAssignments assignments = .ok ()) : ∀ a ∈ assignments, a.validate = .ok () := by
  induction assignments with
  | nil => nofun
  | cons first rest ih =>
    rw [validateAssignments, ok_then_iff] at h
    exact List.forall_mem_cons.mpr ⟨h.1, ih h.2⟩

theorem upholds_conditionClause {base : Context} {W : Wording} (hregistry : base.registry.IsPlain)
    (hmodel : ∀ s ∈ modelNames base.model, IsIdentifier W.strict s) {filter : Option Filter}
    (h : ∀ i ∈ conditionIngredients filter, W.Has i) :
    (conditionClause filter).Upholds base (Scope.IsWorded W.strict) fun _ _ => True := by
  cases filter with
  | none => exact .pure fun _ => trivial
  | some f =>
    refine .bind (Expression.laid hregistry hmodel (.filter f) W.obeys_anything h
      (.inl rfl)) fun _ _ => ?_
    exact .pure fun _ _ => trivial

section Lists

variable (hregistry : c.registry = none) (hmodel : ∀ s ∈ modelNames c.model, IsIdentifier false s)
  {compiled : CompiledStatement}

include hregistry hmodel

/-- An insertion has its values in one list, behind as many columns. -/
theorem InsertStatement.lists {i : InsertStatement}
    (hwords : ∀ x ∈ (Statement.insert i).ingredients, Wording.uncut.Has x) {sql : String}
    (hrun : i.render.Yields c.context (Session.initial streams) sql t)
    (hsql : compiled.statement.sql = t.parameters.settled sql) :
    ∃ values, Expression.Rows t.parameters (i.values.map Assignment.value) values ∧
      (Statement.insert i).Lists c streams t compiled (values.map t.parameters.settled) := by
  have hplain := Compiler.registry_isPlain hregistry
  rw [Statement.ingredients, List.forall_mem_append, List.forall_mem_flatMap] at hwords
  obtain ⟨htarget, heach⟩ := hwords
  have hnames : ∀ a ∈ i.values, ∀ s ∈ a.column.names, IsIdentifier false s := by
    intro a ha
    have ha := heach a ha
    rw [Assignment.ingredients, List.forall_mem_append, Wording.has_named] at ha
    exact ha.1
  unfold InsertStatement.render at hrun
  obtain ⟨_, hvalid, hrun⟩ := yields_ofResult_bind.mp hrun
  rw [InsertStatement.validate, ok_then_iff, ok_unless_iff, List.isEmpty_iff] at hvalid
  obtain ⟨_, hne, hvalid⟩ := hvalid
  have hcolumn : (i.values.mapM fun a => assignedColumn a.column).Upholds c.context
      (Scope.IsWorded false) fun _ columns =>
        List.Forall₂ (fun _ column => IsIdentifier false column) i.values columns :=
    .mapM fun a ha => isIdentifier_assignedColumn (W := .uncut) hmodel (hnames a ha)
  have hvalue : (i.values.mapM fun a => assignedValue a.value).Upholds c.context
      (Scope.IsWorded false) fun acc values => List.Forall₂ (fun a text =>
        Row (LaysText Wording.uncut.value acc .uncut) (max 1 a.value.width) text) i.values values :=
    .mapM fun a ha => row_assignedValue (W := .uncut) hplain hmodel
      (validate_of_mem hvalid a ha) (heach a ha)
  obtain ⟨table, u, htable, hrun⟩ := yields_bind.mp hrun
  obtain ⟨columns, v, hcolumns, hrun⟩ := yields_bind.mp hrun
  obtain ⟨values, w, hvalues, hrun⟩ := yields_bind.mp hrun
  obtain ⟨rfl, rfl⟩ := yields_write.mp hrun
  -- the scopes stay worded from one part of the statement to the next
  obtain ⟨hu, _, _, hdotted⟩ := @dotted_writtenTable c.context .uncut hplain hmodel _ htarget []
    _ _ _ Scope.isWorded_root (by simp) htable
  obtain ⟨hv, _, _, hidentifiers⟩ := @hcolumn [] _ _ _ hu (by simp) hcolumns
  obtain ⟨_, _, _, hrows⟩ := @hvalue [] _ _ _ hv (by simp) hvalues
  have hidentifiers := hidentifiers _ (.refl _)
  have hlist : Expression.Rows t.parameters (i.values.map Assignment.value) values :=
    .of_forall₂ hne (hrows _ (.refl _))
  have hcolumnsne : columns ≠ [] := by
    rintro rfl
    exact hne (List.forall₂_nil_right_iff.mp hidentifiers)
  refine ⟨values, hlist, .insert htable hcolumns hvalues ⟨hidentifiers.length_eq.symm, ?_⟩ ?_⟩
  · exact entries_identifiers hcolumnsne (forall_mem_of_forall₂ hidentifiers)
  · have hdotted : IsDotted false (table.text c.dialect) := hdotted _ (.refl _)
    have hopening := noColon_insertion hdotted (forall_mem_of_forall₂ hidentifiers)
    rw [hsql]
    show t.parameters.settled (sqlText c.dialect _) = _
    rw [sqlText_insertion, hlist.settled_around hopening, Accumulator.settled_of_noColon (by decide)]

/-- An update has its assignments in one list. -/
theorem UpdateStatement.lists {w : UpdateStatement}
    (hwords : ∀ x ∈ (Statement.update w).ingredients, Wording.uncut.Has x) {sql : String}
    (hrun : w.render.Yields c.context (Session.initial streams) sql t)
    (hsql : compiled.statement.sql = t.parameters.settled sql) :
    ∃ assignments, Expression.Rows t.parameters (w.assignments.map Assignment.value) assignments ∧
      (Statement.update w).Lists c streams t compiled (assignments.map t.parameters.settled) := by
  have hplain := Compiler.registry_isPlain hregistry
  rw [Statement.ingredients, List.forall_mem_append, List.forall_mem_append,
    List.forall_mem_flatMap] at hwords
  obtain ⟨⟨htarget, heach⟩, hfilter⟩ := hwords
  unfold UpdateStatement.render at hrun
  obtain ⟨_, hvalid, hrun⟩ := yields_ofResult_bind.mp hrun
  rw [UpdateStatement.validate_iff, List.isEmpty_iff] at hvalid
  obtain ⟨_, hne, hvalid, _⟩ := hvalid
  have hassignment : (w.assignments.mapM assignment).Upholds c.context (Scope.IsWorded false)
      fun acc texts => List.Forall₂ (fun a text =>
        Row (LaysText Wording.uncut.value acc .uncut) (max 1 a.value.width) text)
          w.assignments texts :=
    .mapM fun a ha => row_assignment (W := .uncut) hplain hmodel
      (validate_of_mem hvalid a ha) (heach a ha)
  obtain ⟨table, u, htable, hrun⟩ := yields_bind.mp hrun
  obtain ⟨assignments, v, hassignments, hrun⟩ := yields_bind.mp hrun
  obtain ⟨condition, _, hcondition, hrun⟩ := yields_bind.mp hrun
  obtain ⟨rfl, rfl⟩ := yields_write.mp hrun
  -- the condition adds its parameters behind those of the assignments
  obtain ⟨hu, _, _, hdotted⟩ := @dotted_writtenTable c.context .uncut hplain hmodel _ htarget []
    _ _ _ Scope.isWorded_root (by simp) htable
  obtain ⟨hv, _, _, hrows⟩ := @hassignment [] _ _ _ hu (by simp) hassignments
  obtain ⟨_, _, hgrow, _⟩ := @upholds_conditionClause c.context .uncut hplain hmodel _ hfilter []
    _ _ _ hv (by simp) hcondition
  have hlist : Expression.Rows t.parameters (w.assignments.map Assignment.value) assignments :=
    .of_forall₂ hne (hrows _ hgrow)
  refine ⟨assignments, hlist, .update htable hassignments hcondition ?_⟩
  have hopening : NoColon ("UPDATE " ++ table.text c.dialect ++ " SET ") :=
    noColon_append (noColon_append (by decide) (hdotted _ (.refl _)).noColon) (by decide)
  rw [hsql]
  show t.parameters.settled (sqlText c.dialect _) = _
  rw [sqlText_change, hlist.settled_around hopening]

/-- The columns of a query are the rows of its selections. -/
theorem SelectQuery.rows_columns {q : SelectQuery} {p : Projection} (hp : q.projection = some p)
    (hwords : ∀ x ∈ q.ingredients, Wording.uncut.Has x) {clauses : SelectClauses}
    (h : q.outerClauses.Yields c.context (Session.initial streams) clauses t) :
    Expression.Rows t.parameters (p.selections.map Selection.expr)
      (clauses.columns.map ProjectedColumn.text) := by
  have houter := row_outerClauses (W := .uncut) (Compiler.registry_isPlain hregistry) hmodel hp hwords
  obtain ⟨_, _, _, hrows⟩ := @houter [] _ _ _ Scope.isWorded_root (by simp) h
  obtain ⟨_, _, h⟩ := SelectQuery.exists_clausesFrom h
  obtain ⟨_, _, _, _, _, hprojected⟩ := SelectQuery.clauses_of_clausesFrom h
  rw [hp] at hprojected
  have hne : clauses.columns ≠ [] := (Projection.length_columns hprojected).2
  refine ⟨by simpa using hne, ?_⟩
  rw [List.forall₂_map_left_iff, List.forall₂_map_right_iff]
  exact hrows _ (.refl _)

/-- The innermost statement of a page starts with the columns of its query. -/
theorem SelectQuery.lists {q : SelectQuery} {p : Projection} (hp : q.projection = some p)
    (hwords : ∀ x ∈ q.ingredients, Wording.uncut.Has x) {sql : String}
    (hrun : q.renderOuter.Yields c.context (Session.initial streams) ⟨sql, compiled.columns⟩ t)
    (hprepared : (prepare sql).Yields c.context t compiled.statement u) :
    ∃ columns, Expression.Rows t.parameters (p.selections.map Selection.expr) columns ∧
      (Statement.select q).Lists c streams t compiled (columns.map t.parameters.settled) := by
  obtain ⟨_, clauses, hclauses, ⟨paged, hpaged, hsql⟩, hlisted⟩ :=
    SelectQuery.yields_renderOuter_clauses.mp hrun
  have hlisted : clauses.columns = compiled.columns := hlisted.symm
  have hsql : sql = c.dialect.lock paged q.lock := hsql
  have hlist := SelectQuery.rows_columns hregistry hmodel hp hwords hclauses
  have hne : clauses.columns ≠ [] := by simpa using hlist.ne_nil
  obtain ⟨_, _, hclauses⟩ := SelectQuery.exists_clausesFrom hclauses
  obtain ⟨hdistinct, _⟩ := SelectQuery.clauses_of_clausesFrom hclauses
  -- A page and a lock write around the query, so its list is found behind the headers.
  obtain ⟨opening, closing, hpage, hheads⟩ := c.dialect.heads_page hpaged
  obtain ⟨clause, hlock⟩ := c.dialect.lock_eq q.lock
  rw [hsql, hlock, hpage, String.append_assoc] at hprepared
  obtain ⟨rest, inner, hinner, hpeel, _⟩ := peel_of_prepare hheads hne hprepared
  have hopening : NoColon ("SELECT " ++ (if q.distinct then "DISTINCT " else "")) := by
    cases q.distinct <;> decide
  have hsource : t.parameters.SettlesText " FROM " := .of_noColon (by decide)
  have hinner := settled_of_prepare (Compiler.registry_isPlain hregistry) hinner
  rw [hdistinct, sqlText_selecting, String.append_assoc, hlist.settled_around hopening,
    hsource.settled_append, Accumulator.settled_of_noColon (by decide), List.map_map, hlisted,
    ← String.append_assoc] at hinner
  refine ⟨_, hlist, ?_⟩
  rw [List.map_map, hlisted]
  exact .select hrun (hpeel.trans (by rw [hinner]; rfl))

end Lists

/-- The list of a compiled statement has as many entries as its expressions have together. These
are the expressions one by one if and only if none of them is a list literal of several items.
The statement has no raw SQL, its names are words, and the texts around the markers of its
parameters have no comma outside of parentheses. -/
theorem entries_are_slots_iff (hregistry : c.registry = none) {st : Statement}
    (hmodel : ∀ s ∈ mappedNames c.model st.names, IsIdentifier false s)
    {slots : List Expression} (hslots : st.slots = some slots)
    (hwords : ∀ x ∈ st.ingredients, Wording.uncut.Has x) {streams' : StreamStore}
    {compiled : CompiledStatement} (h : c.compile st streams = (.ok compiled, streams')) :
    ∃ t texts, st.Lists c streams t compiled texts ∧ texts.length = slots.length ∧
      (entries (", ".intercalate texts)).length = (slots.map fun e => max 1 e.width).sum ∧
      (entries (", ".intercalate texts) = texts ↔ ∀ e ∈ slots, e.width ≤ 1) := by
  have hplain := Compiler.registry_isPlain hregistry
  have hmodel : ∀ s ∈ modelNames (c.restricted st.names).model, IsIdentifier false s :=
    fun s hs => hmodel s (modelNames_restricted hs)
  rw [← Compiler.compile_restricted hplain] at h
  obtain ⟨⟨sql, columns⟩, t, u, hrun, hprepared, _, hcolumns⟩ := compile_eq_ok h
  obtain rfl : compiled.columns = columns := hcolumns
  have hrestricted : (c.restricted st.names).context.registry.IsPlain := hplain
  have hsettled := settled_of_prepare hrestricted hprepared
  have hlists : ∃ texts, Expression.Rows t.parameters slots texts ∧
      st.Lists (c.restricted st.names) streams t compiled (texts.map t.parameters.settled) := by
    cases st with
    | select q =>
      obtain ⟨p, hp, rfl⟩ := Option.map_eq_some_iff.mp hslots
      exact SelectQuery.lists (c := c.restricted _) hregistry hmodel hp hwords hrun hprepared
    | insert i =>
      obtain rfl := Option.some.inj hslots
      obtain ⟨_, _, hrun, hpure⟩ := yields_bind.mp hrun
      obtain ⟨heq, rfl⟩ := yields_pure.mp hpure
      obtain ⟨rfl, _⟩ := RenderedSelect.mk.inj heq
      exact InsertStatement.lists (c := c.restricted _) hregistry hmodel hwords hrun hsettled
    | update w =>
      obtain rfl := Option.some.inj hslots
      obtain ⟨_, _, hrun, hpure⟩ := yields_bind.mp hrun
      obtain ⟨heq, rfl⟩ := yields_pure.mp hpure
      obtain ⟨rfl, _⟩ := RenderedSelect.mk.inj heq
      exact UpdateStatement.lists (c := c.restricted _) hregistry hmodel hwords hrun hsettled
    | delete s => cases hslots
  obtain ⟨texts, hrows, hlists⟩ := hlists
  have hne : texts.map t.parameters.settled ≠ [] := by simpa using hrows.ne_nil
  refine ⟨t, _, hlists.of_restricted hplain, ?_, length_entries hrows.settled hne, ?_⟩
  · rw [List.length_map, hrows.rows.length_eq]
  · rw [entries_eq_iff hrows.settled hne, List.forall_mem_map]
    exact forall₂_congr fun e _ => by omega

/-- An insertion of a row with two columns. -/
def pairInsertion (a b : Expression) : Statement :=
  .insert {
    target := .target { schema := none, table := "t", aliasName := none, joins := [], entity := none }
    values := [⟨.ofName "a", a⟩, ⟨.ofName "b", b⟩]
    generatedKeys := [] }

/-- A function of two values, and a sub-select with two columns. -/
def callInsertion : Statement :=
  let columns : List Selection := [⟨.path (.ofName "c"), none⟩, ⟨.path (.ofName "d"), none⟩]
  let rows : SelectQuery := { SelectQuery.ofSource (.target {
    schema := none, table := "u", aliasName := none, joins := [], entity := none }) with
      projection := some ⟨columns, none, none⟩ }
  pairInsertion
    (.function ⟨.custom "coalesce", [.literal ⟨.int 1, none⟩, .literal ⟨.int 2, none⟩], false⟩)
    (.query rows)

/-- Commas between the arguments of a function and those of a sub-select end no entry. -/
theorem entries_are_slots_iff_of_call :
    ∃ compiled streams' t texts,
      (Compiler.ansi .explicitOnly).compile callInsertion {} = (.ok compiled, streams') ∧
      callInsertion.Lists (Compiler.ansi .explicitOnly) {} t compiled texts ∧
      texts.length = 2 ∧ entries (", ".intercalate texts) = texts := by
  obtain ⟨compiled, streams', h⟩ := exists_of_isOk
    (by decide +kernel : ((Compiler.ansi .explicitOnly).compile callInsertion {}).1.isOk = true)
  obtain ⟨t, texts, hlists, hlength, _, hentries⟩ :=
    entries_are_slots_iff rfl (by decide) rfl (by decide +kernel) h
  exact ⟨compiled, streams', t, texts, h, hlists, hlength, hentries.mpr (by decide)⟩

/-- A list literal for the first of two columns. -/
def listInsertion : Statement :=
  pairInsertion (.literal ⟨.list [.int 1, .int 2], none⟩) (.literal ⟨.int 3, none⟩)

/-- A list literal of two items is two values for one column. -/
theorem list_fills_two_slots :
    ((Compiler.ansi .explicitOnly).compile listInsertion {}).1.toOption.map
      (fun compiled => compiled.statement.sql) = some "INSERT INTO t (a, b) VALUES (?, ?, ?)" ∧
    listInsertion.slots.map List.length = some 2 ∧
    entries "a, b" = ["a", "b"] ∧ entries "?, ?, ?" = ["?", "?", "?"] := by
  decide +kernel

end SqlCompose
