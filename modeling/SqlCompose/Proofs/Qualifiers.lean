import SqlCompose.Proofs.Reaching

/-!
# SqlCompose.Proofs.Qualifiers -- the tables that column references name

A qualified path names a table by a key. It is written with the qualifier of what
the nearest scope has bound under that key. The clause of the scope lists the same
table with the same alias, so the reference names what the clause declares.
-/

namespace SqlCompose

open Compose

variable {base : Context} {d : Dialect}

/-! ## References -/

/-- A path whose key is bound is written with the qualifier of what it is bound to. -/
theorem text_of_bound {ctx : Context} {s t : Session} (hplain : ctx.registry.IsPlain)
    {p parent : Path} {b : Binding} {text : String} (hparent : p.parent = some parent)
    (halias : parent.aliasName = none)
    (hbound : findBinding parent.key true (s.scope :: ctx.enclosing) = some b)
    (h : (Expression.toSql (.path p)).Yields ctx s text t) :
    text = b.qualifier ++ "." ++ mappedColumn ctx.model (some b) p.name := by
  rw [Expression.toSql] at h
  obtain ⟨_, _, hsql, _⟩ := (yields_resolveText hplain).mp h
  have hqualifier : (findAlias ctx.aliasMode parent true (s.scope :: ctx.enclosing)).or
      ((some b).map Binding.qualifier) = some b.qualifier := by
    unfold findAlias
    rw [hbound, halias]
    cases ctx.aliasMode <;> cases haliasName : b.aliasName <;>
      simp [Binding.qualifier, haliasName]
  unfold Path.sql at hsql
  simp only [hparent, yields_aliasMode_bind, yields_lookup_bind, yields_column_bind, hbound,
    hqualifier] at hsql
  exact (yields_pure.mp hsql).1

/-! ## Declared tables -/

/-- A clause lists a source as itself unless a later source is bound under its name. -/
theorem BoundSource.getElem?_listed {before after : List BoundSource} {x : BoundSource}
    (hafter : ∀ y ∈ after, x.name ∉ y.keys) :
    (listed (before ++ x :: after))[before.length]? = some x.binding := by
  have hfind : find x.name (before ++ x :: after) = some x.binding :=
    find_of_last x.name_mem_keys hafter
  rw [listed, List.getElem?_map, List.getElem?_append_right (Nat.le_refl _), Nat.sub_self,
    List.getElem?_cons_zero, Option.map_some, hfind]
  rfl

/-- The frames of a compiled statement tell about its scopes from the start. -/
theorem sound_of_compile {c : Compiler} (hplain : c.context.registry.IsPlain) {st : Statement}
    {ok : RelationalTarget → Prop} (hroot : ∀ target, ok target → target.KeepsRoot)
    (hsuits : ∀ y, Contains c.dialect c.model st.expressions y → y.Suits ok c.model)
    {streams streams' : StreamStore} {compiled : CompiledStatement}
    (h : c.compile st streams = (.ok compiled, streams')) {start : Place} {es : List Expression}
    (hstart : st.Starts c.context (Session.initial streams) start es) :
    Sound c.context ok (fun _ => True) start es := by
  obtain ⟨rendered, t, _, hrun, _⟩ := compile_eq_ok h
  have hselects : ∀ (chain : List Scope) (target : RelationalTarget) (clause : String), ok target →
      target.validate = .ok () → (fun _ : Frame => True) ⟨target,
        (Scope.inside chain .statement).seedSources c.context.aliasMode target, clause⟩ :=
    fun _ _ _ _ _ => trivial
  cases hwritten : st.written with
  | some e => exact sound_written hplain rfl (fun _ _ => trivial) hwritten hstart hsuits hrun
  | none =>
    cases st with
    | select q => exact sound_select hplain rfl hroot hselects hstart hsuits hrun
    | insert s => cases hwritten
    | update s => cases hwritten
    | delete s => cases hwritten

/-- The column references of a compiled statement name tables that are declared where
they stand: the qualifier of a path is the alias, or else the table, with which the
clause of its scope lists the source that the key of the path belongs to. -/
theorem qualifier_is_listed {c : Compiler} (hplain : c.context.registry.IsPlain) {st : Statement}
    (hsuits : ∀ y, Contains c.dialect c.model st.expressions y →
      y.Suits RelationalTarget.KeepsRoot c.model)
    {streams streams' : StreamStore} {compiled : CompiledStatement}
    (h : c.compile st streams = (.ok compiled, streams')) {start place : Place}
    {es : List Expression} {p parent : Path}
    (hstart : st.Starts c.context (Session.initial streams) start es)
    (hreach : Reaches c.context start es place (.path p))
    (hparent : p.parent = some parent) (halias : parent.aliasName = none)
    {frame : Frame} {outer : List Frame} (hframes : place.frames = frame :: outer)
    {before after : List BoundSource} {x : BoundSource}
    (hsources : frame.sources = before ++ x :: after) (hkey : parent.key ∈ x.keys)
    (hafter : ∀ y ∈ after, parent.key ∉ y.keys ∧ x.name ∉ y.keys) :
    (∃ text t, (Expression.toSql (.path p)).Yields
        (place.context c.context) place.session text t ∧
      text = x.binding.qualifier ++ "." ++ mappedColumn c.model (some x.binding) p.name) ∧
    (BoundSource.listed frame.sources)[before.length]? = some x.binding ∧
    ∃ ons, List.Forall₂ Join.IsCondition frame.target.joins ons ∧
      frame.clause = sqlText c.dialect
        (frame.target.clauseTokens (BoundSource.listed frame.sources) ons) := by
  have hroot : ∀ target : RelationalTarget, target.KeepsRoot → target.KeepsRoot :=
    fun _ hok => hok
  have hselects : ∀ (chain : List Scope) (target : RelationalTarget) (clause : String),
      target.KeepsRoot → target.validate = .ok () → (fun _ : Frame => True) ⟨target,
        (Scope.inside chain .statement).seedSources c.context.aliasMode target, clause⟩ :=
    fun _ _ _ _ _ => trivial
  obtain ⟨hnest, text, u, htext⟩ :=
    hreach.sound hplain hroot hselects (sound_of_compile hplain hroot hsuits h hstart)
  -- no source behind it has the key, so the nearest scope finds this one
  have hbound : findBinding parent.key true place.chain = some x.binding := by
    rw [hnest.findBinding_eq, hframes, List.findSome?_cons, hsources,
      BoundSource.find_of_last hkey fun y hy => (hafter y hy).1]
  refine ⟨⟨text, u, htext,
    text_of_bound (place.registry_isPlain hplain) hparent halias hbound htext⟩, ?_, ?_⟩
  · rw [hsources]
    exact BoundSource.getElem?_listed fun y hy => (hafter y hy).2
  · exact hnest.clauses frame (by rw [hframes]; exact List.mem_cons_self)

/-- A column of a table. -/
def Path.column (table name : String) : Path := .child (.ofName table) name none

/-- Persons with their departments. The join and its table have different names. -/
def staffTarget (aliasName : String) : RelationalTarget :=
  let join : Join := {
    kind := .inner, name := "dept", source := "department", aliasName := some aliasName
    on := none, entity := none }
  { schema := none, table := "person", aliasName := some "p", joins := [join], entity := none }

/-- The persons that meet a condition. -/
def staffQuery (aliasName : String) (filter : Filter) : SelectQuery :=
  { SelectQuery.ofSource (.target (staffTarget aliasName)) with filter := some filter }

/-- A column of some table has no value. -/
def Filter.missing (table : String) : Filter := .nullTest false (.path (.column table "c"))

theorem suits_staffQuery (table : String) :
    ∀ y, Contains (.new .ansi) none (Statement.select (staffQuery "d" (.missing table))).expressions y →
      y.Suits RelationalTarget.KeepsRoot none := by
  intro y hy
  simp [contains_cons, contains_nil, staffQuery, staffTarget, SelectQuery.ofSource, Filter.missing,
    Expression.operands, SelectQuery.operands, Expression.target?, Join.conditions,
    projectedExpressions, Filter.operands, Statement.expressions] at hy
  rcases hy with rfl | rfl | rfl
  · intro target htarget
    cases htarget
    simp [RelationalTarget.KeepsRoot]
  · trivial
  · trivial

/-- Where such a query resolves its operands. -/
def staffPlace : Place where
  enclosing := []
  session := { Session.initial {} with scope := Scope.root.seed .explicitOnly (staffTarget "d") }
  frames := [⟨staffTarget "d", Scope.root.seedSources .explicitOnly (staffTarget "d"),
    "person p INNER JOIN department d"⟩]

/-- A column of the joined table is asked for by the name of the join. -/
theorem qualifier_is_listed_of_joined :
    ∃ es, Statement.Starts (Compiler.ansi .explicitOnly).context (Session.initial {})
        (.select (staffQuery "d" (.missing "dept"))) staffPlace es ∧
      Reaches (Compiler.ansi .explicitOnly).context staffPlace es staffPlace
        (.path (.column "dept" "c")) ∧
      (∃ t, (Expression.path (.column "dept" "c")).toSql.Yields
        (staffPlace.context (Compiler.ansi .explicitOnly).context) staffPlace.session "d.c" t) ∧
      ∃ ons, "person p INNER JOIN department d" = sqlText (.new .ansi)
        ((staffTarget "d").clauseTokens
          [⟨none, "person", some "p", none⟩, ⟨none, "department", some "d", none⟩] ons) := by
  have hplain : (Compiler.ansi .explicitOnly).context.registry.IsPlain := Dialect.registry_isPlain _
  have hok : ((Compiler.ansi .explicitOnly).compile
      (.select (staffQuery "d" (.missing "dept"))) {}).1.isOk = true := by
    decide +kernel
  obtain ⟨compiled, streams', h⟩ := exists_of_isOk hok
  have hsource : (staffQuery "d" (.missing "dept")).source.source? none =
      some (RelationalTarget.toSource (staffTarget "d")) := rfl
  have htext : ((RelationalTarget.toSource (staffTarget "d")).resolveSql.outcome
      (Compiler.ansi .explicitOnly).context staffPlace.session).1.toOption =
        some "person p INNER JOIN department d" := by
    decide +kernel
  obtain ⟨t, hclause⟩ := exists_of_toOption htext
  have hstart : Statement.Starts (Compiler.ansi .explicitOnly).context
      (Session.initial {}) (.select (staffQuery "d" (.missing "dept"))) staffPlace
      [.filter (.missing "dept")] :=
    .select (s := Session.initial {}) (q := staffQuery "d" (.missing "dept")) hsource hclause
  have hreach : Reaches (Compiler.ansi .explicitOnly).context staffPlace
      [.filter (.missing "dept")] staffPlace (.path (.column "dept" "c")) := .operand .here
  have hsources : Scope.root.seedSources .explicitOnly (staffTarget "d") =
      [(staffTarget "d").bound (some "p")] ++
        (⟨"dept", [], some "d", ⟨none, "department", some "d", none⟩⟩ : BoundSource) :: [] := rfl
  obtain ⟨⟨text, u, hrun, htext⟩, _, ons, _, hlisted⟩ :=
    qualifier_is_listed hplain (suits_staffQuery "dept") h hstart hreach rfl rfl rfl
      hsources (by decide) (by simp)
  obtain rfl : text = "d.c" := htext
  exact ⟨_, hstart, hreach, ⟨u, hrun⟩, ons, hlisted⟩

/-- A compiler of an application that answers all paths itself. -/
def Compiler.answering (mode : AliasMode) : Compiler :=
  { Compiler.ansi mode with
    registry := some ((Dialect.new .ansi).registry.register
      { name := "paths", kind := .path, form := .sql, priority := 20
        action := .custom fun _ => pure (some (.sql "x.c")) }) }

/-- The text of a statement. -/
def Statement.textOf (st : Statement) (c : Compiler) : Option String :=
  (c.compile st {}).1.toOption.map fun compiled => compiled.statement.sql

/-- The name of the table of a join that has an alias is not bound, and neither is an
alias that the mode or the statement drops. A column that is asked for by one of these
is written with a name that the clause does not declare. So is one of a join whose
name a target among the operands takes over, one of the target where the alias of a
join is empty, and one that an application answers. -/
theorem joined_table_is_not_declared :
    (Statement.select (staffQuery "d" (.missing "department"))).textOf (.ansi .explicitOnly) =
        some "SELECT * FROM person p INNER JOIN department d WHERE department.c IS NULL" ∧
      (Statement.select (staffQuery "d" (.missing "p"))).textOf (.ansi .unsupported) =
        some "SELECT * FROM person INNER JOIN department WHERE p.c IS NULL" ∧
      (Statement.delete ⟨.target ⟨none, "person", some "p", [], none⟩,
          some (.missing "p")⟩).textOf (.ansi .explicitOnly) =
        some "DELETE FROM person WHERE p.c IS NULL" ∧
      (Statement.select (staffQuery "d" (.junction .and [
          .nullTest false (.target ⟨none, "dept", some "z", [], none⟩),
          .missing "dept"]))).textOf (.ansi .explicitOnly) =
        some ("SELECT * FROM person p INNER JOIN department d " ++
          "WHERE (dept z IS NULL) AND (z.c IS NULL)") ∧
      (Statement.select (staffQuery "" (.missing "person"))).textOf (.ansi .explicitOnly) =
        some "SELECT * FROM person  INNER JOIN department  WHERE p.c IS NULL" ∧
      (Statement.select (staffQuery "d" (.missing "dept"))).textOf (.answering .explicitOnly) =
        some "SELECT * FROM person p INNER JOIN department d WHERE x.c IS NULL" := by
  refine ⟨?_, ?_, ?_, ?_, ?_, ?_⟩
  · decide +kernel
  · decide +kernel
  · decide +kernel
  · decide +kernel
  · decide +kernel
  · decide +kernel

end SqlCompose
