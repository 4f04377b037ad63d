import SqlCompose.Proofs.Alongside
import SqlCompose.Proofs.Binding
import SqlCompose.Proofs.Prepared
import SqlCompose.Proofs.Remapping

/-!
# SqlCompose.Proofs.Embedding -- a query reads the same inside other scopes

A query whose qualified paths all find their tables in the query itself looks at
no scope around it. So it becomes the same statement on its own as in the middle
of another statement: the scopes around it bind nothing that it asks for, and the
parameters before its own do no more than shift the numbers of its placeholders.
-/

namespace SqlCompose

open Compose Coupling Placeholder

/-! ## Closed queries -/

/-- A query finds the tables of all its qualified paths in itself, and no
projection in it generates aliases. -/
def SelectQuery.IsClosed (model : Option DataModel) (q : SelectQuery) : Prop :=
  ∀ need ∈ q.needs model, ∃ mode : AliasMode, need = .mode mode ∧ mode ≠ .auto

/-- A query that is resolved as an expression and made a statement of its own at once. -/
def SelectQuery.prepared (q : SelectQuery) : Compose SqlStatement := do
  let sql ← resolveSql (.query q)
  prepare sql

/-- A run in the outermost scope beside one inside some statement scopes and after
some parameters. Both have the same values. -/
def Coupling.embedding (base : Context) (hmode : base.aliasMode = .explicitOnly)
    (before : List Parameter) (depth : Nat) : Coupling base where
  plain c := c ≠ ':'
  admits _ h := h
  exchange := .identity
  left := []
  right := before
  depth := depth
  modes := .inr (by rw [hmode]; exact AliasMode.noConfusion)
  alike := Eq
  alike_value := kept_value
  alike_temporal := kept_temporal
  alike_template := kept_template
  alike_parameter _ := rfl
  alike_pattern := kept_pattern

/-! ## The two runs -/

section Runs

variable {base : Context} (hmode : base.aliasMode = .explicitOnly)
  {before : List Parameter} {depth : Nat}

/-- What a closed query needs inside itself the keys of its source meet. -/
theorem SelectQuery.IsClosed.meetsAll {q : SelectQuery} (h : q.IsClosed base.model) :
    (embedding base hmode before depth).MeetsAll (· ∈ q.source.keys base.model)
      (q.innerNeeds base.model) := by
  have hmeets : (embedding base hmode before depth).MeetsAll (fun _ => False)
      (q.needs base.model) := by
    intro need hneed
    obtain ⟨mode, rfl, hauto⟩ := h need hneed
    exact .inr hauto
  intro need hneed
  have hinner := hmeets.inner need hneed
  cases need with
  | key k => exact hinner.resolve_left id
  | mode m => exact hinner

/-- The source of a query in the outermost scope, and the same source in a
statement scope inside other scopes. -/
theorem related_seeded {target : RelationalTarget}
    (hnames : AllPlain (· ≠ ':') target.names) (chain : List Scope) (s s' : Session)
    (hs : s.parameters = {}) :
    (embedding base hmode s'.parameters.entries.toList
        (chain.countP fun o => o.kind == .statement)).Related (· ∈ target.keys) [] chain
      { s with scope := Scope.root.seed base.aliasMode target }
      { s' with scope := (Scope.inside chain .statement).seed base.aliasMode target } where
  scope := by
    -- a new scope differs from the outermost one only in how many statements are around it
    have hinside : Scope.inside chain .statement =
        Scope.root.deepen (chain.countP fun o => o.kind == .statement) := by
      simp only [Scope.inside, Scope.deepen, Scope.root, Nat.zero_add]
    rw [hinside, Scope.seed_deepen]
    · rfl
    · exact .inr (by rw [hmode]; exact AliasMode.noConfusion)
  plain := Scope.isPlain_root.seed (Admits.writable fun _ h => h)
    (RelationalTarget.isPlain_of_names hnames)
  chain_plain := by simp
  depth := (Nat.zero_add _).symm
  own := .inl (Scope.kind_seed target)
  known := by
    intro key hkey
    refine .inl ?_
    rw [hmode]
    exact Scope.binds_key rfl hkey
  keys := .inl hmode
  grown := ⟨[], [], by rw [hs]; rfl, by simp [embedding], .nil⟩

/-- The source of a query follows itself, and binds the keys that the query knows. -/
theorem sources_of_source? (hregistry : base.registry.IsPlain)
    (hmodel : ∀ s ∈ modelNames base.model, Plain (· ≠ ':') s) {e : Expression} {source : Source}
    (hsource : e.source? base.model = some source) (hnames : AllPlain (· ≠ ':') e.names)
    {K : String → Prop} (hneeds : (embedding base hmode before depth).MeetsAll K (e.needs base.model)) :
    (embedding base hmode before depth).Sources K (Item.count (e.outline base.dialect false)) source
        source ∧ source.target.keys = e.keys base.model := by
  cases e with
  | target t =>
    cases hsource
    have hfollows := RelationalTarget.follows hregistry hmodel t K hnames hneeds
    rw [show (embedding base hmode before depth).exchange = .identity from rfl,
      RelationalTarget.exchange_identity] at hfollows
    exact ⟨hfollows, by rw [RelationalTarget.target_toSource, Expression.keys]⟩
  | dataTarget t =>
    cases hsource
    have hfollows := DataTarget.follows hregistry hmodel t K hnames hneeds
    rw [show (embedding base hmode before depth).exchange = .identity from rfl,
      DataTarget.exchange_identity] at hfollows
    exact ⟨hfollows, by rw [DataTarget.target_toSource, Expression.keys]⟩
  | _ => cases hsource

/-- Wherever its source is bound, a closed query is resolved like on its own. -/
theorem SelectQuery.IsClosed.renders_inside (hregistry : base.registry.IsPlain)
    (hmodel : ∀ s ∈ modelNames base.model, Plain (· ≠ ':') s) {q : SelectQuery}
    (hclosed : q.IsClosed base.model) (hnames : AllPlain (· ≠ ':') q.names) {source : Source}
    (hsource : q.source.source? base.model = some source) (chain : List Scope) (s s' : Session)
    (hs : s.parameters = {})
    (hroom : s'.parameters.size + Item.count (q.outline base.dialect) ≤ maxNumber)
    {rendered : RenderedSelect} {t : Session}
    (hrun : (q.renderFrom source).Yields (base.within [])
      { s with scope := Scope.root.seed base.aliasMode source.target } rendered t) :
    ∃ rendered' t', (q.renderFrom source).Yields (base.within chain)
        { s' with scope := ((Scope.inside chain .statement).seed base.aliasMode source.target) }
          rendered' t' ∧
      (embedding base hmode s'.parameters.entries.toList
        (chain.countP fun o => o.kind == .statement)).Rendered rendered rendered' ∧
      (embedding base hmode s'.parameters.entries.toList
        (chain.countP fun o => o.kind == .statement)).Grown t.parameters t'.parameters := by
  have hneeds : (embedding base hmode s'.parameters.entries.toList
      (chain.countP fun o => o.kind == .statement)).MeetsAll (· ∈ q.source.keys base.model)
        (q.innerNeeds base.model) := hclosed.meetsAll hmode
  have hsourceNames := hnames
  rw [SelectQuery.names_eq, allPlain_append, allPlain_append, allPlain_append] at hsourceNames
  have hsourceNeeds := hneeds
  rw [SelectQuery.innerNeeds, meetsAll_append, meetsAll_append, meetsAll_append] at hsourceNeeds
  obtain ⟨hsources, hkeys⟩ := sources_of_source? hmode hregistry hmodel hsource
    hsourceNames.1.1.1 hsourceNeeds.1.1.1
  -- what a closed query needs it finds in its own source, so the scopes around it are free
  have hfollows := SelectQuery.follows hregistry hmodel q _ hnames hneeds hsources
  have hrelated := related_seeded hmode hsources.names chain s s' hs
  rw [show (embedding base hmode s'.parameters.entries.toList
    (chain.countP fun o => o.kind == .statement)).exchange = .identity from rfl,
    SelectQuery.exchange_identity] at hfollows
  rw [hkeys] at hrelated
  obtain ⟨rendered', t', hrun', hrendered, hafter, _⟩ := hfollows hrelated (.inr hroom) hrun
  exact ⟨rendered', t', hrun', hrendered, hafter.grown⟩

/-- The texts of the two runs become the same statement, if binding their values
does not read any stream. -/
theorem prepared_alike (hregistry : base.registry.IsPlain) (chain : List Scope) {sql sql' : String}
    {t u : Session} (t' : Session) {statement : SqlStatement}
    (htexts : (embedding base hmode before depth).numbering.Texts sql sql')
    (hgrown : (embedding base hmode before depth).Grown t.parameters t'.parameters)
    {ps : List Parameter} (hps : t.parameters.named? sql.toList = some ps)
    (hvalues : ∀ p ∈ ps, ¬ p.value.IsCharStream)
    (hprepared : (prepare sql).Yields (base.within []) t statement u) :
    ∃ u', (prepare sql').Yields (base.within chain) t' statement u' := by
  have hleft : (base.within []).registry.IsPlain := hregistry
  have hright : (base.within chain).registry.IsPlain := hregistry
  obtain ⟨named, bounds, hnamed, hbounds, hstatement⟩ := (yields_prepare hleft).mp hprepared
  rw [hps, Option.some.injEq] at hnamed
  subst hnamed
  have hmarker : ∀ p p', (embedding base hmode before depth).alike p p' →
      p'.marker = p.marker := fun p p' halike => congrArg Parameter.marker halike.symm
  obtain ⟨⟨ps', hps', halike⟩, hfill⟩ := Accumulator.named?_of_corresponds hmarker
    (corresponds_of_renumbers (fun _ hc => hc) hgrown htexts) hps
  have hsame : List.Forall₂ Eq ps ps' := halike
  rw [List.forall₂_eq_eq_eq] at hsame
  subst hsame
  -- binding looks at nothing but the registry and the streams, and here not even at these
  obtain ⟨_, streams, _, hbounds'⟩ := @onStreams_bindAll _ (fun _ _ => True) hleft _
    (fun p hp hstream => absurd hstream (hvalues p hp)) _ (base.within chain) _ t' _ _ rfl rfl
    trivial hbounds
  exact ⟨_, (yields_prepare hright).mpr ⟨ps, bounds, hps', hbounds', by rw [hstatement, hfill]⟩⟩

end Runs

/-! ## One statement -/

/-- A closed query becomes the same statement inside other scopes, where a model gives no name
with a colon. -/
theorem SelectQuery.IsClosed.prepared {c : Compiler} (hmode : c.aliasMode = .explicitOnly)
    (hregistry : c.context.registry.IsPlain) (hanswers : c.context.registry.Answers .query .sql)
    (hmodel : ∀ s ∈ modelNames c.model, Plain (· ≠ ':') s) {q : SelectQuery}
    (hclosed : q.IsClosed c.model) (hplain : AllPlain (· ≠ ':') q.names)
    (hvalues : ∀ p ∈ Item.allValues (q.outline c.dialect), ¬ p.value.IsCharStream)
    {streams streams' : StreamStore} {compiled : CompiledQuery}
    (h : c.compileSelect q streams = (.ok compiled, streams')) (chain : List Scope) (s : Session)
    (hroom : s.parameters.size + Item.count (q.outline c.dialect) ≤ maxNumber) :
    ∃ u, q.prepared.Yields (c.context.within chain) s compiled.statement u := by
  have hadmits : Admits (· ≠ ':') := fun _ hc => hc
  -- the query on its own
  obtain ⟨rendered, t, u, hrendered, hprepared, _, _⟩ := compileSelect_eq_ok h
  obtain ⟨source, hfound, hsource, hrun⟩ := (yields_renderOuter hregistry).mp hrendered
  have hsourceNames := hplain
  rw [SelectQuery.names_eq, allPlain_append, allPlain_append, allPlain_append] at hsourceNames
  have hroot : (Session.initial streams).scope.IsPlain (· ≠ ':') := Scope.isPlain_root
  obtain ⟨_, _, _, hshows⟩ := Expression.emits_source hadmits hregistry hmodel q.source
    hsourceNames.1.1.1 hroot (by simp) ((yields_toSource hregistry).mpr ⟨hfound, hsource, rfl⟩)
  have hshows := hshows _ (.refl _)
  obtain ⟨_, _, _, htext⟩ := SelectQuery.emits hadmits hregistry hmodel q hplain hshows
    (Scope.isPlain_root.seed hadmits.writable (RelationalTarget.isPlain_of_names hshows.names))
    (by simp) hrun
  obtain ⟨htext, hopens⟩ := htext _ (.refl _)
  -- the same query as a sub-select
  obtain ⟨rendered', t', hrun', hrendered', hgrown⟩ := hclosed.renders_inside hmode hregistry hmodel
    hplain hsource (s.scope :: chain) (Session.initial streams) s rfl hroom hrun
  obtain ⟨u', hprepared'⟩ := prepared_alike hmode hregistry chain { t' with scope := s.scope }
    hrendered'.1 hgrown (Accumulator.named?_of_shows (htext ' ')) hvalues hprepared
  have hvalid : q.validate = .ok () := by
    rw [SelectQuery.renderFrom_eq, yields_ofResult_bind] at hrun
    obtain ⟨_, hvalid, _⟩ := hrun
    exact hvalid
  refine ⟨u', yields_bind.mpr ⟨rendered'.sql, { t' with scope := s.scope }, ?_, hprepared'⟩⟩
  have hinside : (c.context.within chain).registry.IsPlain := hregistry
  refine ((yields_query hinside).mpr ⟨⟨hvalid, hanswers⟩, ?_, ?_⟩)
  · exact hrendered'.1.checkSqlText hopens.checkSqlText
  · exact ⟨source, rendered', t', hfound, hsource, hrun', rfl, rfl⟩

/-- A closed query that compiles becomes the same statement, with the same parameters, inside any
scopes and after any parameters that leave room for its own. No name of the query has a colon, and
the model gives none for these names and for the entities that the scopes were mapped from. -/
theorem prepared_of_compileSelect {c : Compiler} (hmode : c.aliasMode = .explicitOnly)
    (hregistry : c.context.registry.IsPlain) (hanswers : c.context.registry.Answers .query .sql)
    {q : SelectQuery} (hclosed : q.IsClosed c.model)
    (hvalues : ∀ p ∈ Item.allValues (q.outline c.dialect), ¬ p.value.IsCharStream)
    {streams streams' : StreamStore} {compiled : CompiledQuery}
    (h : c.compileSelect q streams = (.ok compiled, streams')) (chain : List Scope) (s : Session)
    (hnames : ∀ name ∈ q.names ++
      mappedNames c.model (q.names ++ (s.scope :: chain).flatMap Scope.entities), ':' ∉ name.toList)
    (hroom : s.parameters.size + Item.count (q.outline c.dialect) ≤ maxNumber) :
    ∃ u, q.prepared.Yields (c.context.within chain) s compiled.statement u := by
  let names := q.names ++ (s.scope :: chain).flatMap Scope.entities
  have hplain : AllPlain (· ≠ ':') (q.names ++ mappedNames c.model names) :=
    fun name hname => plain_of_no_colon (fun _ hc => hc) (hnames name hname)
  rw [allPlain_append] at hplain
  have hown : q.names ⊆ names := List.subset_append_left _ _
  have hagree := agree_restricted c.model names
  -- the query is as closed, and compiles to the same, under a model that knows only these names
  have hclosed : q.IsClosed (c.restricted names).model := by
    unfold SelectQuery.IsClosed
    rw [show (c.restricted names).model = c.model.map fun m => m.restricted names from rfl,
      SelectQuery.needs_of_agree hagree q hown]
    exact hclosed
  have h : (c.restricted names).compileSelect q streams = (.ok compiled, streams') :=
    (congrFun (Compiler.compileSelect_of_agree hregistry hown hagree) streams).trans h
  obtain ⟨u, hu⟩ := SelectQuery.IsClosed.prepared (c := c.restricted names) hmode hregistry hanswers
    (fun name hname => hplain.2 name (modelNames_restricted hname)) hclosed hplain.1 hvalues h chain
    s hroom
  have hasks : q.prepared.Asks c.context names :=
    .bind (Expression.asks hregistry (.query q) hown) fun sql _ => .prepare hregistry sql
  have hentities : (s.scope :: chain).flatMap Scope.entities ⊆ names := List.subset_append_right _ _
  obtain ⟨hknown, hchain⟩ := List.forall_mem_cons.mp (Scope.knows_of_chain hentities)
  exact ⟨u, (hasks.yields_iff hagree hknown hchain).mp hu⟩

/-- The orders that have an item of at least some size. The inner query reaches
into the outer one. -/
def correlatedQuery (size : Int32) : SelectQuery :=
  let column (table name : String) : Expression := .path (.child (.ofName table) name none)
  let items : SelectQuery :=
    { SelectQuery.ofSource (.target {
        schema := none, table := "items", aliasName := none, joins := [], entity := none }) with
      filter := some (.junction .and [
        .compare .equal (column "items" "owner") (column "o" "id"),
        .compare .greaterOrEqual (column "items" "size") (.lit (.int size))]) }
  { SelectQuery.ofSource (.target {
      schema := none, table := "orders", aliasName := some "o", joins := [], entity := none }) with
    filter := some (.rows false (.query items)) }

/-- Around the query other tables are called `items` and `o`, and a parameter has
been added before. -/
theorem prepared_of_compileSelect_of_correlated :
    ∃ compiled streams' u,
      (Compiler.ansi .explicitOnly).compileSelect (correlatedQuery 5) {} =
        (.ok compiled, streams') ∧
      (correlatedQuery 5).prepared.Yields
        ((Compiler.ansi .explicitOnly).context.within
          [Scope.root.seed .explicitOnly ⟨none, "other", some "items", [], none⟩])
        { scope := Scope.root.seed .explicitOnly ⟨none, "another", some "o", [], none⟩
          parameters := ⟨#[.ofValue (.int 1)]⟩ }
        compiled.statement u := by
  have hok : ((Compiler.ansi .explicitOnly).compileSelect (correlatedQuery 5) {}).1.isOk = true := by
    decide +kernel
  obtain ⟨compiled, streams', h⟩ := exists_of_isOk hok
  have hregistry : (Compiler.ansi .explicitOnly).context.registry.IsPlain :=
    Dialect.registry_isPlain _
  have hanswers : (Compiler.ansi .explicitOnly).context.registry.Answers .query .sql :=
    Dialect.registry_answers _ (r := { name := "query", kind := .query, form := .sql })
      (by simp [Registry.standardResolvers])
  have hneeds : (correlatedQuery 5).needs none = [] := rfl
  have hclosed : (correlatedQuery 5).IsClosed (Compiler.ansi .explicitOnly).model := by
    intro need hneed
    have hneed : need ∈ (correlatedQuery 5).needs none := hneed
    rw [hneeds] at hneed
    exact absurd hneed List.not_mem_nil
  have hvalues : ∀ p ∈ Item.allValues ((correlatedQuery 5).outline (.new .ansi)),
      ¬ p.value.IsCharStream := by
    intro p hp
    have hone : Item.allValues ((correlatedQuery 5).outline (.new .ansi)) = [.ofValue (.int 5)] := rfl
    rw [hone, List.mem_singleton] at hp
    subst hp
    rintro ⟨handle, hstream⟩
    cases hstream
  obtain ⟨u, hprepared⟩ := prepared_of_compileSelect rfl hregistry hanswers hclosed hvalues h
    [Scope.root.seed .explicitOnly ⟨none, "other", some "items", [], none⟩]
    { scope := Scope.root.seed .explicitOnly ⟨none, "another", some "o", [], none⟩
      parameters := ⟨#[.ofValue (.int 1)]⟩ } (by decide +kernel) (by decide +kernel)
  exact ⟨compiled, streams', u, h, hprepared⟩

/-- The columns of a joined table are asked for by the name of the table, although
the join has an alias. -/
def aliasedJoinQuery : SelectQuery :=
  let join : Join := {
    kind := .inner, name := "x", source := "s", aliasName := some "a", on := none, entity := none }
  { SelectQuery.ofSource (.target {
      schema := none, table := "t", aliasName := none, joins := [join], entity := none }) with
    filter := some (.nullTest false (.path (.child (.ofName "s") "c" none))) }

/-- A query without any path of several names. -/
def rawQuery : SelectQuery :=
  { SelectQuery.ofSource (.target {
      schema := none, table := "t", aliasName := none, joins := [], entity := none }) with
    filter := some (.nullTest false (.sql { text := "raw" })) }

/-- A compiler of an application that answers raw SQL with a column of the table `s`, under the
name that the scopes around it give to the table. -/
def Compiler.rewriting : Compiler :=
  let answer : Foreign (Option Resolved) := do
    let chain := (← get).scope :: (← read).enclosing
    let owner := ((findBinding "s" true chain).map Binding.qualifier).getD "s"
    pure (some (.sql (owner ++ ".c")))
  { Compiler.ansi .explicitOnly with
    registry := some ((Dialect.new .ansi).registry.register
      { name := "paths", kind := .sql, form := .sql, priority := 20
        action := .custom fun _ => answer }) }

/-- The text of a query on its own, and inside a scope in which the table `s` is called `o`. -/
def SelectQuery.textsOf (q : SelectQuery) (c : Compiler) : Option String × Option String :=
  let inside : Session := { scope := Scope.root.seed .explicitOnly ⟨none, "s", some "o", [], none⟩ }
  ((c.compileSelect q {}).1.toOption.map fun compiled => compiled.statement.sql,
    (q.prepared.outcome c.context inside).1.toOption.map fun statement => statement.sql)

/-- A join with an alias does not bind the name of its table, so a scope around the
query may: there the same path refers to another table. So does a column that only an
answer of the application brings in. -/
theorem joined_table_is_found_outside :
    aliasedJoinQuery.textsOf (.ansi .explicitOnly) =
        (some "SELECT * FROM t INNER JOIN s a WHERE s.c IS NULL",
          some "SELECT * FROM t INNER JOIN s a WHERE o.c IS NULL") ∧
      rawQuery.textsOf .rewriting =
        (some "SELECT * FROM t WHERE s.c IS NULL", some "SELECT * FROM t WHERE o.c IS NULL") := by
  decide +kernel

end SqlCompose
