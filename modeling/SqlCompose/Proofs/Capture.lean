import SqlCompose.Proofs.Qualifiers

/-!
# SqlCompose.Proofs.Capture -- references into the scopes around a query

Where all aliases are generated, the aliases of a scope and of the scopes around it
are all different. A path is written with the alias of the source that the nearest
scope with its key has bound, so no table further inside takes the reference over.
-/

namespace SqlCompose

open Compose

variable {d : Dialect}

/-! ## Generated aliases -/

/-- The aliases that were generated for the tables around a place are all different. -/
theorem Nest.nodup_generated {P : Frame → Prop} {frames : List Frame} {chain : List Scope}
    (h : Nest d P frames chain) :
    (frames.flatMap fun frame => BoundSource.generated frame.sources).Nodup ∧
      ∀ frame ∈ frames, ∀ a ∈ BoundSource.generated frame.sources,
        ∃ scope : Scope, scope.sequence < chain.length ∧ scope.Issued a := by
  induction h with
  | nil => simp
  | @cons frame frames scope outer hframe _ _ ih =>
    obtain ⟨hnodup, hissued⟩ := ih
    constructor
    · rw [List.flatMap_cons, List.nodup_append]
      refine ⟨hframe.nodup, hnodup, ?_⟩
      rintro a ha b hb rfl
      -- the scope of the first frame has a greater number than those around it
      obtain ⟨frame', hmem, ha'⟩ := List.mem_flatMap.mp hb
      obtain ⟨scope', hsequence, hscope'⟩ := hissued frame' hmem a ha'
      have hsame : scope.sequence = scope'.sequence := (hframe.issued a ha).sequence_eq hscope'
      rw [← hsame, hframe.sequence] at hsequence
      exact Nat.lt_irrefl _ hsequence
    · intro frame' hmem a ha
      rcases List.mem_cons.mp hmem with rfl | hmem
      · refine ⟨scope, ?_, hframe.issued a ha⟩
        rw [hframe.sequence]
        exact Nat.lt_succ_self _
      · obtain ⟨scope', hsequence, hscope'⟩ := hissued frame' hmem a ha
        exact ⟨scope', Nat.lt_succ_of_lt hsequence, hscope'⟩

/-- The names of the tables of a target: its own, that of its entity, and those of its joins. -/
def RelationalTarget.tableNames (target : RelationalTarget) : List String :=
  target.table :: target.entity.toList ++ target.joins.map Join.name

/-- A target leaves all aliases to be generated, has joins of different names, and no
name that looks like a generated alias. -/
structure RelationalTarget.IsBare (target : RelationalTarget) : Prop where
  root : target.aliasName = none
  joins : ∀ j ∈ target.joins, j.aliasName = none
  nodup : (target.joins.map Join.name).Nodup
  shapes : ∀ name ∈ target.tableNames, ¬ Alias.IsGenerated name

theorem RelationalTarget.IsBare.keepsRoot {target : RelationalTarget} (h : target.IsBare) :
    target.KeepsRoot := by
  intro j hj
  rw [h.joins j hj]
  exact (Option.some_ne_none "").symm

/-- A source has a generated alias and names that look otherwise. -/
structure BoundSource.IsAliased (x : BoundSource) : Prop where
  given : x.given = none
  aliasName : ∃ a, x.binding.aliasName = some a ∧ Alias.IsGenerated a
  names : ∀ name ∈ x.names, ¬ Alias.IsGenerated name

namespace BoundSource

/-- Under a name that does not look like a generated alias such a source is bound only
if it is one of its names. -/
theorem IsAliased.mem_keys {x : BoundSource} (h : x.IsAliased) {k : String}
    (hk : ¬ Alias.IsGenerated k) : k ∈ x.keys ↔ k ∈ x.names := by
  obtain ⟨a, halias, hgenerated⟩ := h.aliasName
  have hqualifier : x.binding.qualifier = a := by rw [Binding.qualifier, halias]; rfl
  rw [keys, List.mem_cons, hqualifier]
  constructor
  · rintro (rfl | hname)
    · exact absurd hgenerated hk
    · exact hname
  · exact .inr

theorem IsAliased.generated_eq {xs : List BoundSource} (h : ∀ x ∈ xs, x.IsAliased) :
    generated xs = xs.filterMap fun x => x.binding.aliasName := by
  refine List.filterMap_congr fun x hx => ?_
  rw [(h x hx).given]
  rfl

end BoundSource

/-- An alias that is generated for a table. -/
theorem Scope.exists_tableAlias (s : Scope) (name : String) :
    ∃ a, (s.tableAlias .auto none name).1 = some a ∧ Alias.IsGenerated a :=
  ⟨_, rfl, s.isGenerated_generateAlias name⟩

theorem Scope.isAliased_joinSources {joins : List Join} (haliases : ∀ j ∈ joins, j.aliasName = none)
    (hshapes : ∀ j ∈ joins, ¬ Alias.IsGenerated j.name) (s : Scope) :
    ∀ x ∈ s.joinSources .auto joins, x.IsAliased := by
  induction joins generalizing s with
  | nil => simp [Scope.joinSources]
  | cons j rest ih =>
    rw [List.forall_mem_cons] at haliases hshapes
    rw [Scope.joinSources, List.forall_mem_cons]
    refine ⟨⟨haliases.1, ?_, ?_⟩, ih haliases.2 hshapes.2 _⟩
    · rw [haliases.1]
      exact s.exists_tableAlias j.name
    · exact List.forall_mem_singleton.mpr hshapes.1

theorem Scope.isAliased_seedSources {target : RelationalTarget} (h : target.IsBare) (s : Scope) :
    ∀ x ∈ s.seedSources .auto target, x.IsAliased := by
  have hnames := h.shapes
  simp only [RelationalTarget.tableNames, List.mem_append, List.mem_cons] at hnames
  rw [Scope.seedSources, Scope.sources, List.forall_mem_cons]
  refine ⟨⟨h.root, ?_, ?_⟩, Scope.isAliased_joinSources h.joins (fun j hj => ?_) _⟩
  · rw [h.root]
    exact s.exists_tableAlias target.table
  · intro name hname
    rcases List.mem_cons.mp hname with rfl | hname
    · exact fun hgenerated => absurd hgenerated.line_mem List.not_mem_nil
    · exact hnames name (.inl (List.mem_cons.mp hname))
  · exact hnames j.name (.inr (List.mem_map_of_mem hj))

theorem Scope.names_joinSources {mode : AliasMode} {joins : List Join} (s : Scope) :
    ∀ x ∈ s.joinSources mode joins, ∃ j ∈ joins, x.names = [j.name] := by
  induction joins generalizing s with
  | nil => simp [Scope.joinSources]
  | cons j rest ih =>
    rw [Scope.joinSources, List.forall_mem_cons]
    refine ⟨⟨j, List.mem_cons_self, rfl⟩, fun x hx => ?_⟩
    obtain ⟨j', hj', hnames⟩ := ih _ x hx
    exact ⟨j', List.mem_cons_of_mem j hj', hnames⟩

/-- Joins of different names do not hide each other. -/
theorem Scope.unhidden_joinSources {joins : List Join} {s : Scope}
    (haliased : ∀ x ∈ s.joinSources .auto joins, x.IsAliased)
    (hnodup : (joins.map Join.name).Nodup) :
    BoundSource.Unhidden (s.joinSources .auto joins) := by
  induction joins generalizing s with
  | nil => exact .nil
  | cons j rest ih =>
    rw [Scope.joinSources, List.forall_mem_cons] at haliased
    rw [List.map_cons, List.nodup_cons] at hnodup
    rw [Scope.joinSources]
    refine List.pairwise_cons.mpr ⟨fun y hy => ?_, ih haliased.2 hnodup.2⟩
    rw [(haliased.2 y hy).mem_keys (haliased.1.names _ List.mem_cons_self)]
    obtain ⟨j', hj', hnames⟩ := Scope.names_joinSources _ y hy
    rw [hnames, List.mem_singleton]
    intro hsame
    exact hnodup.1 (List.mem_map.mpr ⟨j', hj', hsame.symm⟩)

theorem Scope.unhidden_seedSources {target : RelationalTarget} (h : target.IsBare)
    (hvalid : target.validate = .ok ()) (s : Scope) :
    BoundSource.Unhidden (s.seedSources .auto target) := by
  have haliased := Scope.isAliased_seedSources h s
  rw [Scope.seedSources, Scope.sources, List.forall_mem_cons] at haliased
  refine List.pairwise_cons.mpr ⟨?_, Scope.unhidden_joinSources haliased.2 h.nodup⟩
  exact rootKey_notMem_joinSources (RelationalTarget.validateJoins_of_valid hvalid) h.keepsRoot _ _

namespace Frame

/-- The aliases that the clause of a frame declares. -/
def aliases (frame : Frame) : List String := frame.sources.filterMap fun x => x.binding.aliasName

/-- A frame whose sources have generated aliases and do not hide each other. -/
structure IsBare (frame : Frame) : Prop where
  aliased : ∀ x ∈ frame.sources, x.IsAliased
  unhidden : BoundSource.Unhidden frame.sources

theorem isBare_seed {target : RelationalTarget} (h : target.IsBare)
    (hvalid : target.validate = .ok ()) (s : Scope) (clause : String) :
    (⟨target, s.seedSources .auto target, clause⟩ : Frame).IsBare :=
  ⟨Scope.isAliased_seedSources h s, Scope.unhidden_seedSources h hvalid s⟩

theorem IsBare.aliases_eq {frame : Frame} (h : frame.IsBare) :
    frame.aliases = BoundSource.generated frame.sources :=
  (BoundSource.IsAliased.generated_eq h.aliased).symm

/-- A name finds the last source that has it. -/
theorem IsBare.find_eq {frame : Frame} (h : frame.IsBare) {before after : List BoundSource}
    {x : BoundSource} {k : String} (hsources : frame.sources = before ++ x :: after)
    (hkey : k ∈ x.names) (hafter : ∀ y ∈ after, k ∉ y.names) :
    BoundSource.find k frame.sources = some x.binding := by
  have haliased := h.aliased
  rw [hsources] at haliased ⊢
  have hshape : ¬ Alias.IsGenerated k := (haliased x (by simp)).names k hkey
  refine BoundSource.find_of_last (List.mem_cons_of_mem _ hkey) fun y hy => ?_
  rw [(haliased y (by simp [hy])).mem_keys hshape]
  exact hafter y hy

theorem IsBare.find_eq_none {frame : Frame} (h : frame.IsBare) {k : String}
    (hshape : ¬ Alias.IsGenerated k) (hnames : ∀ y ∈ frame.sources, k ∉ y.names) :
    BoundSource.find k frame.sources = none := by
  refine BoundSource.find_eq_none.mpr fun y hy => ?_
  rw [(h.aliased y hy).mem_keys hshape]
  exact hnames y hy

end Frame

/-- No column reference is captured. With generated aliases a path is written with the
alias of the source that the nearest scope with its key has bound last under it. The
clauses of all scopes around it list each source with its own alias, and no two of
these aliases are the same. -/
theorem reference_is_not_captured {c : Compiler} (hmode : c.aliasMode = .auto)
    (hplain : c.context.registry.IsPlain) {q : SelectQuery}
    (hsuits : ∀ y, Contains c.dialect c.model [.query q] y →
      y.Suits RelationalTarget.IsBare c.model)
    {streams streams' : StreamStore} {compiled : CompiledQuery}
    (h : c.compileSelect q streams = (.ok compiled, streams')) {start place : Place}
    {es : List Expression} {p parent : Path}
    (hstart : Statement.Starts c.context (Session.initial streams)
      (.select q) start es)
    (hreach : Reaches c.context start es place (.path p))
    (hparent : p.parent = some parent) (halias : parent.aliasName = none)
    {inner outer : List Frame} {frame : Frame} (hframes : place.frames = inner ++ frame :: outer)
    (hinner : ∀ f ∈ inner, ∀ y ∈ f.sources, parent.key ∉ y.names)
    {before after : List BoundSource} {x : BoundSource}
    (hsources : frame.sources = before ++ x :: after) (hkey : parent.key ∈ x.names)
    (hafter : ∀ y ∈ after, parent.key ∉ y.names) :
    (∃ a text t, x.binding.aliasName = some a ∧ Alias.IsGenerated a ∧
      (Expression.toSql (.path p)).Yields
        (place.context c.context) place.session text t ∧
      text = a ++ "." ++ mappedColumn c.model (some x.binding) p.name) ∧
    (place.frames.flatMap Frame.aliases).Nodup ∧
    ∀ f ∈ place.frames, ∃ ons, List.Forall₂ Join.IsCondition f.target.joins ons ∧
      f.clause = sqlText c.dialect
        (f.target.clauseTokens (f.sources.map BoundSource.binding) ons) := by
  have hroot : ∀ target : RelationalTarget, target.IsBare → target.KeepsRoot :=
    fun _ hok => hok.keepsRoot
  have hselects : ∀ (chain : List Scope) (target : RelationalTarget) (clause : String),
      target.IsBare → target.validate = .ok () → Frame.IsBare ⟨target,
        (Scope.inside chain .statement).seedSources c.context.aliasMode target, clause⟩ := by
    intro chain target clause hok hvalid
    rw [show c.context.aliasMode = .auto from hmode]
    exact Frame.isBare_seed hok hvalid _ clause
  obtain ⟨rendered, t, _, hrun, _⟩ := compileSelect_eq_ok h
  obtain ⟨hnest, text, u, htext⟩ :=
    hreach.sound hplain hroot hselects (sound_select hplain rfl hroot hselects hstart hsuits hrun)
  have hbare : ∀ f ∈ place.frames, f.IsBare := hnest.property
  have hframe : frame.IsBare := hbare frame (by rw [hframes]; simp)
  have haliased : x.IsAliased := hframe.aliased x (by rw [hsources]; simp)
  -- none of the scopes further inside has the key, and this one has it from the source
  have hbound : findBinding parent.key true place.chain = some x.binding := by
    rw [hnest.findBinding_eq, hframes, List.findSome?_append,
      List.findSome?_eq_none_iff.mpr fun f hf => ?_, List.findSome?_cons,
      hframe.find_eq hsources hkey hafter]
    · rfl
    · exact (hbare f (by rw [hframes]; simp [hf])).find_eq_none (haliased.names _ hkey) (hinner f hf)
  refine ⟨?_, ?_, fun f hf => ?_⟩
  · obtain ⟨a, ha, hgenerated⟩ := haliased.aliasName
    refine ⟨a, text, u, ha, hgenerated, htext, ?_⟩
    rw [text_of_bound (place.registry_isPlain hplain) hparent halias hbound htext,
      Binding.qualifier, ha]
    rfl
  · have hall : place.frames.flatMap Frame.aliases =
        place.frames.flatMap fun f => BoundSource.generated f.sources :=
      List.flatMap_congr fun f hf => (hbare f hf).aliases_eq
    rw [hall]
    exact hnest.nodup_generated.1
  · obtain ⟨ons, hconditions, hclause⟩ := hnest.clauses f hf
    refine ⟨ons, hconditions, hclause.trans ?_⟩
    rw [(hbare f hf).unhidden.listed_eq]
    rfl

/-! ## Nested queries -/

/-- A table without joins or an alias. -/
def RelationalTarget.named (table : String) : RelationalTarget :=
  { schema := none, table := table, aliasName := none, joins := [], entity := none }

theorem RelationalTarget.isBare_named {table : String} (h : '_' ∉ table.toList) :
    (RelationalTarget.named table).IsBare := by
  refine ⟨rfl, List.forall_mem_nil _, List.nodup_nil, ?_⟩
  exact List.forall_mem_singleton.mpr fun hgenerated => h hgenerated.line_mem

/-- The items of an order. -/
def itemsQuery : SelectQuery :=
  { SelectQuery.ofSource (.target (.named "items")) with
    filter := some (.compare .equal (.path (.column "items" "owner")) (.path (.column "orders" "id"))) }

/-- The orders that have items. The inner query reaches into the outer one. -/
def nestedQuery : SelectQuery :=
  { SelectQuery.ofSource (.target (.named "orders")) with
    filter := some (.rows false (.query itemsQuery)) }

theorem suits_nestedQuery : ∀ y, Contains (.new .ansi) none [.query nestedQuery] y →
    y.Suits RelationalTarget.IsBare none := by
  intro y hy
  simp [contains_cons, contains_nil, nestedQuery, itemsQuery, SelectQuery.ofSource,
    Expression.operands, SelectQuery.operands, Expression.target?, RelationalTarget.named,
    Join.conditions, projectedExpressions, Filter.operands, Expression.isNullLiteral] at hy
  rcases hy with rfl | rfl | rfl | rfl | rfl | rfl
  · intro target htarget
    cases htarget
    exact RelationalTarget.isBare_named (by decide)
  · trivial
  · intro target htarget
    cases htarget
    exact RelationalTarget.isBare_named (by decide)
  · trivial
  · trivial
  · trivial

/-- Where the outer query resolves its operands. -/
def ordersPlace : Place where
  enclosing := []
  session := { Session.initial {} with scope := Scope.root.seed .auto (.named "orders") }
  frames := [⟨.named "orders", Scope.root.seedSources .auto (.named "orders"), "orders orde_0_0"⟩]

/-- Where the inner query resolves its operands. -/
def itemsPlace : Place := ordersPlace.inside .auto (.named "items") "items item_0_1"

/-- The text of the clause of a table without joins, in a place that binds it. -/
def Place.clauseOf (p : Place) (table : String) : Option String :=
  ((RelationalTarget.toSource (.named table)).resolveSql.outcome
    (p.context (Compiler.ansi .auto).context) p.session).1.toOption

theorem starts_nestedQuery : Statement.Starts (Compiler.ansi .auto).context
    (Session.initial {}) (.select nestedQuery) ordersPlace
    [.filter (.rows false (.query itemsQuery))] := by
  have hsource : nestedQuery.source.source? none =
      some (RelationalTarget.toSource (.named "orders")) := rfl
  have hclause : ordersPlace.clauseOf "orders" = some "orders orde_0_0" := by decide +kernel
  obtain ⟨_, hclause⟩ := exists_of_toOption hclause
  exact .select (s := Session.initial {}) (q := nestedQuery) hsource hclause

/-- The column of the outer query is reached after the one of the inner query. -/
theorem reaches_orders : ∃ t, Reaches (Compiler.ansi .auto).context
    ordersPlace [.filter (.rows false (.query itemsQuery))] (itemsPlace.after t)
    (.path (.column "orders" "id")) := by
  have hsource : itemsQuery.source.source? none =
      some (RelationalTarget.toSource (.named "items")) := rfl
  have hclause : itemsPlace.clauseOf "items" = some "items item_0_1" := by decide +kernel
  obtain ⟨_, hclause⟩ := exists_of_toOption hclause
  have howner : ((Expression.toSql (.path (.column "items" "owner"))).outcome
      (itemsPlace.context (Compiler.ansi .auto).context) itemsPlace.session).1.toOption =
        some "item_0_1.owner" := by
    decide +kernel
  obtain ⟨t, howner⟩ := exists_of_toOption howner
  exact ⟨t, .operand (.query hsource hclause (.operand (.later howner .here)))⟩

/-- The inner query refers to the table of the outer one by its alias. -/
theorem reference_is_not_captured_of_nested :
    ∃ t, Reaches (Compiler.ansi .auto).context ordersPlace
        [.filter (.rows false (.query itemsQuery))] (itemsPlace.after t)
        (.path (.column "orders" "id")) ∧
      (∃ u, (Expression.path (.column "orders" "id")).toSql.Yields
        ((itemsPlace.after t).context (Compiler.ansi .auto).context) t "orde_0_0.id" u) ∧
      ["item_0_1", "orde_0_0"].Nodup := by
  have hplain : (Compiler.ansi .auto).context.registry.IsPlain := Dialect.registry_isPlain _
  have hok : ((Compiler.ansi .auto).compileSelect nestedQuery {}).1.isOk = true := by decide +kernel
  obtain ⟨compiled, streams', h⟩ := exists_of_isOk hok
  obtain ⟨t, hreach⟩ := reaches_orders
  have hframes : (itemsPlace.after t).frames = itemsPlace.frames.take 1 ++
      ⟨.named "orders", Scope.root.seedSources .auto (.named "orders"), "orders orde_0_0"⟩ :: [] := rfl
  have hsources : Scope.root.seedSources .auto (.named "orders") =
      [] ++ (RelationalTarget.named "orders").bound (some "orde_0_0") :: [] := by
    decide +kernel
  obtain ⟨⟨a, text, u, ha, _, hrun, htext⟩, hnodup, _⟩ := reference_is_not_captured rfl hplain
    suits_nestedQuery h starts_nestedQuery hreach rfl rfl hframes (by decide +kernel) hsources
    (by decide +kernel) (by simp)
  obtain rfl : "orde_0_0" = a := Option.some.inj ha
  obtain rfl : text = "orde_0_0.id" := htext
  have haliases : (itemsPlace.after t).frames.flatMap Frame.aliases = ["item_0_1", "orde_0_0"] := by
    show itemsPlace.frames.flatMap Frame.aliases = _
    decide +kernel
  exact ⟨t, hreach, ⟨u, hrun⟩, haliases ▸ hnodup⟩

/-- Three joins. The condition of the first names a table with the name of the second
join and an entity with the name of the third. -/
def rebindingQuery : SelectQuery :=
  let join (name source : String) (on : Option Filter) : Join := {
    kind := .inner, name := name, source := source, aliasName := none, on := on, entity := none }
  let other : RelationalTarget := { RelationalTarget.named "y" with entity := some "z" }
  { SelectQuery.ofSource (.target { RelationalTarget.named "t" with
      joins := [join "x" "sx" (some (.nullTest false (.target other))), join "y" "sy" none,
        join "z" "sz" none] }) with
    filter := some (.missing "y") }

/-- A target among the operands takes over the names of the joins. Both joins are
listed with its table and alias, and so is a column of one of them. An application
may answer a path with any other alias. -/
theorem operand_captures_reference :
    (Statement.select rebindingQuery).textOf (.ansi .auto) = some (
        "SELECT * FROM t t_0_0 INNER JOIN sx x_0_0 ON " ++
        "y y_1_0 IS NULL INNER JOIN y y_1_0 INNER JOIN y y_1_0 WHERE y_1_0.c IS NULL") ∧
      (Statement.select nestedQuery).textOf (.answering .auto) = some (
        "SELECT * FROM orders orde_0_0 WHERE EXISTS " ++
        "(SELECT * FROM items item_0_1 WHERE x.c=x.c)") := by
  refine ⟨?_, ?_⟩
  · decide +kernel
  · decide +kernel

end SqlCompose
