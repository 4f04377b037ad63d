import SqlCompose.Proofs.Declared
import SqlCompose.Proofs.Operands
import SqlCompose.Proofs.Statements
import SqlCompose.Proofs.Valid

/-!
# SqlCompose.Proofs.Listing -- the tables that a clause lists

A clause lists a target and then its joins. It looks each of them up by its name,
so it lists what the name is bound to last: a join is listed as itself unless a
later one is bound under its name, be it as its alias or as its table.
-/

namespace SqlCompose

open Compose

variable {ctx : Context} {s t : Session} {mode : AliasMode}

/-! ## Clauses -/

/-- The joins of a clause with the tables that they are listed as and their conditions. -/
def joinedTokens : List Join → List Binding → List (List Token) → List Token
  | j :: joins, b :: listed, on :: ons =>
    [Token.space, .join j.kind, .space, .ident b.table] ++ aliasTokens b.aliasName ++ on ++
      joinedTokens joins listed ons
  | _, _, _ => []

/-- A clause that lists a target and its joins. -/
def RelationalTarget.clauseTokens (target : RelationalTarget) (listed : List Binding)
    (ons : List (List Token)) : List Token :=
  Token.qualified target.schema target.table :: aliasTokens (listed.head?.bind Binding.aliasName) ++
    joinedTokens target.joins listed.tail ons

/-- The words of a join's condition. There are none if the join has none. -/
def Join.IsCondition (j : Join) (on : List Token) : Prop :=
  match j.on with
  | some _ => ∃ sql, on = [.space, .on, .space, .fragment sql]
  | none => on = []

/-! ## The clause of a source -/

theorem Join.conditions_cons (j : Join) (joins : List Join) :
    Join.conditions (j :: joins) = (j.on.map Expression.filter).toList ++ Join.conditions joins := by
  unfold Join.conditions
  rw [List.filterMap_cons]
  cases j.on <;> rfl

/-- The condition of a join is resolved where the join is listed. -/
theorem runs_condition {j : Join} {on : List Token}
    (h : (conditionTokens (Join.toCondition j)).Yields ctx s on t) :
    j.IsCondition on ∧ ∃ texts, Runs ctx s (j.on.map Expression.filter).toList texts t := by
  rw [Join.toCondition_eq] at h
  unfold Join.IsCondition
  cases hon : j.on with
  | none =>
    rw [hon] at h
    obtain ⟨rfl, rfl⟩ := yields_pure.mp h
    exact ⟨rfl, [], .nil⟩
  | some f =>
    rw [hon] at h
    obtain ⟨sql, _, hsql, h⟩ := yields_bind.mp h
    obtain ⟨rfl, rfl⟩ := yields_pure.mp h
    exact ⟨⟨sql, rfl⟩, [sql], .single hsql⟩

/-- The joins are listed as what their names are bound to, and their conditions are
resolved in between. -/
theorem runs_joinTokens {joins : List Join} {tokens : List Token}
    (hkeeps : ∀ e ∈ Join.conditions joins, e.toSql.Keeps ctx)
    (h : (joinTokens (joins.zip (joins.map (Join.toCondition)))).Yields ctx s tokens t) :
    ∃ listed ons texts,
      joins.map (fun j => findBinding j.name false (s.scope :: ctx.enclosing)) = listed.map some ∧
      List.Forall₂ Join.IsCondition joins ons ∧ tokens = joinedTokens joins listed ons ∧
        Runs ctx s (Join.conditions joins) texts t := by
  induction joins generalizing s tokens with
  | nil =>
    obtain ⟨rfl, rfl⟩ := yields_pure.mp h
    exact ⟨[], [], [], rfl, .nil, rfl, .nil⟩
  | cons j rest ih =>
    rw [List.map_cons, List.zip_cons_cons, joinTokens, yields_lookup_bind] at h
    cases hfound : findBinding j.name false (s.scope :: ctx.enclosing) with
    | none =>
      rw [hfound] at h
      exact absurd h yields_refuse
    | some b =>
      rw [hfound] at h
      obtain ⟨on, u, hon, h⟩ := yields_bind.mp h
      obtain ⟨others, _, hothers, h⟩ := yields_bind.mp h
      obtain ⟨rfl, rfl⟩ := yields_pure.mp h
      rw [Join.conditions_cons] at hkeeps ⊢
      obtain ⟨hcondition, texts, hruns⟩ := runs_condition hon
      -- the look-ups of the other joins see the same scope
      have hscope : u.scope = s.scope :=
        hruns.keeps fun e he => hkeeps e (List.mem_append_left _ he)
      obtain ⟨listed, ons, texts', hlisted, hconditions, rfl, hruns'⟩ :=
        ih (fun e he => hkeeps e (List.mem_append_right _ he)) hothers
      rw [hscope] at hlisted
      refine ⟨b :: listed, on :: ons, texts ++ texts', ?_, .cons hcondition hconditions, ?_,
        hruns.append hruns'⟩
      · rw [List.map_cons, List.map_cons, hfound, hlisted]
      · rfl

/-- A scope of a statement binds the sources of a target and nothing else. -/
structure Scope.Shows (scope : Scope) (target : RelationalTarget) (sources : List BoundSource) :
    Prop where
  statement : scope.kind = .statement
  lookup : ∀ k, scope.bindings.lookup k = BoundSource.find k sources
  names : sources.map BoundSource.name = Scope.rootKey :: target.joins.map Join.name

theorem Scope.Shows.findBinding_eq {scope : Scope} {target : RelationalTarget}
    {sources : List BoundSource} (h : scope.Shows target sources) (k : String) (outer : List Scope) :
    findBinding k false (scope :: outer) = BoundSource.find k sources := by
  rw [findBinding, h.lookup, h.statement]
  cases BoundSource.find k sources <;> rfl

/-- The tables that a clause lists for some sources: what the names of these are bound to. -/
def BoundSource.listed (sources : List BoundSource) : List Binding :=
  sources.map fun x => (find x.name sources).getD x.binding

theorem map_getD_of_map_some {α β : Type} {f : α → Option β} {g : α → β} {as : List α} {bs : List β}
    (h : as.map f = bs.map some) : as.map (fun a => (f a).getD (g a)) = bs := by
  induction as generalizing bs with
  | nil =>
    cases bs with
    | nil => rfl
    | cons b rest => cases h
  | cons a rest ih =>
    cases bs with
    | nil => cases h
    | cons b others =>
      obtain ⟨hfirst, hrest⟩ := List.cons.inj h
      rw [List.map_cons, hfirst, ih hrest]
      rfl

/-- The clause of a source lists what the names of its tables are bound to. -/
theorem runs_clause (hplain : ctx.registry.IsPlain) {e : Expression} {source : Source}
    {sources : List BoundSource} {clause : String}
    (hsource : e.source? ctx.model = some source) (hshows : s.scope.Shows source.target sources)
    (hholds : s.scope.holds source.target = true)
    (hkeeps : ∀ e ∈ Join.conditions source.target.joins, e.toSql.Keeps ctx)
    (h : source.resolveSql.Yields ctx s clause t) :
    ∃ ons texts, List.Forall₂ Join.IsCondition source.target.joins ons ∧
      clause = sqlText ctx.dialect
        (source.target.clauseTokens (BoundSource.listed sources) ons) ∧
      Runs ctx s (Join.conditions source.target.joins) texts t := by
  have hseed : s.scope.seed ctx.aliasMode source.target = s.scope := by
    rw [Scope.seed_eq, if_pos hholds]
  obtain ⟨_, _, h, _⟩ := (yields_resolveText hplain).mp h
  unfold Source.text seed at h
  obtain ⟨_, _, hu, h⟩ := yields_bind.mp h
  obtain rfl := yields_updateScope.mp hu
  rw [hseed, yields_lookup_bind] at h
  obtain ⟨joins, _, hjoins, h⟩ := yields_bind.mp h
  obtain ⟨rfl, rfl⟩ := yields_write.mp h
  rw [conditions_of_source? hsource] at hjoins
  obtain ⟨listed, ons, texts, hlisted, hconditions, rfl, hruns⟩ := runs_joinTokens hkeeps hjoins
  -- the root key is bound, or the target would have been bound anew
  obtain ⟨root, hroot⟩ : ∃ root, BoundSource.find Scope.rootKey sources = some root := by
    rw [Scope.holds, hshows.lookup] at hholds
    cases hfind : BoundSource.find Scope.rootKey sources with
    | none => rw [hfind] at hholds; cases hholds
    | some root => exact ⟨root, rfl⟩
  simp only [hshows.findBinding_eq] at hlisted
  have hnames : sources.map (fun x => BoundSource.find x.name sources) =
      (sources.map BoundSource.name).map fun k => BoundSource.find k sources := by
    rw [List.map_map]
    rfl
  have hall : BoundSource.listed sources = root :: listed := by
    refine map_getD_of_map_some ?_
    rw [hnames, hshows.names, List.map_cons, List.map_map, List.map_cons, hroot, ← hlisted]
    rfl
  refine ⟨ons, texts, hconditions, ?_, hruns⟩
  rw [hall, findRoot, hshows.findBinding_eq, hroot]
  rfl

/-! ## Fresh scopes -/

namespace BoundSource

/-- No source is bound under the name of an earlier one. -/
def Unhidden (xs : List BoundSource) : Prop := xs.Pairwise fun x y => x.name ∉ y.keys

instance (xs : List BoundSource) : Decidable (Unhidden xs) :=
  inferInstanceAs (Decidable (xs.Pairwise _))

theorem name_mem_keys (x : BoundSource) : x.name ∈ x.keys :=
  List.mem_cons_of_mem _ List.mem_cons_self

/-- Then each of them is found by its name. -/
theorem Unhidden.find_name {x : BoundSource} {xs : List BoundSource} (h : Unhidden xs) (hx : x ∈ xs) :
    find x.name xs = some x.binding := by
  obtain ⟨before, after, rfl⟩ := List.append_of_mem hx
  obtain ⟨_, hafter, _⟩ := List.pairwise_append.mp h
  exact find_of_last x.name_mem_keys (List.pairwise_cons.mp hafter).1

/-- A clause lists it as itself. -/
theorem Unhidden.listed_eq {xs : List BoundSource} (h : Unhidden xs) :
    listed xs = xs.map binding := by
  refine List.map_congr_left fun x hx => ?_
  rw [h.find_name hx]
  rfl

end BoundSource

namespace Scope

variable {scope : Scope} {target : RelationalTarget}

theorem map_name_joinSources (joins : List Join) :
    (scope.joinSources mode joins).map BoundSource.name = joins.map Join.name := by
  induction joins generalizing scope with
  | nil => rfl
  | cons j rest ih => rw [joinSources, List.map_cons, ih, List.map_cons, Join.bound]

/-- A scope that binds nothing shows a target once it has been bound there. -/
theorem shows_seed (hkind : scope.kind = .statement) (hempty : scope.bindings = []) :
    (scope.seed mode target).Shows target (scope.seedSources mode target) where
  statement := (kind_seed target).trans hkind
  lookup := by
    intro k
    have hholds : scope.holds target = false := by rw [holds, hempty]; rfl
    rw [lookup_seed hholds, hempty, List.lookup_nil, Option.or_none]
  names := by
    rw [seedSources, sources, List.map_cons, map_name_joinSources]
    rfl

/-- The target stays bound to the root key, as long as no join takes it. -/
theorem holds_of_shows {first : BoundSource} {rest : List BoundSource}
    (hshows : scope.Shows target (first :: rest)) (htable : first.binding.table = target.table)
    (hrest : ∀ y ∈ rest, rootKey ∉ y.keys) : scope.holds target = true := by
  have hname : first.name = rootKey := (List.cons.inj hshows.names).1
  have hroot : BoundSource.find rootKey (first :: rest) = some first.binding :=
    BoundSource.find_cons_of_last (hname ▸ first.name_mem_keys) hrest
  rw [holds, hshows.lookup, hroot]
  exact beq_iff_eq.mpr htable

end Scope

/-! ## Keys of valid targets -/

/-- A join that is valid is bound to no empty key, if its alias is not empty. -/
theorem Join.rootKey_notMem_keys {j : Join} (hvalid : j.validate = .ok ())
    (halias : j.aliasName ≠ some "") (scope : Scope) (mode : AliasMode) :
    Scope.rootKey ∉ (j.bound (scope.tableAlias mode j.aliasName j.name).1).keys := by
  have hblank : Text.allBlank "" = true := rfl
  have hvalid : ¬ Text.allBlank j.name = true ∧ ¬ Text.allBlank j.source = true := by
    obtain ⟨kind, name, source, aliasName, on, entity⟩ := j
    cases on <;> rw [Join.validate, ok_unless_iff, ok_unless_iff] at hvalid <;>
      exact ⟨hvalid.1, hvalid.2.1⟩
  -- a generated alias has a line in it, so it is not the empty key of the root
  have hgenerated : (scope.generateAlias j.name).1 ≠ "" := by
    intro h
    have hline := (scope.isGenerated_generateAlias j.name).line_mem
    rw [h] at hline
    cases hline
  intro hkey
  simp only [BoundSource.keys, BoundSource.names, Join.bound, Binding.qualifier, Scope.joinBinding,
    Scope.rootKey, List.mem_cons, List.not_mem_nil, or_false] at hkey
  -- by the mode and by whether an alias was given: the qualifier is one of the three
  rcases hkey with hqualifier | hname
  · cases mode <;> cases hgiven : j.aliasName <;>
      simp only [Scope.tableAlias, hgiven, Option.getD_none, Option.getD_some] at hqualifier
    · exact hvalid.2 (hqualifier ▸ hblank)
    · exact halias (by rw [hgiven, hqualifier])
    · exact hgenerated hqualifier.symm
    · exact halias (by rw [hgiven, hqualifier])
    · exact hvalid.2 (hqualifier ▸ hblank)
    · exact hvalid.2 (hqualifier ▸ hblank)
  · exact hvalid.1 (hname ▸ hblank)

theorem rootKey_notMem_joinSources {joins : List Join} (hvalid : validateJoins joins = .ok ())
    (haliases : ∀ j ∈ joins, j.aliasName ≠ some "") (scope : Scope) (mode : AliasMode) :
    ∀ y ∈ scope.joinSources mode joins, Scope.rootKey ∉ y.keys := by
  induction joins generalizing scope with
  | nil => simp [Scope.joinSources]
  | cons j rest ih =>
    rw [validateJoins, ok_then_iff] at hvalid
    rw [Scope.joinSources, List.forall_mem_cons]
    refine ⟨Join.rootKey_notMem_keys hvalid.1 (haliases j List.mem_cons_self) scope mode, ?_⟩
    exact ih hvalid.2 (fun j hj => haliases j (List.mem_cons_of_mem _ hj)) _

theorem RelationalTarget.validateJoins_of_valid {target : RelationalTarget}
    (h : target.validate = .ok ()) : validateJoins target.joins = .ok () := by
  obtain ⟨schema, table, aliasName, joins, entity⟩ := target
  rw [RelationalTarget.validate, ok_unless_iff] at h
  exact h.2

/-- A valid target whose joins have no empty aliases stays the target of its scope. -/
theorem Scope.holds_seed {scope : Scope} {target : RelationalTarget}
    (hkind : scope.kind = .statement) (hempty : scope.bindings = [])
    (hvalid : target.validate = .ok ()) (haliases : ∀ j ∈ target.joins, j.aliasName ≠ some "") :
    (scope.seed mode target).holds target = true :=
  holds_of_shows (shows_seed hkind hempty) rfl
    (rootKey_notMem_joinSources (RelationalTarget.validateJoins_of_valid hvalid) haliases _ mode)

/-! ## Joins -/

/-- The text of a source is its clause, whether it is given as a table or an entity. -/
theorem yields_clause (hplain : ctx.registry.IsPlain) {e : Expression} {source : Source}
    {text : String} (hsource : e.source? ctx.model = some source)
    (h : e.toSql.Yields ctx s text t) : source.resolveSql.Yields ctx s text t := by
  cases e with
  | target target =>
    cases hsource
    rw [Expression.toSql] at h
    unfold Source.resolveSql
    rwa [RelationalTarget.target_toSource]
  | dataTarget target =>
    cases hsource
    rw [Expression.toSql] at h
    obtain ⟨_, _, hfound, _⟩ := (yields_resolveText hplain).mp h
    obtain ⟨found, _, hsource, hclause⟩ := yields_bind.mp hfound
    obtain ⟨_, rfl, rfl⟩ := (yields_source hplain).mp hsource
    exact hclause
  | _ => cases hsource

/-- The clause of a target lists each join with its own table and the alias that it
was given in the scope, and never those of another join, as long as no join is bound
under the name of an earlier one and no target stands in the conditions. -/
theorem clause_lists_own_joins (hplain : ctx.registry.IsPlain) {e : Expression} {source : Source}
    (hsource : e.source? ctx.model = some source)
    (htargets : ∀ x, Contains ctx.dialect ctx.model (Join.conditions source.target.joins) x →
      x.isTarget = false)
    {sources : List BoundSource}
    (hsources : sources =
      (Scope.inside ctx.enclosing .statement).seedSources ctx.aliasMode source.target)
    (hunhidden : BoundSource.Unhidden sources)
    (hscope : s.scope = (Scope.inside ctx.enclosing .statement).seed ctx.aliasMode source.target)
    {text : String} (h : e.toSql.Yields ctx s text t) :
    ∃ ons, List.Forall₂ Join.IsCondition source.target.joins ons ∧
      text = sqlText ctx.dialect
        (source.target.clauseTokens (sources.map BoundSource.binding) ons) := by
  have hshows : s.scope.Shows source.target sources := by
    rw [hscope, hsources]
    exact Scope.shows_seed rfl rfl
  have hholds : s.scope.holds source.target = true := by
    subst hsources
    exact Scope.holds_of_shows hshows rfl (List.pairwise_cons.mp hunhidden).1
  -- what a condition binds it binds in scopes of its own, so the sources stay as they are
  have hkeeps : ∀ x ∈ Join.conditions source.target.joins, x.toSql.Keeps ctx :=
    fun x hx => Expression.keeps hplain x fun y hy => htargets y (hy.of_mem hx)
  obtain ⟨ons, _, hconditions, rfl, _⟩ :=
    runs_clause hplain hsource hshows hholds hkeeps (yields_clause hplain hsource h)
  exact ⟨ons, hconditions, by rw [hunhidden.listed_eq]⟩

/-- A table with two joins. The first is named like the table of the second. -/
def crossedTarget : RelationalTarget :=
  let join (name source : String) : Join := {
    kind := .inner, name := name, source := source, aliasName := none, on := none, entity := none }
  { schema := none, table := "t", aliasName := none
    joins := [join "a" "b", join "x" "a"], entity := none }

/-- With generated aliases the joins do not meet each other. -/
theorem clause_lists_own_joins_of_generated :
    ∃ text t ons,
      (Expression.target crossedTarget).toSql.Yields
        (Compiler.ansi .auto).context { scope := Scope.root.seed .auto crossedTarget } text t ∧
      text = sqlText (.new .ansi) (crossedTarget.clauseTokens
        [⟨none, "t", some "t_0_0", none⟩, ⟨none, "b", some "a_0_0", none⟩,
          ⟨none, "a", some "x_0_0", none⟩] ons) := by
  have hregistry : (Compiler.ansi .auto).context.registry.IsPlain := Dialect.registry_isPlain _
  have hok : ((Expression.target crossedTarget).toSql.outcome
      (Compiler.ansi .auto).context
        { scope := Scope.root.seed .auto crossedTarget }).1.isOk = true := by
    decide +kernel
  obtain ⟨text, t, hrun⟩ := exists_of_isOk hok
  have hconditions : ∀ x,
      Contains (.new .ansi) none (Join.conditions crossedTarget.joins) x → x.isTarget = false := by
    rintro x ⟨⟩
  obtain ⟨ons, _, htext⟩ := clause_lists_own_joins (s := { scope := Scope.root.seed .auto crossedTarget })
    (e := .target crossedTarget) hregistry rfl hconditions rfl (by decide +kernel) rfl hrun
  refine ⟨text, t, ons, hrun, ?_⟩
  rw [htext]
  congr 2

/-- Without aliases the table of the second join hides the first one, which is then
listed with the table of the second. -/
theorem second_join_hides_first :
    (crossedTarget.joins.map Join.name).Nodup ∧
    ((Compiler.ansi .explicitOnly).compileSelect (.ofSource (.target crossedTarget)) {}).1.toOption.map
      (fun compiled => compiled.statement.sql) = some "SELECT * FROM t INNER JOIN a INNER JOIN a" := by
  decide +kernel

end SqlCompose
