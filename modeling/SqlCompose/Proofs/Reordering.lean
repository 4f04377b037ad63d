import SqlCompose.Proofs.Lockstep
import SqlCompose.Proofs.Remapping
import SqlCompose.Proofs.Transparency

/-!
# SqlCompose.Proofs.Reordering -- the order in which expressions are resolved

Resolving an expression without targets changes nothing but the parameters, and those
only at their end, even if it is refused halfway. So two such expressions do not
notice each other: whichever comes first, each is resolved into the same text, but for
the numbers of the placeholders of the parameters that it adds.
-/

namespace SqlCompose

open Compose Coupling Placeholder

variable {base : Context} {plain : Char → Prop} {chain : List Scope}
  {s s' t : Session} {e : Expression} {a : String}

/-! ## The same expression after other parameters -/

/-- Two runs in the same scopes, after different parameters. -/
def Coupling.shifted (base : Context) (hplain : Admits plain) (left right : Accumulator) :
    Coupling base where
  plain := plain
  admits := hplain
  exchange := .identity
  left := left.entries.toList
  right := right.entries.toList
  depth := 0
  modes := modes_outermost base
  alike := Eq
  alike_value := kept_value
  alike_temporal := kept_temporal
  alike_template := kept_template
  alike_parameter _ := rfl
  alike_pattern := kept_pattern

theorem related_shifted {hplain : Admits plain} (hscopes : ∀ o ∈ s.scope :: chain, o.IsPlain plain)
    (hscope : s'.scope = s.scope) :
    (shifted base hplain s.parameters s'.parameters).Related (fun _ => True) chain chain s s' where
  scope := hscope
  plain := hscopes _ List.mem_cons_self
  chain_plain := fun o ho => hscopes o (List.mem_cons_of_mem _ ho)
  depth := rfl
  own := .inr fun _ => rfl
  known := fun _ _ => .inr rfl
  keys := .inr fun _ => trivial
  grown := ⟨[], [], (List.append_nil _).symm, (List.append_nil _).symm, .nil⟩

/-- The numbers of placeholders after different parameters. -/
def Numbering.between (hplain : Admits plain) (left right : Accumulator) : Numbering :=
  ⟨plain, hplain, left.size, right.size⟩

/-- After other parameters an expression adds the same parameters, if there is room. -/
theorem Expression.yields_shifted (hregistry : base.registry.IsPlain) (hplain : Admits plain)
    (hmodel : ∀ s ∈ modelNames base.model, Plain plain s) (hnames : AllPlain plain e.names)
    (hscopes : ∀ o ∈ s.scope :: chain, o.IsPlain plain) (hscope : s'.scope = s.scope)
    (hroom : s'.parameters.size ≤ s.parameters.size ∨
      s'.parameters.size + Item.count (e.outline base.dialect false) ≤ maxNumber)
    (h : e.toSql.Yields (base.within chain) s a t) :
    ∃ b t', e.toSql.Yields (base.within chain) s' b t' ∧
      (Numbering.between hplain s.parameters s'.parameters).Texts a b ∧
      t'.parameters.size = s'.parameters.size + Item.count (e.outline base.dialect false) ∧
      ∃ more, t.parameters.entries.toList = s.parameters.entries.toList ++ more ∧
        t'.parameters.entries.toList = s'.parameters.entries.toList ++ more := by
  have hfollows := Expression.follows (C := shifted base hplain s.parameters s'.parameters)
    hregistry hmodel e (fun _ => True) hnames fun need _ => by
      cases need with
      | key k => trivial
      | mode m => exact .inl rfl
  rw [show (shifted base hplain s.parameters s'.parameters).exchange = .identity from rfl,
    Expression.exchange_identity] at hfollows
  -- the parameters before the expression move its numbers and nothing else
  obtain ⟨b, t', hrun, htexts, hafter, hsize⟩ :=
    hfollows (related_shifted hscopes hscope) hroom h
  obtain ⟨more, more', hmore, hmore', hsame⟩ := hafter.grown
  have hsame : List.Forall₂ Eq more more' := hsame
  rw [List.forall₂_eq_eq_eq] at hsame
  subst hsame
  exact ⟨b, t', hrun, htexts, hsize, more, hmore, hmore'⟩

/-- Two texts of an expression are the same but for the numbers of the placeholders that
it adds. Where no name in it has a colon, every colon is that of such a placeholder. -/
structure Expression.Renumbered (base : Context) (scopes : List Scope) (e : Expression)
    (left right : Accumulator) (a b : String) : Prop where
  texts : (Numbering.between admits_any left right).Texts a b
  colons :
    let names := e.names ++ scopes.flatMap Scope.entities
    (∀ name ∈ e.names ++ mappedNames base.model names, ':' ∉ name.toList) →
    (∀ o ∈ scopes, o.IsPlain (· ≠ ':')) →
      (Numbering.between admits_no_colon left right).Texts a b

/-- After other parameters an expression has the same text, but for the numbers of placeholders. -/
theorem Expression.yields_renumbered (hregistry : base.registry.IsPlain)
    (hscope : s'.scope = s.scope)
    (hroom : s'.parameters.size ≤ s.parameters.size ∨
      s'.parameters.size + Item.count (e.outline base.dialect false) ≤ maxNumber)
    (h : e.toSql.Yields (base.within chain) s a t) :
    ∃ b t', e.toSql.Yields (base.within chain) s' b t' ∧
      e.Renumbered base (s.scope :: chain) s.parameters s'.parameters a b ∧
      t'.parameters.size = s'.parameters.size + Item.count (e.outline base.dialect false) ∧
      ∃ more, t.parameters.entries.toList = s.parameters.entries.toList ++ more ∧
        t'.parameters.entries.toList = s'.parameters.entries.toList ++ more := by
  have hevery : AllPlain (fun _ => True) e.names := fun _ _ _ _ => trivial
  have heveryModel : ∀ name ∈ modelNames base.model, Plain (fun _ => True) name :=
    fun _ _ _ _ => trivial
  have hscopes : ∀ o ∈ s.scope :: chain, o.IsPlain fun _ => True :=
    fun _ _ _ _ => ⟨fun _ _ => trivial, fun _ _ _ _ => trivial⟩
  obtain ⟨b, t', hrun, htexts, hsize, hmore⟩ := Expression.yields_shifted hregistry
    admits_any heveryModel hevery hscopes hscope hroom h
  refine ⟨b, t', hrun, ⟨htexts, fun hcolons hscopes => ?_⟩, hsize, hmore⟩
  let names := e.names ++ (s.scope :: chain).flatMap Scope.entities
  have hplain : AllPlain (· ≠ ':') (e.names ++ mappedNames base.model names) :=
    fun name hname => plain_of_no_colon admits_no_colon (hcolons name hname)
  rw [allPlain_append] at hplain
  -- both runs are the same ones under a model that knows only these names
  have hasks : (Expression.toSql e).Asks base names :=
    Expression.asks hregistry e (List.subset_append_left _ _)
  have hagree := agree_restricted base.model names
  have hentities : (s.scope :: chain).flatMap Scope.entities ⊆ names := List.subset_append_right _ _
  obtain ⟨hknown, hchain⟩ := List.forall_mem_cons.mp (Scope.knows_of_chain hentities)
  have h := (hasks.yields_iff hagree hknown hchain).mpr h
  have hrun := (hasks.yields_iff hagree (hscope ▸ hknown) hchain).mpr hrun
  have hregistry : ({ base with model := base.model.map fun m => m.restricted names } :
    Context).registry.IsPlain := hregistry
  obtain ⟨b', _, hrun', htexts', _⟩ := Expression.yields_shifted hregistry admits_no_colon
    (fun name hname => hplain.2 name (modelNames_restricted hname)) hplain.1 hscopes hscope hroom h
  rw [(hrun.unique hrun').1]
  exact htexts'

/-- An expression adds as many parameters as it has values. -/
theorem Expression.size_of_yields (hregistry : base.registry.IsPlain)
    (h : e.toSql.Yields (base.within chain) s a t) :
    t.parameters.size = s.parameters.size + Item.count (e.outline base.dialect false) := by
  obtain ⟨_, _, hrun, _, hsize, _⟩ :=
    Expression.yields_renumbered hregistry (rfl : s.scope = s.scope) (.inl (Nat.le_refl _)) h
  rw [(h.unique hrun).2]
  exact hsize

/-! ## Two expressions -/

/-- Two expressions that are resolved one after the other are resolved in the other
order too. -/
theorem Expression.yields_swapped (hregistry : base.registry.IsPlain) {e' : Expression}
    {a' : String} {v₁ v₂ : Session} (h : e.toSql.Yields (base.within chain) s a v₁)
    (h' : e'.toSql.Yields (base.within chain) { s with parameters := v₁.parameters } a' v₂)
    (hroom : v₂.parameters.size ≤ maxNumber) :
    ∃ b b' w₁ w₂, e'.toSql.Yields (base.within chain) s b' w₁ ∧
      e.toSql.Yields (base.within chain) { s with parameters := w₁.parameters } b w₂ ∧
      e.Renumbered base (s.scope :: chain) s.parameters w₁.parameters a b ∧
      e'.Renumbered base (s.scope :: chain) v₁.parameters s.parameters a' b' ∧
      ∃ more more',
        v₂.parameters.entries.toList = s.parameters.entries.toList ++ more ++ more' ∧
        w₂.parameters.entries.toList = s.parameters.entries.toList ++ more' ++ more := by
  have hsize₁ := Expression.size_of_yields hregistry h
  have hsize₂ : v₂.parameters.size = v₁.parameters.size + _ :=
    Expression.size_of_yields (s := { s with parameters := v₁.parameters }) hregistry h'
  -- the second one comes first, after fewer parameters
  obtain ⟨b', w₁, hw₁, hb', hsize, more', hmore'₂, hmore'₁⟩ :=
    Expression.yields_renumbered (s := { s with parameters := v₁.parameters }) hregistry
      (rfl : s.scope = _) (.inl (show s.parameters.size ≤ v₁.parameters.size by omega)) h'
  have hroom' : w₁.parameters.size + Item.count (e.outline base.dialect false) ≤ maxNumber := by
    omega
  have hscope : ({ s with parameters := w₁.parameters } : Session).scope = s.scope := rfl
  -- and then the first one, after as many more
  obtain ⟨b, w₂, hw₂, hb, _, more, hmore₁, hmore₂⟩ :=
    Expression.yields_renumbered hregistry hscope (.inr hroom') h
  refine ⟨b, b', w₁, w₂, hw₁, hw₂, hb, hb', more, more', ?_, ?_⟩
  · rw [hmore'₂, hmore₁]
  · rw [hmore₂, hmore'₁]

namespace ScopeTree

variable {t : ScopeTree} {n : Nat} {streams : StreamStore}

theorem chain_with_parameters (t : ScopeTree) (parameters : Accumulator) (n : Nat) :
    ({ t with parameters := parameters } : ScopeTree).chain n = t.chain n := by
  have hsame : ∀ fuel n, ({ t with parameters := parameters } : ScopeTree).chainUpTo fuel n =
      t.chainUpTo fuel n := by
    intro fuel
    induction fuel with
    | zero => exact fun _ => rfl
    | succ fuel ih =>
      intro n
      simp only [chainUpTo, ih]
  exact hsame _ n

/-- The session of a run in a scope, after some parameters. -/
abbrev sessionAfter (t : ScopeTree) (n : Nat) (streams : StreamStore) (parameters : Accumulator) :
    Session := { t.sessionAt n streams with parameters := parameters }

/-- A run sees the scopes of its chain. A number that no scope has stands for a scope
without bindings. -/
theorem renumbered_of_chain (streams : StreamStore) {e : Expression} {left right : Accumulator}
    {a b : String}
    (h : e.Renumbered t.context ((t.sessionAt n streams).scope :: (t.chain n).tail) left right a b) :
    e.Renumbered t.context (t.chain n) left right a b := by
  cases hchain : t.chain n with
  | nil =>
    refine ⟨h.texts, fun hcolons hscopes => ?_⟩
    unfold sessionAt at h
    rw [hchain] at h
    exact h.colons hcolons (List.forall_mem_singleton.mpr Scope.isPlain_root)
  | cons o outer =>
    unfold sessionAt at h
    rwa [hchain] at h

/-- An expression without targets is resolved by a run that changes nothing but the parameters. -/
theorem run_resolveSql_eq_ok {e : Expression} (hplain : t.context.registry.IsPlain)
    (hfree : e.IsTargetFree t.context.dialect) (parameters : Accumulator) {a : String}
    {t' : ScopeTree} {streams' : StreamStore} :
    ({ t with parameters := parameters } : ScopeTree).run n (resolveSql e) streams =
        (.ok a, t', streams') ↔
      ∃ u, e.toSql.Yields (t.contextAt n)
          (t.sessionAfter n streams parameters) a u ∧
        t' = { t with parameters := u.parameters } ∧ streams' = streams := by
  -- chains are read off the nodes, so other parameters leave all scopes as they are
  have hcontext : ({ t with parameters := parameters } : ScopeTree).contextAt n = t.contextAt n := by
    unfold contextAt
    rw [chain_with_parameters]
  have hsession : ({ t with parameters := parameters } : ScopeTree).sessionAt n streams =
      t.sessionAfter n streams parameters := by
    unfold sessionAfter sessionAt
    rw [chain_with_parameters]
  rw [run_of_mirrors (t := { t with parameters := parameters })
    (fun _ => mirrors_resolveSql hplain hfree) n streams, hcontext, hsession]
  constructor
  · intro h
    simp only [Prod.mk.injEq] at h
    obtain ⟨hresult, rfl, rfl⟩ := h
    exact ⟨_, Prod.ext hresult rfl, rfl, rfl⟩
  · rintro ⟨u, hrun, rfl, rfl⟩
    have hrun : (resolveSql e).outcome (t.contextAt n) (t.sessionAfter n streams' parameters) =
        (.ok a, u) := hrun
    rw [hrun]

/-- Under the registry of its dialect an expression without targets leaves all scopes as
they are, whether it is resolved or refused, and adds parameters at the end only. If
another one is resolved after it with room for the parameters of both, the two are
resolved in the other order as well: into the same texts, but for the numbers of their
placeholders, and with the same parameters of each. -/
theorem resolveSql_leaves_scopes (hregistry : t.context.registry = t.context.dialect.registry)
    {e : Expression} (hfree : e.IsTargetFree t.context.dialect) (n : Nat) (streams : StreamStore) :
    let after := (t.run n (resolveSql e) streams).2.1
    (after.nodes = t.nodes ∧ after.context = t.context ∧ t.parameters.Extends after.parameters) ∧
    ∀ {e' : Expression} {a a' : String} {t₁ t₂ : ScopeTree} {streams₁ streams₂ : StreamStore},
      e'.IsTargetFree t.context.dialect →
      t.run n (resolveSql e) streams = (.ok a, t₁, streams₁) →
      t₁.run n (resolveSql e') streams₁ = (.ok a', t₂, streams₂) →
      t₂.parameters.size ≤ maxNumber →
        ∃ b b' u₁ u₂, t.run n (resolveSql e') streams = (.ok b', u₁, streams) ∧
          u₁.run n (resolveSql e) streams = (.ok b, u₂, streams) ∧
          e.Renumbered t.context (t.chain n) t.parameters u₁.parameters a b ∧
          e'.Renumbered t.context (t.chain n) t₁.parameters t.parameters a' b' ∧
          ∃ more more',
            t₂.parameters.entries.toList = t.parameters.entries.toList ++ more ++ more' ∧
            u₂.parameters.entries.toList = t.parameters.entries.toList ++ more' ++ more := by
  have hplain : t.context.registry.IsPlain := hregistry ▸ Dialect.registry_isPlain _
  constructor
  · have hmirrors : ∀ ρ, (resolveSql e).Mirrors t.context ρ :=
      fun _ => mirrors_resolveSql hplain hfree
    rw [run_of_mirrors hmirrors n streams]
    obtain ⟨_, _, hgrow⟩ := Mirrors.frame hmirrors (t.chain n).tail (t.sessionAt n streams)
    exact ⟨rfl, rfl, hgrow⟩
  · intro e' a a' t₁ t₂ streams₁ streams₂ hfree' hfirst hsecond hroom
    obtain ⟨v₁, hv₁, rfl, rfl⟩ :=
      (run_resolveSql_eq_ok hplain hfree t.parameters).mp hfirst
    obtain ⟨v₂, hv₂, rfl, _⟩ := (run_resolveSql_eq_ok hplain hfree' _).mp hsecond
    -- as neither changes a scope, both are resolved in the same one in either order
    obtain ⟨b, b', w₁, w₂, hw₁, hw₂, hb, hb', hmore⟩ :=
      @Expression.yields_swapped t.context (t.chain n).tail (t.sessionAfter n streams₁ t.parameters)
        _ _ hplain _ _ _ _ hv₁ hv₂ hroom
    exact ⟨b, b', { t with parameters := w₁.parameters }, { t with parameters := w₂.parameters },
      (run_resolveSql_eq_ok hplain hfree' t.parameters).mpr ⟨w₁, hw₁, rfl, rfl⟩,
      (run_resolveSql_eq_ok hplain hfree _).mpr ⟨w₂, hw₂, rfl, rfl⟩,
      renumbered_of_chain streams₁ hb, renumbered_of_chain streams₁ hb',
      hmore⟩

/-- The text of the condition that a person has an item, with a given placeholder. -/
def hasItemText (placeholder : String) : String :=
  "EXISTS (SELECT * FROM items item_0_1 WHERE (item_0_1.owner=pers_0_0.id) AND " ++
    "(item_0_1.size>=" ++ placeholder ++ "))"

theorem resolveSql_leaves_scopes_of_two :
    ∃ t₁ t₂ u₁ u₂ streams₁ streams₂ b b',
      (ofPerson .auto).run 0 (resolveSql (hasItem 5)) {} =
        (.ok (hasItemText ":[0001]"), t₁, streams₁) ∧
      t₁.run 0 (resolveSql (hasItem 7)) streams₁ = (.ok (hasItemText ":[0002]"), t₂, streams₂) ∧
      t₁.nodes = (ofPerson .auto).nodes ∧
      (ofPerson .auto).run 0 (resolveSql (hasItem 7)) {} = (.ok b', u₁, {}) ∧
      u₁.run 0 (resolveSql (hasItem 5)) {} = (.ok b, u₂, {}) ∧
      (hasItem 5).Renumbered (Compiler.ansi .auto).context ((ofPerson .auto).chain 0) {}
        u₁.parameters (hasItemText ":[0001]") b ∧
      (hasItem 7).Renumbered (Compiler.ansi .auto).context ((ofPerson .auto).chain 0)
        t₁.parameters {} (hasItemText ":[0002]") b' := by
  have hruns :
      let first := (ofPerson .auto).run 0 (resolveSql (hasItem 5)) {}
      let second := first.2.1.run 0 (resolveSql (hasItem 7)) first.2.2
      first.1.toOption = some (hasItemText ":[0001]") ∧
        second.1.toOption = some (hasItemText ":[0002]") ∧ second.2.1.parameters.size ≤ maxNumber := by
    decide +kernel
  obtain ⟨hfirst, hsecond, hroom⟩ := hruns
  obtain ⟨⟨hnodes, _⟩, horder⟩ :=
    resolveSql_leaves_scopes (t := ofPerson .auto) rfl (isTargetFree_hasItem 5) 0 {}
  obtain ⟨⟨t₁, streams₁⟩, hrun⟩ := exists_of_toOption hfirst
  rw [hrun] at hsecond hroom hnodes
  obtain ⟨⟨t₂, streams₂⟩, hrun'⟩ := exists_of_toOption hsecond
  rw [hrun'] at hroom
  obtain ⟨b, b', u₁, u₂, hb', hb, hrenumbered, hrenumbered', _⟩ :=
    horder (isTargetFree_hasItem 7) hrun hrun' hroom
  exact ⟨t₁, t₂, u₁, u₂, streams₁, streams₂, b, b', hrun, hrun', hnodes, hb', hb, hrenumbered,
    hrenumbered'⟩

end ScopeTree

end SqlCompose
