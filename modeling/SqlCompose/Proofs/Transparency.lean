import SqlCompose.Proofs.Freshness
import SqlCompose.Proofs.Mirrors

/-!
# SqlCompose.Proofs.Transparency -- resolving inside helper scopes

An expression without targets only looks things up in the scope it is resolved in.
It may contain sub-selects, but these bind their targets in scopes of their own. So
it is resolved into the same text, or refused with the same error, in every scope
that look-ups cannot tell from the first one: on top of a tower of query scopes as in
the scope that the tower stands on.
-/

namespace SqlCompose

open Compose

variable {base : Context} {d : Dialect}

/-! ## Expressions without targets -/

/-- Resolving an expression resolves another one in the same scope: the expression
itself, an operand, or one of its operands. What is inside a sub-select is resolved in
the scope of the sub-select. -/
inductive Expression.Involves (d : Dialect) : Expression → Expression → Prop
  | self {e : Expression} : Involves d e e
  | operand {e o x : Expression} : o ∈ e.operands d → Involves d o x → Involves d e x

theorem Expression.involves_iff {e x : Expression} :
    e.Involves d x ↔ x = e ∨ ∃ o ∈ e.operands d, o.Involves d x := by
  constructor
  · intro h
    cases h with
    | self => exact .inl rfl
    | operand ho h => exact .inr ⟨_, ho, h⟩
  · rintro (rfl | ⟨o, ho, h⟩)
    · exact .self
    · exact .operand ho h

/-- An expression is no target and has none among its operands, outside its sub-selects. -/
def Expression.IsTargetFree (d : Dialect) (e : Expression) : Prop :=
  ∀ x, e.Involves d x → x.isTarget = false

theorem Expression.IsTargetFree.operand {e o : Expression} (h : e.IsTargetFree d)
    (ho : o ∈ e.operands d) : o.IsTargetFree d :=
  fun x hx => h x (.operand ho hx)

/-! ## Every expression -/

/-- Finding a source does not look at the scopes at all. -/
theorem Expression.source_mirrors (hplain : base.registry.IsPlain) {ρ : Scope → Scope → Prop}
    (e : Expression) : (Expression.toSource e).Mirrors base ρ := by
  cases e with
  | _ =>
    rw [Expression.toSource]
    · exact .source hplain
    all_goals simp

section Mutual

set_option linter.unusedSectionVars false

variable (hplain : base.registry.IsPlain)

include hplain

mutual

/-- In the same scope every expression is mirrored, in other scopes those without
targets are. -/
theorem Expression.mirrors (e : Expression) {ρ : Scope → Scope → Prop}
    (h : ρ = Eq ∨ e.IsTargetFree base.dialect) :
    (Expression.toSql e).Mirrors base ρ := by
  have hoperands : ∀ x ∈ e.operands base.dialect,
      ρ = Eq ∨ x.IsTargetFree base.dialect :=
    fun x hx => h.imp_right fun hfree => hfree.operand hx
  cases e with
  | path p =>
    rw [Expression.toSql]
    exact .resolveText hplain (.path p)
  | dataTarget t =>
    -- a target is bound in the current scope, so nothing but the same scope will do
    rw [h.resolve_right fun hfree => nomatch hfree _ .self, Expression.toSql]
    refine .resolveText hplain (.bind (.source hplain) fun s hs => ?_)
    obtain ⟨chain, _, _, hsource⟩ := hs
    have hwithin : (base.within chain).registry.IsPlain := hplain
    obtain ⟨_, hs, _⟩ := (yields_source hwithin).mp hsource
    rw [hs]
    exact .sourceSql hplain (DataTarget.conditions_mirror t)
  | target t =>
    rw [h.resolve_right fun hfree => nomatch hfree _ .self, Expression.toSql]
    exact .resolveText hplain (.sourceText (RelationalTarget.conditions_mirror t))
  | filter f =>
    rw [Expression.toSql]
    exact .resolveText hplain (.bind (Filter.mirrors f hoperands) fun tokens _ => .write tokens)
  | sort s =>
    rw [Expression.toSql]
    exact .resolveText hplain (.bind (SortOrder.mirrors s hoperands) fun terms _ => .write _)
  | function f =>
    rw [Expression.toSql]
    exact .resolveText hplain (FunctionCall.mirrors f hoperands)
  | literal l =>
    rw [Expression.toSql]
    exact .literal hplain l
  | parameter p =>
    rw [Expression.toSql]
    exact .resolveText hplain (.addParameter p)
  | sql r =>
    rw [Expression.toSql]
    exact .resolveText hplain (.bind (.fill r _ _ _) fun out _ => .pure _)
  | query q =>
    -- the scope of a sub-select is the same on both sides, so it may have any targets
    rw [Expression.toSql, SelectQuery.toSource_eq]
    refine .resolveText hplain (.bind (Expression.source_mirrors hplain q.source) fun s hs => ?_)
    obtain ⟨chain, _, _, hsource⟩ := hs
    have hwithin : (base.within chain).registry.IsPlain := hplain
    obtain ⟨_, hsource, _⟩ := (yields_toSource hwithin).mp hsource
    refine .bind (.inStatement (SelectQuery.mirrors q ?_)) fun rendered _ => .pure _
    exact SelectQuery.conditions_mirror q hsource

theorem Expression.mirrors_all (es : List Expression) {ρ : Scope → Scope → Prop}
    (h : ∀ x ∈ es, ρ = Eq ∨ x.IsTargetFree base.dialect) :
    (Expression.allToSql es).Mirrors base ρ := by
  cases es with
  | nil => exact .pure []
  | cons e rest =>
    rw [Expression.allToSql]
    refine .bind (Expression.mirrors e (h e List.mem_cons_self)) fun sql _ => ?_
    refine .bind (Expression.mirrors_all rest fun x hx => h x (List.mem_cons_of_mem e hx)) ?_
    exact fun others _ => .pure _

/-- A filter is mirrored if its operands are. -/
theorem Filter.mirrors (f : Filter) {ρ : Scope → Scope → Prop}
    (h : ∀ x ∈ f.operands base.dialect, ρ = Eq ∨ x.IsTargetFree base.dialect) :
    (Filter.toTokens f).Mirrors base ρ := by
  cases f with
  | nullTest negated operand =>
    simp only [Filter.operands, List.forall_mem_cons] at h
    rw [Filter.toTokens]
    exact .bind (Expression.mirrors operand h.1) fun sql _ => .pure _
  | compare op left right =>
    rw [Filter.operands] at h
    rw [Filter.toTokens]
    refine .bind (Expression.mirrors left (h left (by split <;> simp))) fun l _ => ?_
    cases hnull : right.isNullLiteral with
    | true => exact .pure _
    | false =>
      refine .bind (Expression.mirrors right (h right (by simp [hnull]))) fun r _ => .pure _
  | member negated left right =>
    simp only [Filter.operands, List.forall_mem_cons] at h
    rw [Filter.toTokens]
    refine .bind (Expression.mirrors left h.1) fun l _ => ?_
    exact .bind (Expression.mirrors right h.2.1) fun r _ => .pure _
  | between operand low high =>
    simp only [Filter.operands, List.forall_mem_cons] at h
    rw [Filter.toTokens]
    refine .bind (Expression.mirrors operand h.1) fun o _ => ?_
    refine .bind (Expression.mirrors low h.2.1) fun l _ => ?_
    exact .bind (Expression.mirrors high h.2.2.1) fun u _ => .pure _
  | like operand text mode ignoreCase =>
    simp only [Filter.operands, List.forall_mem_cons] at h
    rw [Filter.toTokens]
    refine .bind (Expression.mirrors operand h.1) fun o _ => .bind .dialect fun d _ => ?_
    exact .bind (.literal hplain _) fun marker _ => .pure _
  | junction op children =>
    rw [Filter.toTokens]
    exact .bind (Filter.mirrors_all children h) fun inner _ => .pure _
  | not child =>
    rw [Filter.toTokens]
    exact .bind (Filter.mirrors child h) fun inner _ => .pure _
  | rows negated query =>
    simp only [Filter.operands, List.forall_mem_cons] at h
    rw [Filter.toTokens]
    exact .bind (Expression.mirrors query h.1) fun sql _ => .pure _

theorem Filter.mirrors_all (fs : List Filter) {ρ : Scope → Scope → Prop}
    (h : ∀ x ∈ Filter.allOperands base.dialect fs,
      ρ = Eq ∨ x.IsTargetFree base.dialect) :
    (Filter.allToTokens fs).Mirrors base ρ := by
  cases fs with
  | nil => exact .pure []
  | cons f rest =>
    rw [Filter.allOperands, List.forall_mem_append] at h
    rw [Filter.allToTokens]
    refine .bind (Filter.mirrors f h.1) fun tokens _ => ?_
    exact .bind (Filter.mirrors_all rest h.2) fun others _ => .pure _

/-- A sort is mirrored if the expressions that it orders by are. -/
theorem SortOrder.mirrors (s : SortOrder) {ρ : Scope → Scope → Prop}
    (h : ∀ x ∈ s.operands, ρ = Eq ∨ x.IsTargetFree base.dialect) :
    (SortOrder.toTerms s).Mirrors base ρ := by
  cases s with
  | term expr direction =>
    simp only [SortOrder.operands, List.forall_mem_cons] at h
    rw [SortOrder.toTerms]
    exact .bind (Expression.mirrors expr h.1) fun sql _ => .pure _
  | composite terms =>
    rw [SortOrder.toTerms]
    exact SortOrder.mirrors_all terms h

theorem SortOrder.mirrors_all (sorts : List SortOrder) {ρ : Scope → Scope → Prop}
    (h : ∀ x ∈ SortOrder.allOperands sorts, ρ = Eq ∨ x.IsTargetFree base.dialect) :
    (SortOrder.allToTerms sorts).Mirrors base ρ := by
  cases sorts with
  | nil => exact .pure []
  | cons s rest =>
    rw [SortOrder.allOperands, List.forall_mem_append] at h
    rw [SortOrder.allToTerms]
    refine .bind (SortOrder.mirrors s h.1) fun terms _ => ?_
    exact .bind (SortOrder.mirrors_all rest h.2) fun others _ => .pure _

theorem FunctionCall.mirrors (f : FunctionCall) {ρ : Scope → Scope → Prop}
    (h : ∀ x ∈ f.args, ρ = Eq ∨ x.IsTargetFree base.dialect) :
    (FunctionCall.toSql f).Mirrors base ρ := by
  obtain ⟨kind, args, distinct⟩ := f
  rw [FunctionCall.toSql]
  exact .bind (Expression.mirrors_all args h) fun texts _ => .bind .dialect fun d _ => .pure _

/-- The condition of a join is resolved in the scope in which its target is bound. -/
theorem Join.condition_mirrors (j : Join) :
    ∀ x ∈ Join.toCondition j, x.Mirrors base Eq := by
  obtain ⟨kind, name, source, aliasName, on, entity⟩ := j
  intro x hx
  cases on with
  | none => cases hx
  | some f =>
    obtain rfl := Option.some.inj hx
    exact .resolveText hplain
      (.bind (Filter.mirrors f fun _ _ => .inl rfl) fun tokens _ => .write tokens)

theorem Join.conditions_mirror (joins : List Join) :
    ∀ c ∈ Join.toConditions joins, ∀ x ∈ c, x.Mirrors base Eq := by
  cases joins with
  | nil => exact List.forall_mem_nil _
  | cons j rest =>
    rw [Join.toConditions, List.forall_mem_cons]
    exact ⟨Join.condition_mirrors j, Join.conditions_mirror rest⟩

theorem RelationalTarget.conditions_mirror (t : RelationalTarget) :
    ∀ c ∈ (RelationalTarget.toSource t).conditions, ∀ x ∈ c, x.Mirrors base Eq := by
  obtain ⟨schema, table, aliasName, joins, entity⟩ := t
  rw [RelationalTarget.toSource]
  exact Join.conditions_mirror joins

theorem DataTarget.conditions_mirror (t : DataTarget) :
    ∀ c ∈ (DataTarget.toSource t base.model).conditions, ∀ x ∈ c, x.Mirrors base Eq := by
  obtain ⟨entity, aliasName, joins⟩ := t
  rw [DataTarget.toSource]
  exact Join.conditions_mirror joins

/-- The joins of a source have conditions that are mirrored. -/
theorem Expression.conditions_mirror (e : Expression) {s : Source}
    (hs : e.source? base.model = some s) : ∀ c ∈ s.conditions, ∀ x ∈ c, x.Mirrors base Eq := by
  cases e with
  | target t =>
    cases hs
    exact RelationalTarget.conditions_mirror t
  | dataTarget t =>
    cases hs
    exact DataTarget.conditions_mirror t
  | _ => cases hs

theorem Selection.mirrors (s : Selection) : (Selection.toSql s).Mirrors base Eq := by
  obtain ⟨expr, aliasName⟩ := s
  rw [Selection.toSql]
  exact .bind (Expression.mirrors expr (.inl rfl)) fun sql _ => .pure _

theorem Selection.mirrors_all (selections : List Selection) :
    (Selection.allToSql selections).Mirrors base Eq := by
  cases selections with
  | nil => exact .pure []
  | cons s rest =>
    rw [Selection.allToSql]
    refine .bind (Selection.mirrors s) fun sql _ => ?_
    exact .bind (Selection.mirrors_all rest) fun others _ => .pure _

/-- Columns get their aliases from the number of the scope, so the scope has to be the same. -/
theorem Projection.mirrors (p : Projection) : (Projection.toColumns p).Mirrors base Eq := by
  obtain ⟨selections, aliasMode, converter⟩ := p
  rw [Projection.toColumns]
  refine .bind (.ofResult _) fun _ _ => .bind .aliasMode fun mode _ => ?_
  refine .bind .sequence fun n _ => ?_
  exact .bind (Selection.mirrors_all selections) fun sqls _ => .pure _

/-- A query is mirrored in a scope in which its source is bound. -/
theorem SelectQuery.mirrors (q : SelectQuery) {s : Source}
    (hs : ∀ c ∈ s.conditions, ∀ x ∈ c, x.Mirrors base Eq) :
    (SelectQuery.renderFrom q s).Mirrors base Eq := by
  rw [SelectQuery.renderFrom_eq]
  obtain ⟨source, distinct, projection, filter, sort, limit, offset, lock⟩ := q
  refine .bind (.ofResult _) fun _ _ => .bind (.sourceSql hplain hs) fun from_ _ => ?_
  refine .bind ?_ fun columns _ => .bind ?_ fun condition _ => .bind ?_ fun order _ => ?_
  · cases projection with
    | none => exact .pure []
    | some p => exact Projection.mirrors p
  · cases filter with
    | none => exact .pure none
    | some f =>
      refine .bind ?_ fun sql _ => .pure _
      rw [Expression.toSql]
      exact .resolveText hplain
        (.bind (Filter.mirrors f fun _ _ => .inl rfl) fun tokens _ => .write tokens)
  · cases sort with
    | none => exact .pure none
    | some o =>
      refine .bind ?_ fun sql _ => .pure _
      rw [Expression.toSql]
      exact .resolveText hplain
        (.bind (SortOrder.mirrors o fun _ _ => .inl rfl) fun terms _ => .write _)
  · exact .bind (.write _) fun sql _ => .bind .dialect fun d _ => .bind (.ofResult _)
      fun paged _ => .pure _

theorem SelectQuery.conditions_mirror (q : SelectQuery) {s : Source}
    (hs : q.source.source? base.model = some s) : ∀ c ∈ s.conditions, ∀ x ∈ c, x.Mirrors base Eq := by
  obtain ⟨source, distinct, projection, filter, sort, limit, offset, lock⟩ := q
  exact Expression.conditions_mirror source hs

end

end Mutual

/-- Resolving by way of the registry does not look at the scopes either. -/
theorem mirrors_resolveSql (hplain : base.registry.IsPlain) {ρ : Scope → Scope → Prop}
    {e : Expression} (h : e.IsTargetFree base.dialect) :
    (resolveSql e).Mirrors base ρ :=
  .read_bind (fun _ => rfl) (Expression.mirrors hplain e (.inr h))

/-! ## Helper scopes -/

namespace ScopeTree

variable {α : Type} {t : ScopeTree} {n : Nat} {streams : StreamStore}

/-- Open some query scopes inside one another, the first one inside a given scope.
The second part is the number of the scope on top. -/
def raise (t : ScopeTree) (n : Nat) : Nat → ScopeTree × Nat
  | 0 => (t, n)
  | height + 1 =>
    let (tower, top) := t.raise n height
    (tower.openQuery top, tower.nodes.size)

/-- What is known of a tree after a tower of query scopes has been raised in it. -/
structure Raised (t : ScopeTree) (n : Nat) (tower : ScopeTree × Nat) : Prop where
  ordered : tower.1.Ordered
  top_lt : tower.2 < tower.1.nodes.size
  context : tower.1.context = t.context
  parameters : tower.1.parameters = t.parameters
  alike : Alike (t.chain n) (tower.1.chain tower.2)

/-- One more query scope does not hide what is around it. -/
theorem Raised.openQuery {tower : ScopeTree × Nat} (h : t.Raised n tower) :
    t.Raised n (tower.1.openQuery tower.2, tower.1.nodes.size) where
  ordered := h.ordered.push h.top_lt
  top_lt := by
    show tower.1.nodes.size < (tower.1.nodes.push _).size
    rw [Array.size_push]
    exact Nat.lt_succ_self _
  context := h.context
  parameters := h.parameters
  alike := by
    unfold ScopeTree.openQuery
    rw [(h.ordered.push h.top_lt).chain_eq getElem?_push_size]
    show Alike _ (_ :: (tower.1.push tower.2 _).chain tower.2)
    rw [h.ordered.chain_push h.top_lt]
    exact h.alike.trans (.helper rfl rfl _)

theorem raised_raise (hordered : t.Ordered) (hn : n < t.nodes.size) (height : Nat) :
    t.Raised n (t.raise n height) := by
  induction height with
  | zero => exact ⟨hordered, hn, rfl, rfl, .refl _⟩
  | succ height ih => exact ih.openQuery

/-! ## Runs in a scope -/

/-- The context of a run in a scope. -/
def contextAt (t : ScopeTree) (n : Nat) : Context := t.context.within (t.chain n).tail

/-- The session that a run in a scope starts with. -/
def sessionAt (t : ScopeTree) (n : Nat) (streams : StreamStore) : Session :=
  ⟨(t.chain n).head?.getD Scope.root, t.parameters, streams⟩

theorem chain_of_getElem? {node : ScopeNode} (h : t.nodes[n]? = some node) :
    ∃ outer, t.chain n = node.scope :: outer := by
  obtain ⟨hn, _⟩ := Array.getElem?_eq_some_iff.mp h
  obtain ⟨fuel, hfuel⟩ := Nat.exists_eq_succ_of_ne_zero (Nat.ne_of_gt (Nat.zero_lt_of_lt hn))
  unfold chain
  rw [hfuel, chainUpTo, h]
  exact ⟨_, rfl⟩

theorem scope_sessionAt {node : ScopeNode} (h : t.nodes[n]? = some node) :
    (t.sessionAt n streams).scope = node.scope := by
  obtain ⟨outer, hchain⟩ := chain_of_getElem? h
  unfold sessionAt
  rw [hchain]
  rfl

/-- To put the scope of a run back changes nothing. -/
theorem modify_sessionAt :
    (t.nodes.modify n fun node => { node with scope := (t.sessionAt n streams).scope }) = t.nodes := by
  refine Array.ext (by simp) fun i hi hi' => ?_
  rw [Array.getElem_modify]
  split
  · rename_i heq
    subst heq
    have hscope : (t.sessionAt n streams).scope = t.nodes[n].scope :=
      scope_sessionAt (Array.getElem?_eq_getElem hi')
    exact congrArg (fun o => (⟨o, t.nodes[n].parent⟩ : ScopeNode)) hscope
  · rfl

/-- A run that leaves its scope as it was changes nothing in the tree but the parameters. -/
theorem run_of_mirrors {x : Compose α} (h : ∀ ρ, x.Mirrors t.context ρ) (n : Nat)
    (streams : StreamStore) :
    t.run n x streams =
      ((x.outcome (t.contextAt n) (t.sessionAt n streams)).1,
        { t with parameters :=
            (x.outcome (t.contextAt n) (t.sessionAt n streams)).2.parameters },
        streams) := by
  obtain ⟨hscope, hstreams, _⟩ := Mirrors.frame h (t.chain n).tail (t.sessionAt n streams)
  show (_, { t with nodes := t.nodes.modify n fun node =>
      { node with scope := (x.outcome (t.contextAt n) (t.sessionAt n streams)).2.scope }
                    parameters := _ },
    (x.outcome (t.contextAt n) (t.sessionAt n streams)).2.streams) = _
  unfold contextAt
  rw [hscope, hstreams, modify_sessionAt]
  rfl

/-- Under the registry of its dialect an expression without targets is resolved on top
of a tower of query scopes as in the scope that the tower stands on: into the same
text or with the same error, and with the same parameters added. -/
theorem resolveSql_on_tower (hordered : t.Ordered)
    (hregistry : t.context.registry = t.context.dialect.registry) (hn : n < t.nodes.size)
    (height : Nat) {e : Expression} (hfree : e.IsTargetFree t.context.dialect)
    (streams : StreamStore) :
    let (tower, top) := t.raise n height
    let inside := tower.run top (resolveSql e) streams
    let outside := t.run n (resolveSql e) streams
    inside.1 = outside.1 ∧ inside.2.1.parameters = outside.2.1.parameters ∧
      t.parameters.Extends outside.2.1.parameters ∧ inside.2.2 = outside.2.2 := by
  obtain ⟨htower, htop, hcontext, hparameters, halike⟩ := raised_raise hordered hn height
  obtain ⟨outer, hchain⟩ := chain_of_getElem? (Array.getElem?_eq_getElem hn)
  obtain ⟨outer', hchain'⟩ := chain_of_getElem? (Array.getElem?_eq_getElem htop)
  rw [hchain, hchain'] at halike
  have hplain : t.context.registry.IsPlain := hregistry ▸ Dialect.registry_isPlain _
  have hmirrors : ∀ ρ, (resolveSql e).Mirrors t.context ρ :=
    fun ρ => mirrors_resolveSql hplain hfree
  -- the scope that the tower stands on is paired with the one on top
  obtain ⟨r, u, _, houtside, hinside, _, _, hgrow⟩ :=
    hmirrors (fun x y => x = _ ∧ y = _) (by rintro _ _ ⟨rfl, rfl⟩; exact halike)
      (s := ⟨_, t.parameters, streams⟩) ⟨rfl, rfl⟩
  have hrun := run_of_mirrors hmirrors n streams
  have hrun' := run_of_mirrors (t := (t.raise n height).1) (hcontext ▸ hmirrors)
    (t.raise n height).2 streams
  simp only [contextAt, sessionAt, hchain, hchain', List.tail_cons, List.head?_cons,
    Option.getD_some, hcontext, hparameters, houtside, hinside] at hrun hrun'
  simp only [hrun, hrun', hgrow, and_self]

/-- The scope of a person. -/
def ofPerson (mode : AliasMode) : ScopeTree where
  context := (Compiler.ansi mode).context
  nodes := #[⟨Scope.root.seed mode ⟨none, "person", none, [], none⟩, none⟩]

end ScopeTree

/-- A person has an item of at least some size. The inner query reaches into the scope around it. -/
def hasItem (size : Int32) : Expression :=
  let column (table name : String) : Expression := .path (.child (.ofName table) name none)
  .filter (.rows false (.query
    { SelectQuery.ofSource (.target ⟨none, "items", none, [], none⟩) with
      filter := some (.junction .and [
        .compare .equal (column "items" "owner") (column "person" "id"),
        .compare .greaterOrEqual (column "items" "size") (.lit (.int size))]) }))

theorem isTargetFree_hasItem (size : Int32) : (hasItem size).IsTargetFree d := by
  intro x hx
  rcases Expression.involves_iff.mp hx with rfl | ⟨o, ho, hx⟩
  · rfl
  · obtain rfl := List.mem_singleton.mp ho
    rcases Expression.involves_iff.mp hx with rfl | ⟨o, ho, _⟩
    · rfl
    · cases ho

namespace ScopeTree

/-- Two query scopes stand between the sub-select and the person. -/
theorem resolveSql_on_tower_of_nested :
    let (tower, top) := (ofPerson .auto).raise 0 2
    let inside := tower.run top (resolveSql (hasItem 5)) {}
    let outside := (ofPerson .auto).run 0 (resolveSql (hasItem 5)) {}
    outside.1.toOption = some ("EXISTS (SELECT * FROM items item_0_1 " ++
      "WHERE (item_0_1.owner=pers_0_0.id) AND (item_0_1.size>=:[0001]))") ∧
    inside.1 = outside.1 ∧ inside.2.1.parameters = outside.2.1.parameters ∧
      ({} : Accumulator).Extends outside.2.1.parameters ∧ inside.2.2 = outside.2.2 := by
  have hordered : (ofPerson .auto).Ordered := by
    intro n node hnode p hp
    cases n with
    | zero =>
      cases hnode
      cases hp
    | succ n => cases hnode
  refine ⟨by decide +kernel, ?_⟩
  exact resolveSql_on_tower hordered rfl (by decide) 2 (isTargetFree_hasItem 5) {}

end ScopeTree

end SqlCompose
