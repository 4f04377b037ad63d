import SqlCompose.Proofs.Emits
import SqlCompose.Proofs.Operands

/-!
# SqlCompose.Proofs.Mirrors -- one computation inside different scopes

What a computation does depends on the scopes around it by way of look-ups, and
by way of the number that a new statement scope gets. Two chains of scopes may
differ and still answer these the same. A computation that runs inside both of
them then has the same result, good or bad, and adds the same parameters. It also
leaves the current scope as it was, unless it binds a target in it.
-/

namespace SqlCompose

open Compose

/-! ## Chains that answer the same -/

/-- Two chains of scopes that no look-up tells apart. -/
structure Alike (left right : List Scope) : Prop where
  binding : ∀ key useParent, findBinding key useParent right = findBinding key useParent left
  statements : (right.countP fun o => o.kind == .statement) =
    left.countP fun o => o.kind == .statement

namespace Alike

variable {left right : List Scope}

theorem refl (chain : List Scope) : Alike chain chain := ⟨fun _ _ => rfl, rfl⟩

theorem trans {other : List Scope} (h : Alike left right) (h' : Alike right other) :
    Alike left other :=
  ⟨fun key up => (h'.binding key up).trans (h.binding key up),
    h'.statements.trans h.statements⟩

/-- The same scope inside both. -/
theorem cons (h : Alike left right) (o : Scope) : Alike (o :: left) (o :: right) where
  binding := by
    intro key useParent
    rw [findBinding, findBinding, h.binding, h.binding]
  statements := by rw [List.countP_cons, List.countP_cons, h.statements]

/-- A query scope that binds nothing answers what is answered around it. -/
theorem helper {o : Scope} (hkind : o.kind = .query) (hbindings : o.bindings = [])
    (chain : List Scope) : Alike chain (o :: chain) where
  binding := by
    intro key useParent
    rw [findBinding, hbindings, hkind]
    rfl
  statements := by
    rw [List.countP_cons, hkind]
    rfl

theorem findAlias_eq (h : Alike left right) (mode : AliasMode) (p : Path) (useParent : Bool) :
    findAlias mode p useParent right = findAlias mode p useParent left := by
  unfold findAlias
  rw [h.binding]

/-- A new statement scope is the same in both. -/
theorem inside_eq (h : Alike left right) :
    Scope.inside right .statement = Scope.inside left .statement := by
  unfold Scope.inside
  rw [h.statements]

end Alike

/-! ## Mirroring -/

variable {α β : Type} {base : Context} {ρ : Scope → Scope → Prop}

/-- Started in paired scopes inside chains that make them answer the same, a
computation comes to the same result and leaves paired scopes. The parameters grow
in the same way, and no stream is read. -/
def Compose.Mirrors (base : Context) (ρ : Scope → Scope → Prop) (x : Compose α) : Prop :=
  ∀ ⦃left right : List Scope⦄, (∀ o o', ρ o o' → Alike (o :: left) (o' :: right)) →
    ∀ ⦃s : Session⦄ ⦃o : Scope⦄, ρ s.scope o →
      ∃ r t o', x.outcome (base.within left) s = (r, t) ∧
        x.outcome (base.within right) { s with scope := o } = (r, { t with scope := o' }) ∧
          ρ t.scope o' ∧ t.streams = s.streams ∧ s.parameters.Extends t.parameters

/-- A computation runs in a new statement scope, and the scope around it is the current
one again afterwards. -/
theorem Compose.outcome_inStatement {target : RelationalTarget} {body : Compose α} {ctx : Context}
    {s : Session} :
    (inStatement target body).outcome ctx s =
      let inner := body.outcome { ctx with enclosing := s.scope :: ctx.enclosing }
        ⟨(Scope.inside (s.scope :: ctx.enclosing) .statement).seed ctx.aliasMode target,
          s.parameters, s.streams⟩
      (inner.1, { inner.2 with scope := s.scope }) := rfl

namespace Compose.Mirrors

/-- A computation that leaves the session as it is, and comes to the same in chains
that answer the same. -/
theorem reads {x : Compose α} (r : List Scope → Except SqlError α)
    (hx : ∀ chain s, x.outcome (base.within chain) s = (r (s.scope :: chain), s))
    (hr : ∀ left right, Alike left right → r right = r left) : x.Mirrors base ρ := by
  intro left right hchains s o hscope
  refine ⟨_, s, o, hx left s, ?_, hscope, rfl, .refl _⟩
  rw [hx right, hr _ _ (hchains _ _ hscope)]

theorem pure (a : α) : (Pure.pure a : Compose α).Mirrors base ρ :=
  reads (fun _ => .ok a) (fun _ _ => rfl) fun _ _ _ => rfl

/-- The second computation may rely on what the first one gave. -/
theorem bind {x : Compose α} {f : α → Compose β} (hx : x.Mirrors base ρ)
    (hf : ∀ a, (∃ chain s t, x.Yields (base.within chain) s a t) → (f a).Mirrors base ρ) :
    (x >>= f).Mirrors base ρ := by
  intro left right hchains s o hscope
  obtain ⟨r, t, o', hleft, hright, hscope', hstreams, hgrow⟩ := hx hchains hscope
  rw [outcome_bind, outcome_bind, hleft, hright]
  cases r with
  | error e => exact ⟨.error e, t, o', rfl, rfl, hscope', hstreams, hgrow⟩
  | ok a =>
    obtain ⟨r, u, o'', hleft', hright', hscope'', hstreams', hgrow'⟩ :=
      hf a ⟨left, s, t, hleft⟩ hchains hscope'
    exact ⟨r, u, o'', hleft', hright', hscope'', hstreams'.trans hstreams, hgrow.trans hgrow'⟩

theorem ofResult (x : Except SqlError α) : (Compose.ofResult x).Mirrors base ρ :=
  reads (fun _ => x) (fun _ _ => rfl) fun _ _ _ => rfl

theorem throw (e : SqlError) : (MonadExcept.throw e : Compose α).Mirrors base ρ :=
  reads (fun _ => .error e) (fun _ _ => rfl) fun _ _ _ => rfl

theorem refuse (defect : Defect) : (Compose.refuse defect : Compose α).Mirrors base ρ :=
  ofResult _

theorem dialect : Compose.dialect.Mirrors base ρ :=
  reads (fun _ => .ok base.dialect) (fun _ _ => rfl) fun _ _ _ => rfl

theorem aliasMode : Compose.aliasMode.Mirrors base ρ :=
  reads (fun _ => .ok base.aliasMode) (fun _ _ => rfl) fun _ _ _ => rfl

theorem column (b : Option Binding) (property : String) :
    (Compose.column b property).Mirrors base ρ :=
  reads (fun _ => (Compose.column b property base { scope := Scope.root }).1) (fun _ _ => rfl)
    fun _ _ _ => rfl

theorem write (tokens : List Token) : (Compose.write tokens).Mirrors base ρ :=
  reads (fun _ => .ok (sqlText base.dialect tokens)) (fun _ _ => rfl) fun _ _ _ => rfl

theorem lookup {find : List Scope → α} (h : ∀ left right, Alike left right → find right = find left) :
    (Compose.lookup find).Mirrors base ρ :=
  reads (fun chain => .ok (find chain)) (fun _ _ => rfl) fun left right halike => by
    rw [h left right halike]

theorem findBinding (key : String) (useParent : Bool) :
    (Compose.lookup (SqlCompose.findBinding key useParent)).Mirrors base ρ :=
  lookup fun _ _ halike => halike.binding key useParent

/-- A computation that looks at nothing in the context but what all chains share. -/
theorem read_bind {f : Context → Compose α} (hf : ∀ chain, f (base.within chain) = f base)
    (h : (f base).Mirrors base ρ) : ((read : Compose Context) >>= f).Mirrors base ρ := by
  have hread : ∀ chain s, ((read : Compose Context) >>= f).outcome (base.within chain) s =
      (f base).outcome (base.within chain) s := by
    intro chain s
    rw [outcome_bind, ← hf chain]
    rfl
  intro left right hchains s o hscope
  simp only [hread]
  exact h hchains hscope

/-- The number of a scope is the same on both sides if the scope is. -/
theorem sequence : Compose.sequence.Mirrors base Eq := by
  intro left right _ s o hscope
  subst hscope
  exact ⟨_, s, _, rfl, rfl, rfl, rfl, .refl _⟩

/-- So is the scope after it has been changed. -/
theorem updateScope (change : AliasMode → Scope → Scope) :
    (Compose.updateScope change).Mirrors base Eq := by
  intro left right _ s o hscope
  subst hscope
  exact ⟨_, _, _, rfl, rfl, rfl, rfl, .refl _⟩

theorem addParameter (p : Parameter) : (Compose.addParameter p).Mirrors base ρ := by
  intro left right _ s o hscope
  unfold outcome Compose.addParameter
  cases hadd : s.parameters.add p with
  | error e => exact ⟨_, s, o, rfl, rfl, hscope, rfl, .refl _⟩
  | ok added =>
    obtain ⟨name, parameters⟩ := added
    refine ⟨_, { s with parameters := parameters }, o, rfl, rfl, hscope, rfl, ?_⟩
    unfold Accumulator.add at hadd
    split at hadd
    · cases hadd
      exact Accumulator.extends_push _ p
    · cases hadd

/-- The scopes inside a new statement scope are the same on both sides, and see the
same around them. -/
theorem inStatement {target : RelationalTarget} {body : Compose α} (h : body.Mirrors base Eq) :
    (Compose.inStatement target body).Mirrors base ρ := by
  intro left right hchains s o hscope
  have halike := hchains _ _ hscope
  have hinner : ∀ o₁ o₂ : Scope, o₁ = o₂ → Alike (o₁ :: s.scope :: left) (o₂ :: o :: right) := by
    rintro o₁ _ rfl
    exact halike.cons o₁
  obtain ⟨r, t, o', hleft, hright, _, hstreams, hgrow⟩ := h hinner
    (s := ⟨(Scope.inside (s.scope :: left) .statement).seed base.aliasMode target,
      s.parameters, s.streams⟩) rfl
  refine ⟨r, { t with scope := s.scope }, o, ?_, ?_, hscope, hstreams, hgrow⟩
  · rw [outcome_inStatement]
    show (_, { (body.outcome (base.within (s.scope :: left)) _).2 with scope := s.scope }) = _
    rw [hleft]
  · rw [outcome_inStatement, halike.inside_eq]
    show (_, { (body.outcome (base.within (o :: right)) _).2 with scope := o }) = _
    rw [hright]

theorem mapM {f : α → Compose β} {items : List α} (h : ∀ a, (f a).Mirrors base ρ) :
    (items.mapM f).Mirrors base ρ := by
  induction items with
  | nil => exact pure []
  | cons a rest ih =>
    rw [List.mapM_cons]
    exact bind (h a) fun b _ => bind ih fun bs _ => pure (b :: bs)

/-- What is mirrored however scopes are paired leaves the current scope as it was,
whether it succeeds or not. -/
theorem frame {x : Compose α} (h : ∀ ρ, x.Mirrors base ρ) (chain : List Scope) (s : Session) :
    (x.outcome (base.within chain) s).2.scope = s.scope ∧
      (x.outcome (base.within chain) s).2.streams = s.streams ∧
        s.parameters.Extends (x.outcome (base.within chain) s).2.parameters := by
  -- the current scope is paired with itself and nothing else is, so it is what is left
  obtain ⟨r, t, _, hrun, _, hscope, hstreams, hgrow⟩ :=
    @h (fun o o' => o = s.scope ∧ o' = s.scope) chain chain
      (by rintro _ _ ⟨rfl, rfl⟩; exact .refl _) s s.scope ⟨rfl, rfl⟩
  rw [hrun]
  exact ⟨hscope.1, hstreams, hgrow⟩

/-! ## Requests -/

/-- The library and the dialect answer the same inside both chains. -/
theorem resolve (hplain : base.registry.IsPlain) {q : Request} (hstandard : q.standard.Mirrors base ρ)
    (hbind : ∀ rule, (q.bind rule).Mirrors base ρ) : q.resolve.Mirrors base ρ := by
  have hfirst : ∀ rs : List Resolver, (∀ r ∈ rs, r.isCustom = false) →
      (firstAnswer q rs).Mirrors base ρ := by
    intro rs
    induction rs with
    | nil => exact fun _ => pure none
    | cons r rest ih =>
      intro hrs
      refine bind ?_ fun answer _ => ?_
      -- what an application answers could depend on anything
      · exact Resolver.ask_of_plain (C := fun x => x.Mirrors base ρ) hstandard hbind
          (hrs r List.mem_cons_self)
      · cases answer with
        | none => exact ih fun r' hr' => hrs r' (List.mem_cons_of_mem r hr')
        | some resolved => exact pure _
  refine bind (ofResult _) fun _ _ => read_bind (fun _ => rfl) ?_
  refine bind (hfirst _ (resolversFor_plain hplain _ _)) fun answer _ => ?_
  cases answer with
  | none => exact throw _
  | some found => exact bind (ofResult _) fun _ _ => pure _

theorem resolveText (hplain : base.registry.IsPlain) {e : Expression}
    {standard : Compose String} (h : standard.Mirrors base ρ) :
    (SqlCompose.resolveText e standard).Mirrors base ρ := by
  refine bind (resolve hplain (bind h fun _ _ => pure _) fun _ => pure none) fun answer _ => ?_
  exact ofResult _

theorem source (hplain : base.registry.IsPlain) {e : Expression}
    {standard : Option (Option DataModel → Source)} :
    (Source.resolve e standard).Mirrors base ρ := by
  refine read_bind (fun _ => rfl) ?_
  refine bind (resolve hplain (pure _) fun _ => pure none) fun answer _ => ?_
  refine bind (ofResult _) fun target _ => ?_
  split <;> exact pure _

/-! ## Leaves -/

theorem path (p : Path) : p.sql.Mirrors base ρ := by
  unfold Path.sql
  cases p.parent with
  | none =>
    refine bind (findBinding Scope.rootKey false) fun b _ => bind (column b _) fun name _ => ?_
    cases b <;> exact pure _
  | some parent =>
    refine bind aliasMode fun mode _ => bind (findBinding parent.key true) fun b _ => ?_
    refine bind (lookup fun _ _ halike => halike.findAlias_eq mode parent true) fun aliasName _ => ?_
    exact bind (column b _) fun name _ => pure _

theorem placeholder (hplain : base.registry.IsPlain) (l : Literal) :
    l.placeholder.Mirrors base ρ := by
  refine bind (bind (resolve hplain (bind dialect fun d _ => pure _) fun _ => pure none)
    fun answer _ => ofResult _) fun p _ => addParameter p

theorem literal (hplain : base.registry.IsPlain) (l : Literal) :
    l.resolveSql.Mirrors base ρ := by
  refine resolveText hplain ?_
  unfold Literal.sql
  split
  · exact bind (mapM fun item => placeholder hplain _) fun names _ => pure _
  · exact placeholder hplain l

theorem fill (raw : RawSql) (quoted : Bool) (values : List Value) (cs : List Char) :
    (raw.fill quoted values cs).Mirrors base ρ := by
  induction cs generalizing quoted values with
  | nil =>
    cases values with
    | nil => exact pure []
    | cons v rest => exact throw _
  | cons c rest ih =>
    cases values with
    | nil =>
      rw [RawSql.fill]
      split
      · exact throw _
      · exact bind (ih _ _) fun out _ => pure _
    | cons v others =>
      rw [RawSql.fill]
      split
      · exact bind (addParameter _) fun name _ => bind (ih _ _) fun out _ => pure _
      · exact bind (ih _ _) fun out _ => pure _

/-! ## Sources -/

theorem joinTokens {joins : List (Join × Option (Compose String))}
    (h : ∀ j ∈ joins, ∀ x ∈ j.2, x.Mirrors base ρ) :
    (SqlCompose.joinTokens joins).Mirrors base ρ := by
  induction joins with
  | nil => exact pure []
  | cons j rest ih =>
    obtain ⟨join, condition⟩ := j
    refine bind (findBinding join.name false) fun b _ => ?_
    cases b with
    | none => exact refuse _
    | some b =>
      refine bind ?_ fun on _ => bind (ih fun j' hj => h j' (List.mem_cons_of_mem _ hj))
        fun others _ => pure _
      cases condition with
      | none => exact pure []
      | some x => exact bind (h _ List.mem_cons_self x rfl) fun sql _ => pure _

/-- A source is written the same way in the same scope. -/
theorem sourceText {s : Source} (h : ∀ c ∈ s.conditions, ∀ x ∈ c, x.Mirrors base Eq) :
    s.text.Mirrors base Eq := by
  refine bind (updateScope _) fun _ _ => bind (findBinding Scope.rootKey false) fun root _ => ?_
  refine bind (joinTokens fun j hj => ?_) fun joins _ => write _
  exact h j.2 (List.of_mem_zip hj).2

theorem sourceSql (hplain : base.registry.IsPlain) {s : Source}
    (h : ∀ c ∈ s.conditions, ∀ x ∈ c, x.Mirrors base Eq) : s.resolveSql.Mirrors base Eq :=
  resolveText hplain (sourceText h)

end Compose.Mirrors

end SqlCompose
