import SqlCompose.Proofs.Emits
import SqlCompose.Proofs.Exchange
import SqlCompose.Proofs.Needs
import SqlCompose.Proofs.Renumber

/-!
# SqlCompose.Proofs.Coupling -- two runs side by side

A statement may be resolved with other values, after other parameters, or deeper
inside other scopes. A coupling says how the second run differs from the first
one. A computation follows another if it succeeds whenever the other one does
and there is room for the parameters it adds, and if what it gives and leaves
differs from what the other one does in no other way.
-/

namespace SqlCompose

open Compose Placeholder

/-! ## Couplings -/

/-- How a second run differs from a first one in a context like `base`. -/
structure Coupling (base : Context) where
  /-- The characters that texts have outside placeholders. -/
  plain : Char → Prop
  admits : Admits plain
  /-- The values that the second run has in the places of those of the first. -/
  exchange : Exchange
  /-- The parameters that were there before, on the two sides. -/
  left : List Parameter
  right : List Parameter
  /-- The number of statement scopes around the second run. -/
  depth : Nat
  modes : depth = 0 ∨ base.aliasMode ≠ .auto
  /-- A parameter of the second run stands in the place of one of the first. -/
  alike : Parameter → Parameter → Prop
  alike_value : ∀ v, alike (.ofValue v) (.ofValue (exchange.value v))
  alike_temporal : ∀ {p p' : Parameter} kind, alike p p' →
    alike (p.withTemporal kind) (p'.withTemporal kind)
  alike_template : ∀ {p p' : Parameter} template, alike p p' →
    alike (p.withTemplate template) (p'.withTemplate template)
  alike_parameter : ∀ p, alike p (exchange.parameter p)
  alike_pattern : ∀ d text mode ignoreCase,
    alike (.ofValue (.string (Like.pattern d text mode ignoreCase)))
      (.ofValue (.string (Like.pattern d (exchange.text text) mode ignoreCase)))

namespace Coupling

/-! Runs in the outermost scope meet every mode, and where every value is kept the parameters
of the two runs are equal. -/

theorem modes_outermost (base : Context) : (0 : Nat) = 0 ∨ base.aliasMode ≠ .auto := .inl rfl

theorem kept_value (v : Value) : Parameter.ofValue v = .ofValue (Exchange.identity.value v) := rfl

theorem kept_temporal {p p' : Parameter} (kind : TemporalKind) (h : p = p') :
    p.withTemporal kind = p'.withTemporal kind := by rw [h]

theorem kept_template {p p' : Parameter} (template : MarkerTemplate) (h : p = p') :
    p.withTemplate template = p'.withTemplate template := by rw [h]

theorem kept_pattern (d : Dialect) (text : String) (mode : MatchMode) (ignoreCase : Bool) :
    Parameter.ofValue (.string (Like.pattern d text mode ignoreCase)) =
      .ofValue (.string (Like.pattern d (Exchange.identity.text text) mode ignoreCase)) := rfl

end Coupling

variable {α β γ ε : Type} {base : Context}

/-- What several items count together. -/
def total (count : α → Nat) : List α → Nat
  | [] => 0
  | a :: rest => count a + total count rest

theorem total_const (n : Nat) (items : List α) : total (fun _ => n) items = n * items.length := by
  induction items with
  | nil => rfl
  | cons a rest ih => rw [total, ih, List.length_cons, Nat.mul_succ, Nat.add_comm]

namespace Coupling

/-- The numbers of placeholders on the two sides. -/
def numbering (C : Coupling base) : Numbering :=
  ⟨C.plain, C.admits, C.left.length, C.right.length⟩

/-- A need is met: its key is known, or its aliases are the same at every depth. -/
def Meets (C : Coupling base) (K : String → Prop) : Need → Prop
  | .key k => K k
  | .mode m => C.depth = 0 ∨ m ≠ .auto

/-- Both runs have added as many parameters to those they started with. -/
def Grown (C : Coupling base) (a b : Accumulator) : Prop :=
  ∃ more more', a.entries.toList = C.left ++ more ∧ b.entries.toList = C.right ++ more' ∧
    List.Forall₂ C.alike more more'

/-- The sessions and the enclosing scopes of the two runs. The scopes bind the
same, and those around them agree on the keys in `K` that no own scope binds. -/
structure Related (C : Coupling base) (K : String → Prop) (chain chain' : List Scope)
    (s s' : Session) : Prop where
  scope : s'.scope = s.scope.deepen C.depth
  plain : s.scope.IsPlain C.plain
  chain_plain : ∀ o ∈ chain, o.IsPlain C.plain
  depth : (chain'.countP fun o => o.kind == .statement) =
    (chain.countP fun o => o.kind == .statement) + C.depth
  own : s.scope.kind = .statement ∨
    ∀ key, findBinding key false chain = findBinding key false chain'
  known : ∀ key, K key → s.scope.Binds key ∨ findBinding key true chain = findBinding key true chain'
  keys : base.aliasMode = .explicitOnly ∨ ∀ key, K key
  grown : C.Grown s.parameters s'.parameters

/-- The second run has room for some more parameters. Where it started with no
more than the first one, it has room whenever the first one has. -/
def Room (C : Coupling base) (n : Nat) (s : Session) : Prop :=
  C.right.length ≤ C.left.length ∨ s.parameters.size + n ≤ maxNumber

/-- A computation follows another one, and adds `n` parameters. -/
def Follows (C : Coupling base) (K : String → Prop) (n : Nat) (R : α → β → Prop) (x : Compose α)
    (y : Compose β) : Prop :=
  ∀ ⦃chain chain' : List Scope⦄ ⦃s s' : Session⦄ ⦃a : α⦄ ⦃t : Session⦄,
    C.Related K chain chain' s s' → C.Room n s' → x.Yields (base.within chain) s a t →
      ∃ b t', y.Yields (base.within chain') s' b t' ∧ R a b ∧ C.Related K chain chain' t t' ∧
        t'.parameters.size = s'.parameters.size + n

variable {C : Coupling base} {K : String → Prop} {chain chain' : List Scope} {s s' t t' : Session}
  {m n : Nat}

/-! ## Scopes that bind the same -/

theorem lookup_eq_of_binds {o : Scope} {key : String} (h : o.Binds key) :
    ∃ b, o.bindings.lookup key = some b := Option.isSome_iff_exists.mp h

/-- What a key is bound to in a scope of its own is the same on both sides. -/
theorem Related.findBinding_own (h : C.Related K chain chain' s s') (key : String) :
    findBinding key false (s'.scope :: chain') = findBinding key false (s.scope :: chain) := by
  rw [h.scope, findBinding, findBinding, Scope.bindings_deepen, Scope.kind_deepen]
  cases s.scope.bindings.lookup key with
  | some b => rfl
  | none =>
    rcases h.own with hkind | hown
    · rw [hkind]
      rfl
    · rw [hown]
      cases s.scope.kind <;> rfl

/-- So is what a known key is bound to. -/
theorem Related.findBinding_known (h : C.Related K chain chain' s s') {key : String} (hk : K key) :
    findBinding key true (s'.scope :: chain') = findBinding key true (s.scope :: chain) := by
  rw [h.scope, findBinding, findBinding, Scope.bindings_deepen, Scope.kind_deepen]
  rcases h.known key hk with hbinds | hknown
  · obtain ⟨b, hb⟩ := lookup_eq_of_binds hbinds
    rw [hb]
  · rw [hknown]

theorem Related.findAlias_known (h : C.Related K chain chain' s s') {mode : AliasMode} {p : Path}
    (hk : K p.key) :
    findAlias mode p true (s'.scope :: chain') = findAlias mode p true (s.scope :: chain) := by
  unfold findAlias
  rw [h.findBinding_known hk]

theorem Related.all_plain (h : C.Related K chain chain' s s') :
    ∀ o ∈ s.scope :: chain, o.IsPlain C.plain := by
  intro o ho
  rcases List.mem_cons.mp ho with rfl | ho
  · exact h.plain
  · exact h.chain_plain o ho

/-- The keys known inside a target: those known around it, and its own. -/
def inside (K : String → Prop) (keys : List String) (key : String) : Prop := K key ∨ key ∈ keys

/-- Statement scopes of the same target are related if those around them are. -/
theorem Related.inside (h : C.Related K chain chain' s s') {target : RelationalTarget}
    (htarget : AllPlain C.plain target.names) :
    C.Related (Coupling.inside K target.keys) (s.scope :: chain) (s'.scope :: chain')
      { s with scope :=
          (Scope.inside (s.scope :: chain) .statement).seed base.aliasMode target }
      { s' with scope :=
          (Scope.inside (s'.scope :: chain') .statement).seed base.aliasMode target } where
  scope := by
    -- a statement scope is numbered by those around it, of which one run has some more
    have hcount : ((s'.scope :: chain').countP fun o => o.kind == .statement) =
        ((s.scope :: chain).countP fun o => o.kind == .statement) + C.depth := by
      rw [List.countP_cons, List.countP_cons, h.scope, Scope.kind_deepen, h.depth,
        Nat.add_right_comm]
    have hinside : Scope.inside (s'.scope :: chain') .statement =
        (Scope.inside (s.scope :: chain) .statement).deepen C.depth := by
      simp only [Scope.inside, Scope.deepen, hcount]
    rw [hinside, Scope.seed_deepen C.modes]
  plain := (Scope.isPlain_inside _ .statement).seed C.admits.writable
    (RelationalTarget.isPlain_of_names htarget)
  chain_plain := h.all_plain
  depth := by
    rw [List.countP_cons, List.countP_cons, h.scope, Scope.kind_deepen, h.depth, Nat.add_right_comm]
  own := .inl (Scope.kind_seed target)
  known := by
    intro key hkey
    -- a key was known before, or it is one of the target that the new scope binds
    rcases hkey with hkey | hkey
    · exact .inr (h.findBinding_known hkey).symm
    · rcases h.keys with hmode | hall
      · rw [hmode]
        exact .inl (Scope.binds_key (Scope.holds_inside _ _ _) hkey)
      · exact .inr (h.findBinding_known (hall key)).symm
  keys := h.keys.imp_right fun hall key => .inl (hall key)
  grown := h.grown

/-- Binding the same target on both sides keeps them related. -/
theorem Related.rescope (h : C.Related K chain chain' s s') {scope : Scope}
    (hplain : scope.IsPlain C.plain) (hkind : scope.kind = s.scope.kind)
    (hbinds : ∀ key, s.scope.Binds key → scope.Binds key) :
    C.Related K chain chain' { s with scope := scope }
      { s' with scope := scope.deepen C.depth } where
  scope := rfl
  plain := hplain
  chain_plain := h.chain_plain
  depth := h.depth
  own := h.own.imp_left fun hown => hkind.trans hown
  known := fun key hkey => (h.known key hkey).imp_left (hbinds key)
  keys := h.keys
  grown := h.grown

/-! ## Parameters -/

theorem Grown.push {a b : Accumulator} (h : C.Grown a b) {p p' : Parameter} (hp : C.alike p p') :
    C.Grown ⟨a.entries.push p⟩ ⟨b.entries.push p'⟩ := by
  obtain ⟨more, more', ha, hb, hmore⟩ := h
  refine ⟨more ++ [p], more' ++ [p'], ?_, ?_, List.rel_append hmore (.cons hp .nil)⟩
  · rw [Array.toList_push, ha, List.append_assoc]
  · rw [Array.toList_push, hb, List.append_assoc]

/-- The next parameter has the same place after the first ones on both sides. -/
theorem Grown.sizes {a b : Accumulator} (h : C.Grown a b) :
    ∃ i, a.size = C.left.length + i ∧ b.size = C.right.length + i := by
  obtain ⟨more, more', ha, hb, hmore⟩ := h
  refine ⟨more.length, ?_, ?_⟩
  · rw [Accumulator.size, ← Array.length_toList, ha, List.length_append]
  · rw [Accumulator.size, ← Array.length_toList, hb, List.length_append, hmore.length_eq]

/-! ## Following -/

namespace Follows

variable {R : α → β → Prop} {S : γ → ε → Prop}

theorem mono {x : Compose α} {y : Compose β} {R' : α → β → Prop} (hxy : C.Follows K n R x y)
    (h : ∀ a b, R a b → R' a b) : C.Follows K n R' x y := by
  intro chain chain' s s' a t hrel hroom hrun
  obtain ⟨b, t', hy, hab, ht, hsize⟩ := hxy hrel hroom hrun
  exact ⟨b, t', hy, h a b hab, ht, hsize⟩

theorem cast {x : Compose α} {y : Compose β} (hxy : C.Follows K n R x y) (h : m = n) :
    C.Follows K m R x y := h ▸ hxy

theorem pure {a : α} {b : β} (h : R a b) : C.Follows K 0 R (Pure.pure a) (Pure.pure b) := by
  intro chain chain' s s' a' t hrel _ hrun
  obtain ⟨rfl, rfl⟩ := yields_pure.mp hrun
  exact ⟨b, s', yields_pure.mpr ⟨rfl, rfl⟩, h, hrel, rfl⟩

theorem bind {x : Compose α} {y : Compose β} {f : α → Compose γ} {g : β → Compose ε}
    (hxy : C.Follows K m R x y) (hfg : ∀ a b, R a b → C.Follows K n S (f a) (g b)) :
    C.Follows K (m + n) S (x >>= f) (y >>= g) := by
  intro chain chain' s s' c u hrel hroom hrun
  obtain ⟨a, t, ha, hc⟩ := yields_bind.mp hrun
  have hroom₁ : C.Room m s' := hroom.imp_right fun h => by omega
  obtain ⟨b, t', hb, hab, ht, hsize⟩ := hxy hrel hroom₁ ha
  have hroom₂ : C.Room n t' := hroom.imp_right fun h => by omega
  obtain ⟨d, u', hd, hcd, hu, hsize'⟩ := hfg a b hab ht hroom₂ hc
  exact ⟨d, u', yields_bind.mpr ⟨b, t', hb, hd⟩, hcd, hu, by omega⟩

/-- A first computation that adds nothing. -/
theorem first {x : Compose α} {y : Compose β} {f : α → Compose γ} {g : β → Compose ε}
    (hxy : C.Follows K 0 R x y) (hfg : ∀ a b, R a b → C.Follows K n S (f a) (g b)) :
    C.Follows K n S (x >>= f) (y >>= g) := (bind hxy hfg).cast (Nat.zero_add n).symm

/-- A last computation that adds nothing. -/
theorem last {x : Compose α} {y : Compose β} {f : α → Compose γ} {g : β → Compose ε}
    (hxy : C.Follows K n R x y) (hfg : ∀ a b, R a b → C.Follows K 0 S (f a) (g b)) :
    C.Follows K n S (x >>= f) (y >>= g) := bind hxy hfg

theorem ofResult {x : Except SqlError α} {y : Except SqlError β}
    (h : ∀ a, x = .ok a → ∃ b, y = .ok b ∧ R a b) :
    C.Follows K 0 R (Compose.ofResult x) (Compose.ofResult y) := by
  intro chain chain' s s' a t hrel _ hrun
  obtain ⟨hx, rfl⟩ := yields_ofResult.mp hrun
  obtain ⟨b, hy, hab⟩ := h a hx
  exact ⟨b, s', yields_ofResult.mpr ⟨hy, rfl⟩, hab, hrel, rfl⟩

/-- A check that passes on the second side if it passes on the first. -/
theorem check {x y : Except SqlError Unit} (h : x = .ok () → y = .ok ()) :
    C.Follows K 0 (fun _ _ => x = .ok ()) (Compose.ofResult x) (Compose.ofResult y) := by
  refine ofResult fun a ha => ⟨(), h ?_, ?_⟩
  · exact ha
  · exact ha

theorem throw {e : SqlError} {y : Compose β} : C.Follows K n R (MonadExcept.throw e) y := by
  intro chain chain' s s' a t _ _ hrun
  exact absurd hrun yields_throw

theorem refuse {defect : Defect} {y : Compose β} : C.Follows K n R (Compose.refuse defect) y := by
  intro chain chain' s s' a t _ _ hrun
  exact absurd hrun yields_refuse

theorem dialect : C.Follows K 0 (fun d d' => d = base.dialect ∧ d' = base.dialect)
    Compose.dialect Compose.dialect := by
  intro chain chain' s s' d t hrel _ hrun
  obtain ⟨rfl, rfl⟩ := yields_dialect.mp hrun
  exact ⟨base.dialect, s', yields_dialect.mpr ⟨rfl, rfl⟩, ⟨rfl, rfl⟩, hrel, rfl⟩

theorem aliasMode : C.Follows K 0 (fun m m' => m = base.aliasMode ∧ m' = base.aliasMode)
    Compose.aliasMode Compose.aliasMode := by
  intro chain chain' s s' m t hrel _ hrun
  obtain ⟨rfl, rfl⟩ := yields_aliasMode.mp hrun
  exact ⟨base.aliasMode, s', yields_aliasMode.mpr ⟨rfl, rfl⟩, ⟨rfl, rfl⟩, hrel, rfl⟩

theorem sequence : C.Follows K 0 (fun i i' => i' = i + C.depth) Compose.sequence
    Compose.sequence := by
  intro chain chain' s s' i t hrel _ hrun
  obtain ⟨rfl, rfl⟩ := yields_sequence.mp hrun
  refine ⟨s'.scope.sequence, s', yields_sequence.mpr ⟨rfl, rfl⟩, ?_, hrel, rfl⟩
  rw [hrel.scope]
  rfl

theorem write {tokens tokens' : List Token} (h : C.numbering.Tokens base.dialect tokens tokens') :
    C.Follows K 0 C.numbering.Texts (Compose.write tokens) (Compose.write tokens') := by
  intro chain chain' s s' a t hrel _ hrun
  obtain ⟨rfl, rfl⟩ := yields_write.mp hrun
  exact ⟨_, s', yields_write.mpr ⟨rfl, rfl⟩, h, hrel, rfl⟩

/-- What both sides find is the same, and plain scopes have it. -/
theorem lookup {P : α → Prop} {find : List Scope → α}
    (h : ∀ chain chain' s s', C.Related K chain chain' s s' →
      find (s'.scope :: chain') = find (s.scope :: chain) ∧ P (find (s.scope :: chain))) :
    C.Follows K 0 (fun a b => b = a ∧ P a) (Compose.lookup find) (Compose.lookup find) := by
  intro chain chain' s s' a t hrel _ hrun
  obtain ⟨rfl, rfl⟩ := yields_lookup.mp hrun
  exact ⟨_, s', yields_lookup.mpr ⟨rfl, rfl⟩, h chain chain' t s' hrel, hrel, rfl⟩

/-- A binding of a scope's own, such as its target. -/
theorem lookup_own (key : String) :
    C.Follows K 0 (fun b b' => b' = b ∧ ∀ o ∈ b, o.IsPlain C.plain)
      (Compose.lookup (findBinding key false)) (Compose.lookup (findBinding key false)) :=
  lookup fun _ _ _ _ hrel =>
    ⟨hrel.findBinding_own key, fun _ hb => findBinding_isPlain hrel.all_plain hb⟩

theorem column {b : Option Binding} {property : String} :
    C.Follows K 0 Eq (Compose.column b property) (Compose.column b property) := by
  intro chain chain' s s' column t hrel _ hrun
  obtain ⟨rfl, rfl⟩ := yields_column.mp hrun
  exact ⟨_, s', yields_column.mpr ⟨rfl, rfl⟩, rfl, hrel, rfl⟩

/-- Binding the same target. -/
theorem updateScope {change change' : AliasMode → Scope → Scope}
    (h : ∀ s, change' base.aliasMode (s.deepen C.depth) = (change base.aliasMode s).deepen C.depth)
    (hplain : ∀ s, s.IsPlain C.plain → (change base.aliasMode s).IsPlain C.plain)
    (hkind : ∀ s, (change base.aliasMode s).kind = s.kind)
    (hbinds : ∀ s key, s.Binds key → (change base.aliasMode s).Binds key) :
    C.Follows K 0 (fun _ _ => True) (Compose.updateScope change) (Compose.updateScope change') := by
  intro chain chain' s s' a t hrel _ hrun
  obtain rfl := yields_updateScope.mp hrun
  refine ⟨(), { s' with scope := change' base.aliasMode s'.scope }, yields_updateScope.mpr rfl,
    trivial, ?_, rfl⟩
  rw [hrel.scope, h]
  exact hrel.rescope (hplain _ hrel.plain) (hkind _) (hbinds _)

theorem seed {target : RelationalTarget} (htarget : AllPlain C.plain target.names) :
    C.Follows K 0 (fun _ _ => True) (Compose.seed target)
      (Compose.seed (target.exchange C.exchange)) := by
  have hplain := RelationalTarget.isPlain_of_names htarget
  refine updateScope (fun s => ?_) (fun s hs => hs.seed C.admits.writable hplain)
    (fun s => Scope.kind_seed target) (fun s key hs => hs.seed target)
  rw [Scope.seed_exchange, Scope.seed_deepen C.modes]

theorem seedUnaliased {target : RelationalTarget} (htarget : AllPlain C.plain target.names) :
    C.Follows K 0 (fun _ _ => True) (Compose.seedUnaliased target)
      (Compose.seedUnaliased (target.exchange C.exchange)) := by
  have hplain := RelationalTarget.isPlain_of_names htarget
  refine updateScope (fun s => ?_) (fun s hs => hs.seedUnaliased C.admits.writable hplain)
    (fun s => Scope.kind_bindTarget target none) (fun s key hs => hs.bindTarget target none)
  unfold Scope.seedUnaliased
  rw [Scope.bindTarget_exchange, Scope.bindTarget_deepen C.modes]

/-- The placeholders of two parameters that are added at the same time. -/
theorem addParameter {p p' : Parameter} (h : C.alike p p') :
    C.Follows K 1 C.numbering.Texts (Compose.addParameter p) (Compose.addParameter p') := by
  intro chain chain' s s' name t hrel hroom hrun
  obtain ⟨hleft, rfl, rfl⟩ := yields_addParameter.mp hrun
  obtain ⟨i, hs, hs'⟩ := hrel.grown.sizes
  have hright : s'.parameters.size < maxNumber := by
    rcases hroom with hle | hroom
    · omega
    · omega
  refine ⟨_, _, yields_addParameter.mpr ⟨hright, rfl, rfl⟩, ?_, ?_, ?_⟩
  · rw [hs, hs']
    exact .placeholder (hs ▸ hleft) (hs' ▸ hright)
  · exact ⟨hrel.scope, hrel.plain, hrel.chain_plain, hrel.depth, hrel.own, hrel.known, hrel.keys,
      hrel.grown.push h⟩
  · simp [Accumulator.size]

/-- A statement scope of its own on both sides. -/
theorem inStatement {target : RelationalTarget} (htarget : AllPlain C.plain target.names)
    {x : Compose α} {y : Compose β} (hxy : C.Follows (Coupling.inside K target.keys) n R x y) :
    C.Follows K n R (Compose.inStatement target x)
      (Compose.inStatement (target.exchange C.exchange) y) := by
  intro chain chain' s s' a t hrel hroom hrun
  obtain ⟨u, hx, rfl⟩ := yields_inStatement.mp hrun
  obtain ⟨b, u', hy, hab, hu, hsize⟩ :=
    @hxy (s.scope :: chain) (s'.scope :: chain') _ _ _ _ (hrel.inside htarget) hroom hx
  refine ⟨b, { u' with scope := s'.scope }, yields_inStatement.mpr ⟨u', ?_, rfl⟩, hab, ?_, hsize⟩
  · rw [Scope.seed_exchange]
    exact hy
  · exact ⟨hrel.scope, hrel.plain, hrel.chain_plain, hrel.depth, hrel.own, hrel.known, hrel.keys,
      hu.grown⟩

/-- One computation for each item of a list, and the same for what stands in its place. -/
theorem mapM (count : α → Nat) {f : α → Compose γ} {g : β → Compose ε} {place : α → β}
    {items : List α} (h : ∀ a ∈ items, C.Follows K (count a) S (f a) (g (place a))) :
    C.Follows K (total count items) (List.Forall₂ S) (items.mapM f)
      ((items.map place).mapM g) := by
  induction items with
  | nil => exact pure .nil
  | cons a rest ih =>
    rw [List.map_cons, total, List.mapM_cons, List.mapM_cons]
    refine bind (h a List.mem_cons_self) fun c e hce => ?_
    refine last (ih fun a' ha => h a' (List.mem_cons_of_mem a ha)) fun cs es hrest => ?_
    exact pure (.cons hce hrest)

/-! ## Requests -/

/-- What the library writes on both sides. -/
theorem resolveText (hregistry : base.registry.IsPlain) {e e' : Expression}
    (hkind : e'.kind = e.kind) {x y : Compose String}
    (hvalid : e.validate = .ok () → e'.validate = .ok ())
    (hxy : e.validate = .ok () → C.Follows K n C.numbering.Texts x y) :
    C.Follows K n C.numbering.Texts (SqlCompose.resolveText e x)
      (SqlCompose.resolveText e' y) := by
  intro chain chain' s s' a t hrel hroom hrun
  have hleft : (base.within chain).registry.IsPlain := hregistry
  have hright : (base.within chain').registry.IsPlain := hregistry
  obtain ⟨hok, hanswers, hx, hcheck⟩ := (yields_resolveText hleft).mp hrun
  obtain ⟨b, t', hy, hab, ht, hsize⟩ := hxy hok hrel hroom hx
  refine ⟨b, t', (yields_resolveText hright).mpr ⟨hvalid hok, ?_, hy, hab.checkSqlText hcheck⟩,
    hab, ht, hsize⟩
  rw [hkind]
  exact hanswers

theorem resolveParameter (hregistry : base.registry.IsPlain) {l l' : Literal}
    (hvalid : l.validate = .ok () → l'.validate = .ok ())
    (hlist : l'.value.isList = l.value.isList) :
    C.Follows K 0
      (fun p p' => p = l.parameter base.dialect ∧ p' = l'.parameter base.dialect)
      l.resolveParameter l'.resolveParameter := by
  intro chain chain' s s' p t hrel _ hrun
  have hleft : (base.within chain).registry.IsPlain := hregistry
  have hright : (base.within chain').registry.IsPlain := hregistry
  obtain ⟨⟨hok, hanswers, hone⟩, rfl, rfl⟩ := (yields_resolveParameter hleft).mp hrun
  refine ⟨_, s', (yields_resolveParameter hright).mpr ⟨⟨hvalid hok, hanswers, ?_⟩, rfl, rfl⟩,
    ⟨rfl, rfl⟩, hrel, rfl⟩
  rw [hlist, hone]

theorem source (hregistry : base.registry.IsPlain) {e e' : Expression}
    (hkind : e'.kind = e.kind) {standard standard' : Option DataModel → Source}
    (hvalid : e.validate = .ok () → e'.validate = .ok ()) :
    C.Follows K 0 (fun s s' => s = standard base.model ∧ s' = standard' base.model)
      (Source.resolve e (some standard))
      (Source.resolve e' (some standard')) := by
  intro chain chain' s s' source t hrel _ hrun
  have hleft : (base.within chain).registry.IsPlain := hregistry
  have hright : (base.within chain').registry.IsPlain := hregistry
  obtain ⟨⟨hok, hanswers⟩, rfl, rfl⟩ := (yields_source hleft).mp hrun
  refine ⟨_, s', (yields_source hright).mpr ⟨⟨hvalid hok, ?_⟩, rfl, rfl⟩, ⟨rfl, rfl⟩, hrel, rfl⟩
  rw [hkind]
  exact hanswers

theorem no_source (hregistry : base.registry.IsPlain) {e : Expression}
    {R : Source → β → Prop} {y : Compose β} :
    C.Follows K n R (Source.resolve e none) y := by
  intro chain chain' s s' source t _ _ hrun
  have hleft : (base.within chain).registry.IsPlain := hregistry
  exact absurd hrun (not_yields_source hleft)

end Follows

end Coupling

end SqlCompose
