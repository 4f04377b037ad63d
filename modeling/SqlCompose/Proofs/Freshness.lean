import SqlCompose.Proofs.Declared
import SqlCompose.Proofs.Statements
import SqlCompose.Resolution.ScopeTree

/-!
# SqlCompose.Proofs.Freshness -- aliases in a tree of scopes

A scope counts the aliases it hands out, and its number is the number of scopes of
its kind around it. So the aliases of one scope differ, and so do those of two
scopes of the same kind one of which lies inside the other. The numbers of scopes
of different kinds are counted apart, and may be the same.
-/

namespace SqlCompose

namespace ScopeTree

variable {t t' : ScopeTree} {k m n p : Nat} {node : ScopeNode} {scope : Scope} {f : Scope → Bool}

/-! ## Scopes around a scope -/

/-- A scope lies around another one. -/
inductive Above (t : ScopeTree) (m : Nat) : Nat → Prop
  | parent {n : Nat} {node : ScopeNode} :
      t.nodes[n]? = some node → node.parent = some m → Above t m n
  | step {n p : Nat} {node : ScopeNode} :
      t.nodes[n]? = some node → node.parent = some p → Above t m p → Above t m n

/-- Scopes are opened after those around them. -/
def Ordered (t : ScopeTree) : Prop :=
  ∀ n (node : ScopeNode), t.nodes[n]? = some node → ∀ p ∈ node.parent, p < n

/-- The fuel of a chain does not show, as long as there is enough of it. -/
theorem Ordered.chainUpTo_eq (h : t.Ordered) {fuel fuel' : Nat} (hn : n < fuel) (hn' : n < fuel') :
    t.chainUpTo fuel n = t.chainUpTo fuel' n := by
  induction n using Nat.strongRecOn generalizing fuel fuel' with
  | ind n ih =>
    obtain ⟨fuel, rfl⟩ := Nat.exists_eq_succ_of_ne_zero (Nat.ne_of_gt (Nat.zero_lt_of_lt hn))
    obtain ⟨fuel', rfl⟩ := Nat.exists_eq_succ_of_ne_zero (Nat.ne_of_gt (Nat.zero_lt_of_lt hn'))
    rw [chainUpTo, chainUpTo]
    cases hnode : t.nodes[n]? with
    | none => rfl
    | some node =>
      cases hparent : node.parent with
      | none => simp only [hparent]
      | some p =>
        have hp : p < n := h n node hnode p hparent
        simp only [hparent, ih p hp (show p < fuel by omega) (show p < fuel' by omega)]

/-- The scopes from one outwards are this one and those from the next one outwards. -/
theorem Ordered.chain_eq (h : t.Ordered) (hnode : t.nodes[n]? = some node) :
    t.chain n = node.scope :: (match node.parent with
      | some p => t.chain p
      | none => []) := by
  obtain ⟨hn, _⟩ := Array.getElem?_eq_some_iff.mp hnode
  unfold chain
  rw [h.chainUpTo_eq hn (Nat.lt_succ_self n), chainUpTo, hnode]
  cases hparent : node.parent with
  | none => simp only [hparent]
  | some p =>
    have hp : p < n := h n node hnode p hparent
    simp only [hparent, h.chainUpTo_eq hp (hp.trans hn)]

theorem Above.countP_le (h : t.Ordered) (habove : t.Above m n) (hnode : t.nodes[n]? = some node) :
    (t.chain m).countP f + [node.scope].countP f ≤ (t.chain n).countP f := by
  induction habove generalizing node with
  | parent hnode' hparent =>
    rw [hnode'] at hnode
    cases hnode
    rw [h.chain_eq hnode', hparent, List.countP_singleton, List.countP_cons]
  | @step n p _ hnode' hparent habove ih =>
    rw [hnode'] at hnode
    cases hnode
    have hp : ∃ node, t.nodes[p]? = some node := by
      cases habove with
      | parent hp _ => exact ⟨_, hp⟩
      | step hp _ _ => exact ⟨_, hp⟩
    obtain ⟨node, hp⟩ := hp
    have hle := ih hp
    rw [h.chain_eq hnode', hparent, List.countP_singleton, List.countP_cons]
    show _ ≤ (t.chain p).countP f + _
    omega

/-! ## Numbers of scopes -/

/-- The number of a scope is the number of scopes of its kind around it. -/
structure Numbered (t : ScopeTree) : Prop where
  ordered : t.Ordered
  sequence : ∀ n (node : ScopeNode), t.nodes[n]? = some node →
    node.scope.sequence + 1 = (t.chain n).countP fun s => s.kind == node.scope.kind

/-- Inside a scope of the same kind a scope has a greater number. -/
theorem Numbered.sequence_lt (h : t.Numbered) {outer inner : ScopeNode}
    (houter : t.nodes[m]? = some outer) (hinner : t.nodes[n]? = some inner)
    (habove : t.Above m n) (hkind : outer.scope.kind = inner.scope.kind) :
    outer.scope.sequence < inner.scope.sequence := by
  have hm := h.sequence m outer houter
  have hn := h.sequence n inner hinner
  have hle := habove.countP_le (f := fun s => s.kind == inner.scope.kind) h.ordered hinner
  simp only [List.countP_singleton, beq_self_eq_true, if_true] at hle
  rw [hkind] at hm
  omega

theorem numbered_root (ctx : Context) : Numbered { context := ctx } := by
  have hroot : ∀ n (node : ScopeNode), (#[⟨Scope.root, none⟩] : Array ScopeNode)[n]? = some node →
      n = 0 ∧ node = ⟨Scope.root, none⟩ := by
    intro n node h
    cases n with
    | zero => exact ⟨rfl, (Option.some.inj h).symm⟩
    | succ n => cases h
  constructor
  · intro n node hnode p hp
    obtain ⟨_, rfl⟩ := hroot n node hnode
    cases hp
  · intro n node hnode
    obtain ⟨rfl, rfl⟩ := hroot n node hnode
    rfl

/-! ## Opening a scope -/

theorem getElem?_push (hn : n < t.nodes.size) : (t.push k scope).nodes[n]? = t.nodes[n]? := by
  show (t.nodes.push _)[n]? = _
  rw [Array.getElem?_push, if_neg (Nat.ne_of_lt hn)]

theorem getElem?_push_size : (t.push k scope).nodes[t.nodes.size]? = some ⟨scope, some k⟩ := by
  show (t.nodes.push _)[t.nodes.size]? = _
  rw [Array.getElem?_push_size]

/-- A scope of a tree with one more scope is an old one or the new one. -/
theorem of_getElem?_push (h : (t.push k scope).nodes[n]? = some node) :
    (n < t.nodes.size ∧ t.nodes[n]? = some node) ∨
      (n = t.nodes.size ∧ node = ⟨scope, some k⟩) := by
  by_cases hn : n < t.nodes.size
  · rw [getElem?_push hn] at h
    exact .inl ⟨hn, h⟩
  · obtain ⟨hlt, _⟩ := Array.getElem?_eq_some_iff.mp h
    have hlt : n < (t.nodes.push ⟨scope, some k⟩).size := hlt
    rw [Array.size_push] at hlt
    obtain rfl : n = t.nodes.size := by omega
    rw [getElem?_push_size] at h
    exact .inr ⟨rfl, (Option.some.inj h).symm⟩

theorem Ordered.push (h : t.Ordered) (hk : k < t.nodes.size) : (t.push k scope).Ordered := by
  intro n node hnode p hp
  rcases of_getElem?_push hnode with ⟨_, hnode⟩ | ⟨rfl, rfl⟩
  · exact h n node hnode p hp
  · obtain rfl : k = p := Option.some.inj hp
    exact hk

/-- Around the old scopes nothing changes. -/
theorem Ordered.chain_push (h : t.Ordered) (hn : n < t.nodes.size) :
    (t.push k scope).chain n = t.chain n := by
  -- all parents on the way are old scopes too, so the new one is never met
  have hsame : ∀ fuel n, n < t.nodes.size →
      (t.push k scope).chainUpTo fuel n = t.chainUpTo fuel n := by
    intro fuel
    induction fuel with
    | zero => intro n _; rfl
    | succ fuel ih =>
      intro n hn
      rw [chainUpTo, chainUpTo, getElem?_push hn]
      cases hnode : t.nodes[n]? with
      | none => rfl
      | some node =>
        cases hparent : node.parent with
        | none => simp only [hparent]
        | some p =>
          have hp : p < n := h n node hnode p hparent
          simp only [hparent, ih p (hp.trans hn)]
  unfold chain
  rw [hsame _ n hn]
  refine h.chainUpTo_eq ?_ hn
  show n < (t.nodes.push _).size
  rw [Array.size_push]
  exact Nat.lt_succ_of_lt hn

/-- A new scope is numbered by the scopes of its kind around it. -/
theorem Numbered.push (h : t.Numbered) (hk : k < t.nodes.size)
    (hscope : scope.sequence = (t.chain k).countP fun s => s.kind == scope.kind) :
    (t.push k scope).Numbered where
  ordered := h.ordered.push hk
  sequence := by
    intro n node hnode
    rcases of_getElem?_push hnode with ⟨hn, hnode⟩ | ⟨rfl, rfl⟩
    · rw [h.ordered.chain_push hn]
      exact h.sequence n node hnode
    · rw [(h.ordered.push hk).chain_eq getElem?_push_size, List.countP_cons]
      show _ = ((t.push k scope).chain k).countP _ + _
      rw [h.ordered.chain_push hk, hscope]
      simp

theorem Numbered.openQuery (h : t.Numbered) (hk : k < t.nodes.size) : (t.openQuery k).Numbered :=
  h.push hk rfl

theorem Numbered.openStatement (h : t.Numbered) (hk : k < t.nodes.size)
    (target : RelationalTarget) : (t.openStatement k target).Numbered := by
  refine h.push hk ?_
  rw [Scope.sequence_seed, Scope.kind_seed]
  rfl

/-! ## Handing out an alias -/

/-- The scope after it has handed out an alias for a name. -/
def aliased (t : ScopeTree) (n : Nat) (name : String) : ScopeTree :=
  { t with nodes := t.nodes.modify n fun node =>
      { node with scope := (node.scope.generateAlias name).2 } }

theorem Ordered.run_generateAlias (h : t.Ordered) (hn : t.nodes[n]? = some node) (name : String)
    (streams : StreamStore) :
    t.run n (Compose.generateAlias name) streams =
      (.ok (node.scope.generateAlias name).1, t.aliased n name, streams) := by
  obtain ⟨hsize, hnode⟩ := Array.getElem?_eq_some_iff.mp hn
  have hnodes : (t.nodes.modify n fun old =>
      { old with scope := (node.scope.generateAlias name).2 }) =
        t.nodes.modify n fun old => { old with scope := (old.scope.generateAlias name).2 } := by
    refine Array.ext (by simp) fun i hi hi' => ?_
    rw [Array.getElem_modify, Array.getElem_modify]
    split
    · rename_i heq
      subst heq
      rw [hnode]
    · rfl
  unfold run
  rw [h.chain_eq hn]
  simp only [List.head?_cons, Option.getD_some, Compose.generateAlias, hnodes, aliased]

theorem getElem?_aliased {name : String} :
    (t.aliased k name).nodes[n]? = t.nodes[n]?.map fun node =>
      if n = k then { node with scope := (node.scope.generateAlias name).2 } else node := by
  show (t.nodes.modify k _)[n]? = _
  rw [Array.getElem?_modify]
  by_cases hn : n = k
  · simp [hn]
  · simp [hn, Ne.symm hn]

/-- The kinds of the scopes around a scope stay the same. -/
theorem kinds_aliased {name : String} (fuel n : Nat) :
    ((t.aliased k name).chainUpTo fuel n).map Scope.kind = (t.chainUpTo fuel n).map Scope.kind := by
  induction fuel generalizing n with
  | zero => rfl
  | succ fuel ih =>
    rw [chainUpTo, chainUpTo, getElem?_aliased]
    cases hnode : t.nodes[n]? with
    | none => rfl
    | some node =>
      simp only [Option.map_some, List.map_cons]
      by_cases hn : n = k
      · rw [if_pos hn]
        cases hparent : node.parent with
        | none => rfl
        | some p => exact congrArg _ (ih p)
      · rw [if_neg hn]
        cases hparent : node.parent with
        | none => rfl
        | some p => exact congrArg _ (ih p)

theorem Numbered.aliased (h : t.Numbered) (k : Nat) (name : String) :
    (t.aliased k name).Numbered := by
  -- an alias that is handed out changes neither the kinds nor the numbers of scopes
  have hold : ∀ (n : Nat) (node : ScopeNode), (t.aliased k name).nodes[n]? = some node →
      ∃ old : ScopeNode, t.nodes[n]? = some old ∧ node.parent = old.parent ∧
        node.scope.kind = old.scope.kind ∧ node.scope.sequence = old.scope.sequence := by
    intro n node hnode
    rw [getElem?_aliased, Option.map_eq_some_iff] at hnode
    obtain ⟨old, hn, rfl⟩ := hnode
    refine ⟨old, hn, ?_⟩
    split <;> exact ⟨rfl, rfl, rfl⟩
  have hsize : (t.aliased k name).nodes.size = t.nodes.size := Array.size_modify
  constructor
  · intro n node hnode p hp
    obtain ⟨old, hn, hparent, _⟩ := hold n node hnode
    exact h.ordered n old hn p (hparent ▸ hp)
  · intro n node hnode
    obtain ⟨old, hn, _, hkind, hsequence⟩ := hold n node hnode
    have hcount : ∀ chain : List Scope,
        (chain.countP fun s => s.kind == old.scope.kind) =
          (chain.map Scope.kind).countP (· == old.scope.kind) := by
      intro chain
      rw [List.countP_map]
      rfl
    rw [hkind, hsequence, h.sequence n old hn, hcount, hcount]
    unfold chain
    rw [kinds_aliased, hsize]

/-! ## Growing trees -/

/-- A tree grows from its root by opening scopes and handing out aliases in them.
The aliases are listed in order, with the number of the scope that each is from. -/
inductive Grows (ctx : Context) : ScopeTree → List (Nat × String) → Prop
  | root : Grows ctx { context := ctx } []
  | query {t : ScopeTree} {log : List (Nat × String)} (n : Nat) :
      Grows ctx t log → n < t.nodes.size → Grows ctx (t.openQuery n) log
  /-- The tables of the target and its joins may get aliases at once. -/
  | statement {t : ScopeTree} {log : List (Nat × String)} (n : Nat) (target : RelationalTarget) :
      Grows ctx t log → n < t.nodes.size →
        Grows ctx (t.openStatement n target) (log ++
          (BoundSource.generated ((Scope.inside (t.chain n) .statement).seedSources
            t.context.aliasMode target)).map fun a => (t.nodes.size, a))
  | handOut {t t' : ScopeTree} {log : List (Nat × String)} (n : Nat) (name : String)
      (streams : StreamStore) {streams' : StreamStore} {a : String} :
      Grows ctx t log → n < t.nodes.size →
        t.run n (Compose.generateAlias name) streams = (.ok a, t', streams') →
          Grows ctx t' (log ++ [(n, a)])

/-- Every alias of a list was issued by the scope that it is from. -/
def Issues (t : ScopeTree) (log : List (Nat × String)) : Prop :=
  ∀ entry ∈ log, ∃ node, t.nodes[entry.1]? = some node ∧ node.scope.Issued entry.2

/-- No scope has handed out an alias twice. -/
def Distinct (log : List (Nat × String)) : Prop :=
  log.Pairwise fun x y => x.1 = y.1 → x.2 ≠ y.2

/-- What every step keeps. -/
structure Sound (t : ScopeTree) (log : List (Nat × String)) : Prop where
  numbered : t.Numbered
  issues : t.Issues log
  distinct : Distinct log

variable {ctx : Context} {log : List (Nat × String)}

theorem Issues.push (h : t.Issues log) : (t.push k scope).Issues log := by
  intro entry hentry
  obtain ⟨node, hnode, hissued⟩ := h entry hentry
  obtain ⟨hn, _⟩ := Array.getElem?_eq_some_iff.mp hnode
  exact ⟨node, (getElem?_push hn).trans hnode, hissued⟩

theorem Sound.openQuery (h : t.Sound log) (hn : n < t.nodes.size) : (t.openQuery n).Sound log :=
  ⟨h.numbered.openQuery hn, h.issues.push, h.distinct⟩

/-- A new statement scope issues the aliases of its target and joins. -/
theorem Sound.openStatement (h : t.Sound log) (hn : n < t.nodes.size) (target : RelationalTarget) :
    (t.openStatement n target).Sound (log ++
      (BoundSource.generated ((Scope.inside (t.chain n) .statement).seedSources
        t.context.aliasMode target)).map fun a => (t.nodes.size, a)) where
  numbered := h.numbered.openStatement hn target
  issues := by
    intro entry hentry
    rcases List.mem_append.mp hentry with hentry | hentry
    · exact h.issues.push entry hentry
    · obtain ⟨a, ha, rfl⟩ := List.mem_map.mp hentry
      exact ⟨_, getElem?_push_size, Scope.issued_seedSources (Scope.holds_inside _ _ _) ha⟩
  distinct := by
    refine List.pairwise_append.mpr ⟨h.distinct, ?_, ?_⟩
    · refine List.pairwise_map.mpr ((Scope.nodup_seedSources _ _ _).imp ?_)
      intro a b hab _
      exact hab
    · intro x hx y hy heq
      obtain ⟨a, _, rfl⟩ := List.mem_map.mp hy
      -- the new scope has a number that no scope had before
      obtain ⟨node, hnode, _⟩ := h.issues x hx
      obtain ⟨hlt, _⟩ := Array.getElem?_eq_some_iff.mp hnode
      exact absurd heq (Nat.ne_of_lt hlt)

/-- A scope hands out an alias that it has not handed out before. -/
theorem Sound.aliased (h : t.Sound log) (hnode : t.nodes[n]? = some node) (name : String) :
    (t.aliased n name).Sound (log ++ [(n, (node.scope.generateAlias name).1)]) where
  numbered := h.numbered.aliased n name
  issues := by
    intro entry hentry
    rcases List.mem_append.mp hentry with hentry | hentry
    · obtain ⟨old, hold, hissued⟩ := h.issues entry hentry
      rw [getElem?_aliased, hold]
      refine ⟨_, rfl, ?_⟩
      split
      · exact (Scope.issued_generateAlias name).mpr (.inr hissued)
      · exact hissued
    · rw [List.mem_singleton] at hentry
      subst hentry
      rw [getElem?_aliased, hnode]
      refine ⟨_, rfl, ?_⟩
      simp only [if_true]
      exact (Scope.issued_generateAlias name).mpr (.inl rfl)
  distinct := by
    refine List.pairwise_append.mpr ⟨h.distinct, List.pairwise_singleton _ _, ?_⟩
    intro x hx y hy heq hsame
    rw [List.mem_singleton] at hy
    subst hy
    -- what was handed out before was issued by the scope, which does not issue it again
    obtain ⟨old, hold, hissued⟩ := h.issues x hx
    rw [heq, hnode, Option.some.injEq] at hold
    subst hold
    rw [hsame] at hissued
    exact node.scope.not_issued_generateAlias name hissued

/-- Every tree that has grown is sound. -/
theorem Grows.sound (h : Grows ctx t log) : t.Sound log := by
  induction h with
  | root => exact ⟨numbered_root ctx, by simp [Issues], List.Pairwise.nil⟩
  | query n _ hn ih => exact ih.openQuery hn
  | statement n target _ hn ih => exact ih.openStatement hn target
  | handOut n name _ _ hn hrun ih =>
    obtain ⟨node, hnode⟩ : ∃ node, _ = some node := ⟨_, Array.getElem?_eq_getElem hn⟩
    rw [ih.numbered.ordered.run_generateAlias hnode] at hrun
    simp only [Prod.mk.injEq, Except.ok.injEq] at hrun
    obtain ⟨rfl, rfl, _⟩ := hrun
    exact ih.aliased hnode name

/-! ## The aliases of a tree -/

/-- Two scopes have different numbers or are of the same kind. -/
def Apart (t : ScopeTree) (m n : Nat) : Prop :=
  ∀ (x y : ScopeNode), t.nodes[m]? = some x → t.nodes[n]? = some y →
    x.scope.kind = y.scope.kind ∨ x.scope.sequence ≠ y.scope.sequence

/-- However a tree has grown, the aliases handed out in one scope differ, and so do
those of two scopes one of which lies inside the other, if the scopes are of the same
kind or have different numbers. -/
theorem Grows.aliases_differ (h : Grows ctx t log) :
    log.Pairwise fun x y =>
      x.1 = y.1 ∨ ((t.Above x.1 y.1 ∨ t.Above y.1 x.1) ∧ t.Apart x.1 y.1) → x.2 ≠ y.2 := by
  obtain ⟨hnumbered, hissues, hdistinct⟩ := h.sound
  refine (List.Pairwise.and_mem.mp hdistinct).imp ?_
  rintro x y ⟨hx, hy, hsame⟩ (heq | ⟨habove, hapart⟩)
  · exact hsame heq
  · intro halias
    obtain ⟨outer, houter, hissued⟩ := hissues x hx
    obtain ⟨inner, hinner, hissued'⟩ := hissues y hy
    rw [halias] at hissued
    have hnumber : outer.scope.sequence = inner.scope.sequence := hissued.sequence_eq hissued'
    rcases hapart outer inner houter hinner with hkind | hne
    · rcases habove with habove | habove
      · exact Nat.ne_of_lt (hnumbered.sequence_lt houter hinner habove hkind) hnumber
      · exact Nat.ne_of_gt (hnumbered.sequence_lt hinner houter habove hkind.symm) hnumber
    · exact hne hnumber

theorem Grows.aliases_differ_of_nested :
    ∃ t log, Grows (Compiler.ansi .auto).context t log ∧
      log = [(0, "pers_0_0"), (1, "depa_0_1"), (1, "pers_0_1")] ∧
      log.Pairwise fun x y =>
        x.1 = y.1 ∨ ((t.Above x.1 y.1 ∨ t.Above y.1 x.1) ∧ t.Apart x.1 y.1) → x.2 ≠ y.2 := by
  have houter : Grows (Compiler.ansi .auto).context _ [(0, "pers_0_0")] :=
    Grows.root.handOut 0 "person" {} (by decide) rfl
  have hinner : Grows (Compiler.ansi .auto).context _ [(0, "pers_0_0"), (1, "depa_0_1")] :=
    houter.statement 0 ⟨none, "department", none, [], none⟩ (by decide)
  have hlast : Grows (Compiler.ansi .auto).context _
      [(0, "pers_0_0"), (1, "depa_0_1"), (1, "pers_0_1")] :=
    hinner.handOut 1 "person" {} (by decide) rfl
  exact ⟨_, _, hlast, rfl, hlast.aliases_differ⟩

/-- A query scope counts apart from the statement scope around it, and starts at the
same number: an alias of the one is an alias of the other as well. -/
theorem query_scope_repeats_alias :
    ∃ t, Grows (Compiler.ansi .explicitOnly).context t [(0, "pers_0_0"), (1, "pers_0_0")] ∧
      t.Above 0 1 := by
  have houter := (@Grows.root (Compiler.ansi .explicitOnly).context).handOut 0 "person" {}
    (by decide) rfl
  have hquery := houter.query 0 (by decide)
  have hinner := hquery.handOut 1 "person" {} (by decide) rfl
  exact ⟨_, hinner, .parent rfl rfl⟩

end ScopeTree

end SqlCompose
