import SqlCompose.Proofs.Names

/-!
# SqlCompose.Proofs.Scopes -- what scopes bind, and scopes inside other scopes

A scope binds a target under the keys by which paths may name it, and keeps what
it binds from then on. Only generated aliases know how deep a scope lies: in the
other modes a target is bound alike in a scope and in one further inside.
-/

namespace SqlCompose

/-! ## Keys -/

/-- A scope binds a key. -/
def Scope.Binds (s : Scope) (key : String) : Prop := (s.bindings.lookup key).isSome

/-- The keys of a join as it is bound without generated aliases: its name, and
its alias, or else its table. -/
def Join.keys (j : Join) : List String := [j.name, j.aliasName.getD j.source]

/-- The keys of a target as it is bound without generated aliases: its table,
its alias and its entity, and the keys of its joins. -/
def RelationalTarget.keys (t : RelationalTarget) : List String :=
  t.table :: t.aliasName.toList ++ t.entity.toList ++ t.joins.flatMap Join.keys

namespace Scope

variable {s : Scope} {mode : AliasMode} {key k : String} {b : Binding} {t : RelationalTarget}
  {n : Nat}

theorem lookup_filter {β : Type} (entries : List (String × β)) (h : k ≠ key) :
    (entries.filter fun entry => entry.1 != key).lookup k = entries.lookup k := by
  induction entries with
  | nil => rfl
  | cons entry rest ih =>
    obtain ⟨name, b⟩ := entry
    by_cases hname : name = key
    · subst hname
      have hk : (k == name) = false := beq_eq_false_iff_ne.mpr h
      simp [List.lookup_cons, hk, ih]
    · have hne : (name != key) = true := bne_iff_ne.mpr hname
      simp only [List.filter_cons, hne, if_true, List.lookup_cons, ih]

theorem binds_bind : (s.bind key b).Binds k ↔ k = key ∨ s.Binds k := by
  unfold Binds Scope.bind Bindings.insert
  rw [List.lookup_cons]
  by_cases hk : k = key
  · simp [hk]
  · have hne : (k == key) = false := beq_eq_false_iff_ne.mpr hk
    simp only [hne, lookup_filter _ hk, hk, false_or]

theorem Binds.bind (h : s.Binds k) : (s.bind key b).Binds k := binds_bind.mpr (.inr h)

theorem bindings_tableAlias (given : Option String) (name : String) :
    (s.tableAlias mode given name).2.bindings = s.bindings := by
  cases mode <;> cases given <;> rfl

/-- The binding of a join with an alias. -/
def joinBinding (j : Join) (aliasName : Option String) : Binding :=
  ⟨none, j.source, aliasName, j.entity⟩

/-- A join is bound under its name, and under its qualifier if that is another one. -/
theorem bindJoin_eq (s : Scope) (mode : AliasMode) (j : Join) :
    s.bindJoin mode j =
      (if (joinBinding j (s.tableAlias mode j.aliasName j.name).1).qualifier != j.name then
        (s.tableAlias mode j.aliasName j.name).2.bind
          (joinBinding j (s.tableAlias mode j.aliasName j.name).1).qualifier
          (joinBinding j (s.tableAlias mode j.aliasName j.name).1)
      else (s.tableAlias mode j.aliasName j.name).2).bind j.name
        (joinBinding j (s.tableAlias mode j.aliasName j.name).1) := rfl

theorem Binds.bindJoin (h : s.Binds k) (j : Join) : (s.bindJoin mode j).Binds k := by
  have hs : (s.tableAlias mode j.aliasName j.name).2.Binds k := by
    unfold Binds
    rwa [bindings_tableAlias]
  rw [bindJoin_eq]
  refine Binds.bind ?_
  split
  · exact hs.bind
  · exact hs

theorem Binds.bindJoins (h : s.Binds k) (joins : List Join) :
    (joins.foldl (fun s j => s.bindJoin mode j) s).Binds k := by
  induction joins generalizing s with
  | nil => exact h
  | cons j rest ih => exact ih (h.bindJoin j)

/-- A target bound under its qualifier, its table and its entity. -/
def bindNames (s : Scope) (t : RelationalTarget) (b : Binding) : Scope :=
  match t.entity with
  | some entity => ((s.bind b.qualifier b).bind t.table b).bind entity b
  | none => (s.bind b.qualifier b).bind t.table b

/-- A target is bound under its names and the root key, and then its joins. -/
theorem bindTarget_eq (s : Scope) (mode : AliasMode) (t : RelationalTarget)
    (aliasName : Option String) :
    s.bindTarget mode t aliasName = t.joins.foldl (fun s j => s.bindJoin mode j)
      ((s.bindNames t ⟨t.schema, t.table, aliasName, t.entity⟩).bind rootKey
        ⟨t.schema, t.table, aliasName, t.entity⟩) := rfl

theorem Binds.bindNames (h : s.Binds k) (t : RelationalTarget) (b : Binding) :
    (s.bindNames t b).Binds k := by
  unfold Scope.bindNames
  split
  · exact h.bind.bind.bind
  · exact h.bind.bind

theorem binds_name (h : k = b.qualifier ∨ k = t.table ∨ k ∈ t.entity) :
    (s.bindNames t b).Binds k := by
  unfold Scope.bindNames
  split
  · rename_i entity hentity
    simp only [binds_bind, hentity, Option.mem_def, Option.some.injEq] at h ⊢
    rcases h with h | h | h
    · exact .inr (.inr (.inl h))
    · exact .inr (.inl h)
    · exact .inl h.symm
  · rename_i hentity
    simp only [binds_bind, hentity, Option.mem_def, reduceCtorEq, or_false] at h ⊢
    rcases h with h | h
    · exact .inr (.inl h)
    · exact .inl h

theorem Binds.bindTarget (h : s.Binds k) (t : RelationalTarget) (aliasName : Option String) :
    (s.bindTarget mode t aliasName).Binds k := by
  rw [bindTarget_eq]
  exact ((h.bindNames t _).bind).bindJoins t.joins

/-- What a scope binds it still binds once a target has been bound in it. -/
theorem Binds.seed (h : s.Binds k) (t : RelationalTarget) : (s.seed mode t).Binds k := by
  rw [Scope.seed_eq]
  split
  · exact h
  · refine Binds.bindTarget ?_ t _
    unfold Binds
    rwa [bindings_tableAlias]

theorem binds_join_key {j : Join} (h : k ∈ j.keys) :
    (s.bindJoin .explicitOnly j).Binds k := by
  have hqualifier : (joinBinding j j.aliasName).qualifier = j.aliasName.getD j.source := rfl
  simp only [Join.keys, List.mem_cons, List.not_mem_nil, or_false] at h
  rw [bindJoin_eq, binds_bind]
  simp only [Scope.tableAlias, hqualifier]
  by_cases hname : k = j.name
  · exact .inl hname
  · have hk := h.resolve_left hname
    rw [if_pos (bne_iff_ne.mpr (hk ▸ hname))]
    exact .inr (binds_bind.mpr (.inl hk))

theorem binds_joins_key {joins : List Join} (h : k ∈ joins.flatMap Join.keys) :
    (joins.foldl (fun s j => s.bindJoin .explicitOnly j) s).Binds k := by
  induction joins generalizing s with
  | nil => simp at h
  | cons j rest ih =>
    rw [List.flatMap_cons, List.mem_append] at h
    rcases h with h | h
    · exact (binds_join_key h).bindJoins rest
    · exact ih h

/-- A scope without a target binds all keys of the one that is bound in it. -/
theorem binds_key (hs : s.holds t = false) (h : k ∈ t.keys) :
    (s.seed .explicitOnly t).Binds k := by
  rw [Scope.seed_eq, hs]
  simp only [Bool.false_eq_true, if_false, Scope.tableAlias]
  rw [bindTarget_eq]
  rw [RelationalTarget.keys, List.mem_append, List.mem_append, List.mem_cons, Option.mem_toList,
    Option.mem_toList] at h
  rcases h with ((htable | halias) | hentity) | hjoins
  · exact (Binds.bind (binds_name (.inr (.inl htable)))).bindJoins t.joins
  · refine (Binds.bind (binds_name (.inl ?_))).bindJoins t.joins
    rw [Binding.qualifier, halias, Option.getD_some]
  · exact (Binds.bind (binds_name (.inr (.inr hentity)))).bindJoins t.joins
  · exact binds_joins_key hjoins

theorem holds_inside (chain : List Scope) (kind : ScopeKind) (t : RelationalTarget) :
    (Scope.inside chain kind).holds t = false := rfl

/-! ## Kinds -/

theorem kind_tableAlias (given : Option String) (name : String) :
    (s.tableAlias mode given name).2.kind = s.kind := by
  cases mode <;> cases given <;> rfl

theorem kind_bindJoin (j : Join) : (s.bindJoin mode j).kind = s.kind := by
  rw [bindJoin_eq]
  split <;> exact kind_tableAlias j.aliasName j.name

theorem kind_bindJoins (joins : List Join) :
    (joins.foldl (fun s j => s.bindJoin mode j) s).kind = s.kind := by
  induction joins generalizing s with
  | nil => rfl
  | cons j rest ih => rw [List.foldl_cons, ih, kind_bindJoin]

theorem kind_bindTarget (t : RelationalTarget) (aliasName : Option String) :
    (s.bindTarget mode t aliasName).kind = s.kind := by
  rw [bindTarget_eq, kind_bindJoins]
  unfold Scope.bindNames
  split <;> rfl

theorem kind_seed (t : RelationalTarget) : (s.seed mode t).kind = s.kind := by
  rw [Scope.seed_eq]
  split
  · rfl
  · rw [kind_bindTarget, kind_tableAlias]

/-! ## Depth -/

/-- The same scope with more scopes of its kind around it. -/
def deepen (n : Nat) (s : Scope) : Scope := { s with sequence := s.sequence + n }

@[simp] theorem bindings_deepen : (s.deepen n).bindings = s.bindings := rfl

@[simp] theorem kind_deepen : (s.deepen n).kind = s.kind := rfl

theorem tableAlias_deepen (hmode : mode ≠ .auto) (given : Option String) (name : String) :
    (s.deepen n).tableAlias mode given name =
      ((s.tableAlias mode given name).1, (s.tableAlias mode given name).2.deepen n) := by
  cases mode with
  | auto => exact absurd rfl hmode
  | _ => rfl

theorem bindJoin_deepen (hmode : mode ≠ .auto) (j : Join) :
    (s.deepen n).bindJoin mode j = (s.bindJoin mode j).deepen n := by
  rw [bindJoin_eq, bindJoin_eq, tableAlias_deepen hmode]
  split <;> rfl

theorem bindJoins_deepen (hmode : mode ≠ .auto) (joins : List Join) :
    joins.foldl (fun s j => s.bindJoin mode j) (s.deepen n) =
      (joins.foldl (fun s j => s.bindJoin mode j) s).deepen n := by
  induction joins generalizing s with
  | nil => rfl
  | cons j rest ih => rw [List.foldl_cons, List.foldl_cons, bindJoin_deepen hmode, ih]

/-- Without generated aliases a target is bound alike at every depth. -/
theorem bindTarget_deepen (h : n = 0 ∨ mode ≠ .auto) (t : RelationalTarget)
    (aliasName : Option String) :
    (s.deepen n).bindTarget mode t aliasName = (s.bindTarget mode t aliasName).deepen n := by
  rcases h with rfl | hmode
  · rfl
  · rw [bindTarget_eq, bindTarget_eq, ← bindJoins_deepen hmode]
    unfold Scope.bindNames
    split <;> rfl

theorem seed_deepen (h : n = 0 ∨ mode ≠ .auto) (t : RelationalTarget) :
    (s.deepen n).seed mode t = (s.seed mode t).deepen n := by
  have hholds : (s.deepen n).holds t = s.holds t := rfl
  rcases h with rfl | hmode
  · rfl
  · rw [Scope.seed_eq, Scope.seed_eq, hholds, tableAlias_deepen hmode]
    split
    · rfl
    · exact bindTarget_deepen (.inr hmode) t _

end Scope

end SqlCompose
