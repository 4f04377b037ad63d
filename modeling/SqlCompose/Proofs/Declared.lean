import SqlCompose.Proofs.Aliases

/-!
# SqlCompose.Proofs.Declared -- what a target brings into a scope

Binding a target in a scope is one list of writes: the target and then its joins
in order, each of them under several keys. A key finds the last one that was
written under it. In the automatic mode all those without an alias of their own
get generated ones, which are new to the scope and differ from each other.
-/

namespace SqlCompose

/-! ## The sources of a scope -/

/-- A table that a scope binds. A clause that lists it looks it up by its name;
paths may have its name, one of the others or its qualifier. -/
structure BoundSource where
  name : String
  others : List String
  /-- The alias that it was given. -/
  given : Option String
  binding : Binding
  deriving DecidableEq, Repr

namespace BoundSource

/-- The names that a source has without regard to its alias. -/
def names (x : BoundSource) : List String := x.name :: x.others

/-- The keys under which a source is bound. -/
def keys (x : BoundSource) : List String := x.binding.qualifier :: x.names

variable {key a : String} {b : Binding} {x : BoundSource} {xs ys : List BoundSource}

/-- What a key finds: the last source that is bound under it. -/
def find (key : String) : List BoundSource → Option Binding
  | [] => none
  | x :: rest => (find key rest).or (if key ∈ x.keys then some x.binding else none)

/-- The aliases of those sources that were given none. -/
def generated (xs : List BoundSource) : List String :=
  xs.filterMap fun x => if x.given.isNone then x.binding.aliasName else none

theorem generated_cons (x : BoundSource) (xs : List BoundSource) :
    generated (x :: xs) =
      (if x.given = none then x.binding.aliasName else none).toList ++ generated xs := by
  unfold generated
  rw [List.filterMap_cons]
  cases x.given with
  | none => cases x.binding.aliasName <;> rfl
  | some given => rfl

theorem mem_generated_cons :
    a ∈ generated (x :: xs) ↔
      (x.given = none ∧ x.binding.aliasName = some a) ∨ a ∈ generated xs := by
  rw [generated_cons, List.mem_append, Option.mem_toList, Option.ite_none_right_eq_some]

theorem nodup_generated_cons :
    (generated (x :: xs)).Nodup ↔
      (∀ a, x.given = none → x.binding.aliasName = some a → a ∉ generated xs) ∧
        (generated xs).Nodup := by
  rw [generated_cons]
  by_cases hgiven : x.given = none
  · rw [if_pos hgiven]
    cases x.binding.aliasName with
    | none => simp
    | some aliasName => simp [hgiven]
  · rw [if_neg hgiven]
    simp [hgiven]

theorem find_append : find key (xs ++ ys) = (find key ys).or (find key xs) := by
  induction xs with
  | nil => simp [find]
  | cons x rest ih => rw [List.cons_append, find, find, ih, Option.or_assoc]

theorem find_eq_none : find key xs = none ↔ ∀ x ∈ xs, key ∉ x.keys := by
  induction xs with
  | nil => simp [find]
  | cons x rest ih => simp [find, Option.or_eq_none_iff, ih, and_comm]

theorem find_cons_of_last (hkey : key ∈ x.keys) (hlast : ∀ y ∈ ys, key ∉ y.keys) :
    find key (x :: ys) = some x.binding := by
  rw [find, find_eq_none.mpr hlast, if_pos hkey]
  rfl

/-- A key finds a source if no later one has it. -/
theorem find_of_last (hkey : key ∈ x.keys) (hlast : ∀ y ∈ ys, key ∉ y.keys) :
    find key (xs ++ x :: ys) = some x.binding := by
  rw [find_append, find_cons_of_last hkey hlast]
  rfl

end BoundSource

/-- A join with the alias it gets in a scope. -/
def Join.bound (j : Join) (aliasName : Option String) : BoundSource :=
  ⟨j.name, [], j.aliasName, Scope.joinBinding j aliasName⟩

/-- The binding of a target with an alias. -/
def RelationalTarget.rootBinding (t : RelationalTarget) (aliasName : Option String) : Binding :=
  ⟨t.schema, t.table, aliasName, t.entity⟩

/-- A target with the alias it gets in a scope. -/
def RelationalTarget.bound (t : RelationalTarget) (aliasName : Option String) : BoundSource :=
  ⟨Scope.rootKey, t.table :: t.entity.toList, t.aliasName, t.rootBinding aliasName⟩

namespace Scope

variable {s : Scope} {mode : AliasMode} {key k a : String} {b : Binding} {t : RelationalTarget}

/-- Joins with the aliases that they get in a scope one after the other. -/
def joinSources (mode : AliasMode) : Scope → List Join → List BoundSource
  | _, [] => []
  | s, j :: rest =>
    j.bound (s.tableAlias mode j.aliasName j.name).1 ::
      joinSources mode (s.tableAlias mode j.aliasName j.name).2 rest

/-- A target and its joins as a scope binds them, where the target has an alias already. -/
def sources (s : Scope) (mode : AliasMode) (t : RelationalTarget) (aliasName : Option String) :
    List BoundSource := t.bound aliasName :: s.joinSources mode t.joins

/-! ## Look-ups -/

theorem lookup_bind :
    (s.bind key b).bindings.lookup k = if k = key then some b else s.bindings.lookup k := by
  unfold Scope.bind Bindings.insert
  rw [List.lookup_cons]
  by_cases hk : k = key
  · simp [hk]
  · have hne : (k == key) = false := beq_eq_false_iff_ne.mpr hk
    simp only [hne, lookup_filter _ hk, hk, if_false]

theorem tableAlias_bind (given : Option String) (name : String) :
    (s.bind key b).tableAlias mode given name =
      ((s.tableAlias mode given name).1, (s.tableAlias mode given name).2.bind key b) := by
  cases mode <;> cases given <;> rfl

theorem joinSources_bind (joins : List Join) :
    (s.bind key b).joinSources mode joins = s.joinSources mode joins := by
  induction joins generalizing s with
  | nil => rfl
  | cons j rest ih => simp only [joinSources, tableAlias_bind, ih]

theorem joinSources_bindNames (joins : List Join) :
    (s.bindNames t b).joinSources mode joins = s.joinSources mode joins := by
  unfold bindNames
  split <;> simp only [joinSources_bind]

/-- After a join its keys find it, and all others what they found before. -/
theorem lookup_bindJoin (j : Join) :
    (s.bindJoin mode j).bindings.lookup k =
      (BoundSource.find k [j.bound (s.tableAlias mode j.aliasName j.name).1]).or
        (s.bindings.lookup k) := by
  have hs : (s.tableAlias mode j.aliasName j.name).2.bindings = s.bindings := bindings_tableAlias _ _
  rw [bindJoin_eq, lookup_bind]
  simp only [BoundSource.find, BoundSource.keys, BoundSource.names, Join.bound, Option.none_or,
    List.mem_cons, List.not_mem_nil, or_false]
  by_cases hname : k = j.name
  · simp [hname]
  · rw [if_neg hname]
    simp only [hname, or_false]
    split
    · rw [lookup_bind, hs]
      split <;> rfl
    · rename_i hqualifier
      have hsame : (joinBinding j (s.tableAlias mode j.aliasName j.name).1).qualifier = j.name := by
        simpa using hqualifier
      rw [hs, hsame, if_neg hname]
      rfl

theorem joinSources_bindJoin (j : Join) (joins : List Join) :
    (s.bindJoin mode j).joinSources mode joins =
      (s.tableAlias mode j.aliasName j.name).2.joinSources mode joins := by
  rw [bindJoin_eq, joinSources_bind]
  split
  · rw [joinSources_bind]
  · rfl

theorem lookup_bindJoins (joins : List Join) :
    (joins.foldl (fun s j => s.bindJoin mode j) s).bindings.lookup k =
      (BoundSource.find k (s.joinSources mode joins)).or (s.bindings.lookup k) := by
  induction joins generalizing s with
  | nil => rfl
  | cons j rest ih =>
    have hone : s.joinSources mode (j :: rest) =
        [j.bound (s.tableAlias mode j.aliasName j.name).1] ++
          (s.bindJoin mode j).joinSources mode rest := by
      rw [joinSources_bindJoin, List.singleton_append, joinSources]
    rw [List.foldl_cons, ih, lookup_bindJoin, hone, BoundSource.find_append, Option.or_assoc]

theorem lookup_bindNames :
    (s.bindNames t b).bindings.lookup k =
      if k ∈ [b.qualifier, t.table] ++ t.entity.toList then some b else s.bindings.lookup k := by
  unfold bindNames
  split
  · rename_i entity hentity
    simp only [lookup_bind, hentity, Option.toList_some, List.mem_append, List.mem_cons,
      List.not_mem_nil, or_false]
    grind
  · rename_i hentity
    simp only [lookup_bind, hentity, Option.toList_none, List.append_nil, List.mem_cons,
      List.not_mem_nil, or_false]
    grind

/-- A target and its joins are found under their keys, the last one first. -/
theorem lookup_bindTarget (aliasName : Option String) :
    (s.bindTarget mode t aliasName).bindings.lookup k =
      (BoundSource.find k (s.sources mode t aliasName)).or (s.bindings.lookup k) := by
  rw [bindTarget_eq, lookup_bindJoins, joinSources_bind, joinSources_bindNames, lookup_bind,
    lookup_bindNames, sources, BoundSource.find, Option.or_assoc]
  congr 1
  simp only [RelationalTarget.bound, RelationalTarget.rootBinding, BoundSource.keys,
    BoundSource.names, List.mem_cons, List.cons_append, List.nil_append]
  grind

/-- A target and its joins as they are bound in a scope that has no target yet. -/
def seedSources (s : Scope) (mode : AliasMode) (t : RelationalTarget) : List BoundSource :=
  (s.tableAlias mode t.aliasName t.table).2.sources mode t (s.tableAlias mode t.aliasName t.table).1

theorem lookup_seed (h : s.holds t = false) :
    (s.seed mode t).bindings.lookup k =
      (BoundSource.find k (s.seedSources mode t)).or (s.bindings.lookup k) := by
  rw [Scope.seed_eq, h]
  simp only [Bool.false_eq_true, if_false]
  rw [lookup_bindTarget, bindings_tableAlias]
  rfl

/-! ## Generated aliases -/

/-- An alias that a table gets without having been given one is new. -/
theorem not_issued_tableAlias {name : String} (h : (s.tableAlias mode none name).1 = some a) :
    ¬ s.Issued a := by
  cases mode with
  | auto =>
    obtain rfl : (s.generateAlias name).1 = a := Option.some.inj h
    exact s.not_issued_generateAlias name
  | _ => cases h

/-- From then on it is issued, and nothing else is that was not before. -/
theorem issued_tableAlias {given : Option String} {name : String} :
    (s.tableAlias mode given name).2.Issued a ↔
      (given = none ∧ (s.tableAlias mode given name).1 = some a) ∨ s.Issued a := by
  cases mode with
  | auto =>
    cases given with
    | none =>
      rw [show (s.tableAlias .auto none name).2 = (s.generateAlias name).2 from rfl,
        issued_generateAlias]
      simp [tableAlias, eq_comm]
    | some aliasName => simp [tableAlias]
  | explicitOnly => cases given <;> simp [tableAlias]
  | unsupported => simp [tableAlias]

theorem issued_bindJoin (j : Join) :
    (s.bindJoin mode j).Issued a ↔ (s.tableAlias mode j.aliasName j.name).2.Issued a := by
  rw [bindJoin_eq]
  split <;> rfl

theorem Issued.bindJoins (h : s.Issued a) (joins : List Join) :
    (joins.foldl (fun s j => s.bindJoin mode j) s).Issued a := by
  induction joins generalizing s with
  | nil => exact h
  | cons j rest ih => exact ih ((issued_bindJoin j).mpr (issued_tableAlias.mpr (.inr h)))

theorem issued_bindNames : (s.bindNames t b).Issued a ↔ s.Issued a := by
  unfold bindNames
  split <;> rfl

/-- What joins get without having been given it is new to the scope. -/
theorem not_issued_joinSources {joins : List Join}
    (h : a ∈ BoundSource.generated (s.joinSources mode joins)) : ¬ s.Issued a := by
  induction joins generalizing s with
  | nil => cases h
  | cons j rest ih =>
    rw [joinSources, BoundSource.mem_generated_cons] at h
    rcases h with ⟨hgiven, halias⟩ | h
    · have hgiven : j.aliasName = none := hgiven
      have halias : (s.tableAlias mode j.aliasName j.name).1 = some a := halias
      rw [hgiven] at halias
      exact not_issued_tableAlias halias
    · exact fun hissued => ih h (issued_tableAlias.mpr (.inr hissued))

/-- Once the joins are bound it is issued. -/
theorem issued_joinSources {joins : List Join}
    (h : a ∈ BoundSource.generated (s.joinSources mode joins)) :
    (joins.foldl (fun s j => s.bindJoin mode j) s).Issued a := by
  induction joins generalizing s with
  | nil => cases h
  | cons j rest ih =>
    rw [joinSources, BoundSource.mem_generated_cons] at h
    rw [List.foldl_cons]
    rcases h with ⟨hgiven, halias⟩ | h
    · have hissued : (s.bindJoin mode j).Issued a :=
        (issued_bindJoin j).mpr (issued_tableAlias.mpr (.inl ⟨hgiven, halias⟩))
      exact hissued.bindJoins rest
    · refine ih ?_
      rwa [joinSources_bindJoin]

/-- No two joins get the same alias without having been given it. -/
theorem nodup_joinSources (joins : List Join) :
    (BoundSource.generated (s.joinSources mode joins)).Nodup := by
  induction joins generalizing s with
  | nil => exact List.nodup_nil
  | cons j rest ih =>
    rw [joinSources, BoundSource.nodup_generated_cons]
    refine ⟨fun a hgiven halias hrest => ?_, ih⟩
    exact not_issued_joinSources hrest (issued_tableAlias.mpr (.inl ⟨hgiven, halias⟩))

/-- The aliases that a target and its joins get when they are seeded are issued. -/
theorem issued_seedSources (hs : s.holds t = false)
    (h : a ∈ BoundSource.generated (s.seedSources mode t)) : (s.seed mode t).Issued a := by
  rw [seedSources, sources, BoundSource.mem_generated_cons] at h
  rw [Scope.seed_eq, hs]
  simp only [Bool.false_eq_true, if_false]
  rw [bindTarget_eq]
  rcases h with ⟨hgiven, halias⟩ | h
  · refine Issued.bindJoins ?_ t.joins
    refine issued_bindNames.mpr (issued_tableAlias.mpr (.inl ⟨hgiven, halias⟩))
  · refine issued_joinSources ?_
    rwa [joinSources_bind, joinSources_bindNames]

/-- They differ from each other. -/
theorem nodup_seedSources (s : Scope) (mode : AliasMode) (t : RelationalTarget) :
    (BoundSource.generated (s.seedSources mode t)).Nodup := by
  rw [seedSources, sources, BoundSource.nodup_generated_cons]
  refine ⟨fun a hgiven halias hrest => ?_, nodup_joinSources t.joins⟩
  exact not_issued_joinSources hrest (issued_tableAlias.mpr (.inl ⟨hgiven, halias⟩))

end Scope

end SqlCompose
