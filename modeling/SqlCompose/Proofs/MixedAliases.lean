import SqlCompose.Proofs.Listing
import SqlCompose.Proofs.Rendering

/-!
# SqlCompose.Proofs.MixedAliases -- given aliases among generated ones

In the automatic mode the tables of a target, and the columns of a projection, keep the
aliases that they were given, and the others get generated ones in order. A generator
looks at its own counters only. So it can generate an alias that was given to another
table or column, and this is the only way in which two of them get the same one.
-/

namespace SqlCompose

open Compose

/-! ## Handing out aliases -/

namespace AliasGenerator

variable {g : AliasGenerator} {sequence : Nat} {name a : String} {names : List String}
  {entries : List (Option String × String)}

/-- An alias is one of those that are generated for names in a row: its counter goes on from
that of its stem, once for each name of the stem. -/
def HandsOut (g : AliasGenerator) (sequence : Nat) (names : List String) (a : String) : Prop :=
  ∃ stem duplicate, g.count stem ≤ duplicate ∧
    duplicate < g.count stem + (names.map Alias.stem).count stem ∧
      a = Alias.format stem duplicate sequence

theorem handsOut_format {stem : String} {duplicate : Nat} :
    g.HandsOut sequence names (Alias.format stem duplicate sequence) ↔
      g.count stem ≤ duplicate ∧ duplicate < g.count stem + (names.map Alias.stem).count stem := by
  constructor
  · rintro ⟨stem', duplicate', hle, hlt, h⟩
    obtain ⟨rfl, rfl, _⟩ := Alias.format_inj h
    exact ⟨hle, hlt⟩
  · rintro ⟨hle, hlt⟩
    exact ⟨stem, duplicate, hle, hlt, rfl⟩

theorem not_handsOut_nil : ¬ g.HandsOut sequence [] a := by
  rintro ⟨stem, duplicate, hle, hlt, _⟩
  exact absurd hlt (Nat.not_lt.mpr hle)

theorem count_next (stem : String) :
    (g.next name sequence).2.count stem =
      if stem = Alias.stem name then g.count stem + 1 else g.count stem := by
  show (g.setCount (Alias.stem name) (g.count (Alias.stem name) + 1)).count stem = _
  rw [count_setCount]
  split
  · rename_i h
    rw [h]
  · rfl

/-- The first name gets the next alias. -/
theorem handsOut_cons :
    g.HandsOut sequence (name :: names) a ↔
      a = (g.next name sequence).1 ∨ (g.next name sequence).2.HandsOut sequence names a := by
  unfold HandsOut
  -- only the counter of the name's own stem goes on
  simp only [count_next, List.map_cons, List.count_cons]
  constructor
  · rintro ⟨stem, duplicate, hle, hlt, rfl⟩
    by_cases hstem : stem = Alias.stem name
    · subst hstem
      rcases Nat.eq_or_lt_of_le hle with rfl | hnext
      · exact .inl rfl
      · rw [beq_self_eq_true, if_pos rfl] at hlt
        exact .inr ⟨_, duplicate, by rw [if_pos rfl]; exact hnext, by rw [if_pos rfl]; omega, rfl⟩
    · have hne : (Alias.stem name == stem) = false := beq_eq_false_iff_ne.mpr (Ne.symm hstem)
      rw [hne] at hlt
      exact .inr ⟨stem, duplicate, by rw [if_neg hstem]; exact hle, by rw [if_neg hstem]; exact hlt,
        rfl⟩
  · rintro (rfl | ⟨stem, duplicate, hle, hlt, rfl⟩)
    · exact ⟨Alias.stem name, g.count (Alias.stem name), Nat.le_refl _, by simp, rfl⟩
    · refine ⟨stem, duplicate, ?_, ?_, rfl⟩
      · split at hle <;> omega
      · by_cases hstem : stem = Alias.stem name
        · subst hstem
          rw [if_pos rfl] at hlt
          rw [beq_self_eq_true, if_pos rfl]
          omega
        · rw [if_neg hstem] at hlt
          omega

/-- An alias is generated once. -/
theorem not_handsOut_next :
    ¬ (g.next name sequence).2.HandsOut sequence names (g.next name sequence).1 := by
  intro h
  have hle := (handsOut_format.mp h).1
  rw [count_next, if_pos rfl] at hle
  omega

/-! ## Given aliases in between -/

/-- The aliases of names in a row, some of which were given one. -/
def assign (sequence : Nat) : AliasGenerator → List (Option String × String) → List String
  | _, [] => []
  | g, (some a, _) :: rest => a :: assign sequence g rest
  | g, (none, name) :: rest =>
    (g.next name sequence).1 :: assign sequence (g.next name sequence).2 rest

/-- The aliases that were given. -/
def given : List (Option String × String) → List String
  | [] => []
  | (some a, _) :: rest => a :: given rest
  | (none, _) :: rest => given rest

/-- The names to which no alias was given. -/
def unnamed : List (Option String × String) → List String
  | [] => []
  | (some _, _) :: rest => unnamed rest
  | (none, name) :: rest => name :: unnamed rest

theorem mem_assign :
    a ∈ g.assign sequence entries ↔
      a ∈ given entries ∨ g.HandsOut sequence (unnamed entries) a := by
  induction entries generalizing g with
  | nil => simp [assign, given, unnamed, not_handsOut_nil]
  | cons entry rest ih =>
    obtain ⟨_ | a', name⟩ := entry
    · rw [assign, given, unnamed, List.mem_cons, ih, handsOut_cons]
      exact or_left_comm
    · rw [assign, given, unnamed, List.mem_cons, ih, List.mem_cons, or_assoc]

/-- Where the given aliases differ from each other, all of them do exactly if none of the given
ones is generated. -/
theorem nodup_assign_iff (h : (given entries).Nodup) :
    (g.assign sequence entries).Nodup ↔
      ∀ a ∈ given entries, ¬ g.HandsOut sequence (unnamed entries) a := by
  induction entries generalizing g with
  | nil => simp [assign, given]
  | cons entry rest ih =>
    obtain ⟨_ | a, name⟩ := entry
    · -- the alias that is generated first is none of the later ones
      have hfirst : (g.next name sequence).1 ∉
          (g.next name sequence).2.assign sequence rest ↔ (g.next name sequence).1 ∉ given rest := by
        rw [mem_assign, or_iff_left not_handsOut_next]
      simp only [assign, given, unnamed, List.nodup_cons, hfirst, ih h, handsOut_cons, not_or]
      constructor
      · rintro ⟨hnew, hrest⟩ a ha
        exact ⟨fun heq => hnew (heq ▸ ha), hrest a ha⟩
      · intro hall
        exact ⟨fun hmem => (hall _ hmem).1 rfl, fun a ha => (hall a ha).2⟩
    · obtain ⟨hnew, hrest⟩ := List.nodup_cons.mp h
      simp only [assign, given, unnamed, List.nodup_cons, ih hrest, mem_assign, not_or,
        List.forall_mem_cons]
      exact and_congr_left fun _ => and_iff_right hnew

end AliasGenerator

/-! ## Tables -/

namespace RelationalTarget

/-- The target and its joins with the aliases that they were given. -/
def aliasEntries (t : RelationalTarget) : List (Option String × String) :=
  (t.aliasName, t.table) :: t.joins.map fun j => (j.aliasName, j.name)

end RelationalTarget

namespace Scope

variable {s : Scope} {t : RelationalTarget}

theorem aliases_joinSources (joins : List Join) :
    (s.joinSources .auto joins).map (·.binding.aliasName) =
      (s.aliases.assign s.sequence (joins.map fun j => (j.aliasName, j.name))).map some := by
  induction joins generalizing s with
  | nil => rfl
  | cons j rest ih =>
    rw [joinSources, List.map_cons, ih, List.map_cons]
    cases halias : j.aliasName <;> rfl

/-- What a target and its joins are given when they are bound in the automatic mode. -/
theorem aliases_seedSources (s : Scope) (t : RelationalTarget) :
    (s.seedSources .auto t).map (·.binding.aliasName) =
      (s.aliases.assign s.sequence t.aliasEntries).map some := by
  rw [seedSources, sources, List.map_cons, aliases_joinSources, RelationalTarget.aliasEntries]
  cases halias : t.aliasName <;> rfl

/-- The names of a target and its joins find them, if none is bound under the name of an
earlier one. -/
theorem find_names_seed (hs : s.holds t = false)
    (hunhidden : BoundSource.Unhidden (s.seedSources .auto t)) :
    (rootKey :: t.joins.map Join.name).map (fun name =>
        ((s.seed .auto t).bindings.lookup name).bind Binding.aliasName) =
      (s.seedSources .auto t).map (·.binding.aliasName) := by
  have hnames : (s.seedSources .auto t).map BoundSource.name = rootKey :: t.joins.map Join.name := by
    rw [seedSources, sources, List.map_cons, map_name_joinSources]
    rfl
  rw [← hnames, List.map_map]
  refine List.map_congr_left fun x hx => ?_
  rw [Function.comp_apply, lookup_seed hs, hunhidden.find_name hx]
  rfl

end Scope

/-! ## Columns -/

theorem Selection.aliases_auto (sequence : Nat) (g : AliasGenerator) (selections : List Selection) :
    Selection.aliases .auto sequence g selections =
      (g.assign sequence (selections.map fun x => (x.explicitAlias, x.localName))).map some := by
  induction selections generalizing g with
  | nil => rfl
  | cons x rest ih =>
    rw [Selection.aliases, List.map_cons]
    cases halias : x.explicitAlias <;>
      simp only [Selection.columnAlias, halias, ih, AliasGenerator.assign, List.map_cons]

/-- The columns of a projection have the aliases of its selections, in their order. -/
theorem Projection.aliases_columns {ctx : Context} {s t : Session} {p : Projection}
    {columns : List ProjectedColumn} (h : (Projection.toColumns p).Yields ctx s columns t) :
    columns.map (·.aliasName) =
      Selection.aliases (p.aliasMode.getD ctx.aliasMode) s.scope.sequence {} p.selections := by
  obtain ⟨selections, aliasMode, converter⟩ := p
  simp only [toColumns, yields_ofResult_bind, yields_aliasMode_bind, yields_sequence_bind] at h
  obtain ⟨_, _, h⟩ := h
  obtain ⟨sqls, _, hsqls, h⟩ := yields_bind.mp h
  obtain ⟨rfl, _⟩ := yields_pure.mp h
  have hlength : (Selection.aliases (aliasMode.getD ctx.aliasMode) s.scope.sequence {}
      selections).length ≤ sqls.length := by
    rw [Selection.length_aliases, Selection.length_allToSql hsqls]
  refine Eq.trans ?_ (List.map_snd_zip hlength)
  rw [List.zip, List.map_zipWith, List.map_zipWith]

/-- The selections of a projection with the aliases that they were given. -/
def Projection.aliasEntries (p : Projection) : List (Option String × String) :=
  p.selections.map fun x => (x.explicitAlias, x.localName)

/-! ## Distinct aliases -/

/-- In the automatic mode a target and its joins, of which no two were given the same alias, are
bound with distinct aliases exactly if none of the given ones is one that the scope generates for
the others. They are found with these aliases as long as none is bound under the name of an earlier
one. The same holds of the columns of a projection. -/
theorem aliases_differ_iff :
    (∀ (s : Scope) (t : RelationalTarget), (AliasGenerator.given t.aliasEntries).Nodup →
      ∃ aliases : List String,
        (s.seedSources .auto t).map (·.binding.aliasName) = aliases.map some ∧
        (aliases.Nodup ↔ ∀ a ∈ AliasGenerator.given t.aliasEntries,
          ¬ s.aliases.HandsOut s.sequence (AliasGenerator.unnamed t.aliasEntries) a) ∧
        (s.holds t = false → BoundSource.Unhidden (s.seedSources .auto t) →
          (Scope.rootKey :: t.joins.map Join.name).map (fun name =>
            ((s.seed .auto t).bindings.lookup name).bind Binding.aliasName) = aliases.map some)) ∧
    ∀ (ctx : Context) (s t : Session) (p : Projection)
      (columns : List ProjectedColumn), p.aliasMode.getD ctx.aliasMode = .auto →
      (AliasGenerator.given p.aliasEntries).Nodup →
      (Projection.toColumns p).Yields ctx s columns t →
        ∃ aliases : List String, columns.map (·.aliasName) = aliases.map some ∧
          (aliases.Nodup ↔ ∀ a ∈ AliasGenerator.given p.aliasEntries,
            ¬ AliasGenerator.HandsOut {} s.scope.sequence
              (AliasGenerator.unnamed p.aliasEntries) a) := by
  constructor
  · intro s t hgiven
    -- tables and columns draw on the same supply: only the counters they start with differ
    refine ⟨s.aliases.assign s.sequence t.aliasEntries, s.aliases_seedSources t,
      AliasGenerator.nodup_assign_iff hgiven, fun hs hunhidden => ?_⟩
    rw [Scope.find_names_seed hs hunhidden, s.aliases_seedSources]
  · intro ctx s t p columns hmode hgiven h
    refine ⟨AliasGenerator.assign s.scope.sequence {} p.aliasEntries, ?_,
      AliasGenerator.nodup_assign_iff hgiven⟩
    rw [Projection.aliases_columns h, hmode, Selection.aliases_auto]
    rfl

/-- A table that gets an alias, and a join that was given one. -/
def aliasedJoin (aliasName : String) : RelationalTarget :=
  let join : Join := {
    kind := .inner, name := "x", source := "s", aliasName := some aliasName, on := none
    entity := none }
  { schema := none, table := "person", aliasName := none, joins := [join], entity := none }

/-- A column that gets an alias, and one that was given one. -/
def aliasedColumns (aliasName : String) : Projection :=
  ⟨[⟨.path (.ofName "name"), none⟩, ⟨.path (.ofName "age"), some aliasName⟩], none, none⟩

/-- An alias that a scope would generate next is still free. -/
theorem aliases_differ_of_next_counter :
    (AliasGenerator.given (aliasedJoin "pers_1_0").aliasEntries).Nodup ∧
    Scope.root.holds (aliasedJoin "pers_1_0") = false ∧
    BoundSource.Unhidden (Scope.root.seedSources .auto (aliasedJoin "pers_1_0")) ∧
    (∃ aliases : List String, aliases.Nodup ∧ [Scope.rootKey, "x"].map (fun name =>
      ((Scope.root.seed .auto (aliasedJoin "pers_1_0")).bindings.lookup name).bind
        Binding.aliasName) = aliases.map some) ∧
    (AliasGenerator.given (aliasedColumns "name_1_0").aliasEntries).Nodup ∧
    ∃ columns t, (project (aliasedColumns "name_1_0")).Yields (Compiler.ansi .auto).context
        (Session.initial {}) columns t ∧
      ∃ aliases : List String, columns.map (·.aliasName) = aliases.map some ∧ aliases.Nodup := by
  obtain ⟨htables, hcolumns⟩ := aliases_differ_iff
  have hgiven : (AliasGenerator.given (aliasedJoin "pers_1_0").aliasEntries).Nodup := by decide
  have hholds : Scope.root.holds (aliasedJoin "pers_1_0") = false := rfl
  have hunhidden : BoundSource.Unhidden (Scope.root.seedSources .auto (aliasedJoin "pers_1_0")) := by
    decide +kernel
  have hselected : (AliasGenerator.given (aliasedColumns "name_1_0").aliasEntries).Nodup := by decide
  obtain ⟨aliases, _, hdiffer, hbound⟩ := htables Scope.root _ hgiven
  have hfree : ∀ (names : List String) (stem : String), (names.map Alias.stem).count stem = 1 →
      ¬ AliasGenerator.HandsOut {} 0 names (Alias.format stem 1 0) := by
    intro names stem hcount h
    have hlt := (AliasGenerator.handsOut_format.mp h).2
    rw [hcount] at hlt
    exact absurd hlt (by show ¬ (1 < 0 + 1); decide)
  have hok : ((project (aliasedColumns "name_1_0")).outcome (Compiler.ansi .auto).context
      (Session.initial {})).1.isOk = true := by decide +kernel
  obtain ⟨columns, t, h⟩ := exists_of_isOk hok
  obtain ⟨aliases', hlisted, hdiffer'⟩ :=
    hcolumns _ _ _ _ columns rfl hselected h
  refine ⟨hgiven, hholds, hunhidden, ⟨aliases, hdiffer.mpr ?_, hbound hholds hunhidden⟩, hselected,
    columns, t, h, aliases', hlisted, hdiffer'.mpr ?_⟩
  · intro a ha
    obtain rfl : a = "pers_1_0" := List.mem_singleton.mp ha
    exact hfree _ "pers" (by decide +kernel)
  · intro a ha
    obtain rfl : a = "name_1_0" := List.mem_singleton.mp ha
    exact hfree _ "name" (by decide +kernel)

/-- An alias that was given to a join or a column is generated for another one. -/
theorem given_alias_is_generated :
    (AliasGenerator.given (aliasedJoin "pers_0_0").aliasEntries).Nodup ∧
    ((aliasedJoin "pers_0_0").joins.map Join.name).Nodup ∧
    [Scope.rootKey, "x"].map (fun name =>
      ((Scope.root.seed .auto (aliasedJoin "pers_0_0")).bindings.lookup name).bind
        Binding.aliasName) = [some "pers_0_0", some "pers_0_0"] ∧
    (AliasGenerator.given (aliasedColumns "name_0_0").aliasEntries).Nodup ∧
    ((Compiler.ansi .auto).compileSelect
        { SelectQuery.ofSource (.target (aliasedJoin "pers_0_0")) with
          projection := some (aliasedColumns "name_0_0") } {}).1.toOption.map
      (fun compiled => (compiled.statement.sql, compiled.columns.map (·.aliasName))) =
        some ("SELECT pers_0_0.name AS name_0_0, pers_0_0.age AS name_0_0 " ++
          "FROM person pers_0_0 INNER JOIN s pers_0_0", [some "name_0_0", some "name_0_0"]) := by
  refine ⟨by decide, by decide, by decide +kernel, by decide, ?_⟩
  decide +kernel

end SqlCompose
