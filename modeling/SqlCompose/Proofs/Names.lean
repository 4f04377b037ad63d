import Mathlib.Data.Set.Defs
import SqlCompose.Proofs.Marks
import SqlCompose.Resolution.Source
import SqlCompose.Statement.Basic

/-!
# SqlCompose.Proofs.Names -- the names that a statement brings into its text

All that a text holds besides words, marks and placeholders was given by name in
the statement or in the data model, or is a generated alias. `plain` stands for
any property of characters that at least all those have which mean nothing in a
finished text.
-/

namespace SqlCompose

/-! ## Names of expressions -/

/-- The names and aliases of a path. -/
def Path.names : Path → List String
  | .root name aliasName => name :: aliasName.toList
  | .child parent name aliasName => parent.names ++ name :: aliasName.toList

theorem Path.name_mem_names (p : Path) : p.name ∈ p.names := by
  cases p <;> simp [Path.names, Path.name]

theorem Path.mem_names_of_alias {p : Path} {a : String} (ha : a ∈ p.aliasName) : a ∈ p.names := by
  cases p with
  | root name aliasName => simpa [Path.names, Path.aliasName] using .inr ha
  | child parent name aliasName => simpa [Path.names, Path.aliasName] using .inr (.inr ha)

theorem Path.mem_names_of_parent {p parent : Path} (hparent : p.parent = some parent) {s : String}
    (hs : s ∈ parent.names) : s ∈ p.names := by
  cases p with
  | root name aliasName => cases hparent
  | child parent' name aliasName =>
    cases hparent
    exact List.mem_append_left _ hs

mutual

/-- The names and the raw texts of an expression. -/
def Expression.names : Expression → List String
  | .path p => p.names
  | .dataTarget t => DataTarget.names t
  | .target t => RelationalTarget.names t
  | .filter f => Filter.names f
  | .sort s => SortOrder.names s
  | .function f => FunctionCall.names f
  | .literal _ => []
  | .parameter _ => []
  | .sql r => [r.text]
  | .query q => SelectQuery.names q

/-- The names of several expressions. -/
def Expression.allNames : List Expression → List String
  | [] => []
  | e :: rest => Expression.names e ++ Expression.allNames rest

/-- The names of a filter. -/
def Filter.names : Filter → List String
  | .nullTest _ operand => Expression.names operand
  | .compare _ left right => Expression.names left ++ Expression.names right
  | .member _ left right => Expression.names left ++ Expression.names right
  | .between operand low high =>
    Expression.names operand ++ Expression.names low ++ Expression.names high
  | .like operand _ _ _ => Expression.names operand
  | .junction _ children => Filter.allNames children
  | .not child => Filter.names child
  | .rows _ query => Expression.names query

/-- The names of several filters. -/
def Filter.allNames : List Filter → List String
  | [] => []
  | f :: rest => Filter.names f ++ Filter.allNames rest

/-- The names of a sort. -/
def SortOrder.names : SortOrder → List String
  | .term expr _ => Expression.names expr
  | .composite terms => SortOrder.allNames terms

/-- The names of several sorts. -/
def SortOrder.allNames : List SortOrder → List String
  | [] => []
  | s :: rest => SortOrder.names s ++ SortOrder.allNames rest

/-- The name of a function and those of its arguments. -/
def FunctionCall.names : FunctionCall → List String
  | ⟨kind, args, _⟩ => kind.name :: Expression.allNames args

/-- The names of several joins. -/
def Join.allNames : List Join → List String
  | [] => []
  | j :: rest => Join.names j ++ Join.allNames rest

/-- The names of a join and of its condition. -/
def Join.names : Join → List String
  | ⟨_, name, source, aliasName, on, entity⟩ =>
    name :: source :: aliasName.toList ++ entity.toList ++
      match on with
      | some f => Filter.names f
      | none => []

/-- The names of a target and of its joins. -/
def RelationalTarget.names : RelationalTarget → List String
  | ⟨schema, table, aliasName, joins, entity⟩ =>
    table :: schema.toList ++ aliasName.toList ++ entity.toList ++ Join.allNames joins

/-- The names of a data target and of its joins. -/
def DataTarget.names : DataTarget → List String
  | ⟨entity, aliasName, joins⟩ => entity :: aliasName.toList ++ Join.allNames joins

/-- The names of a selection and its alias. -/
def Selection.names : Selection → List String
  | ⟨expr, aliasName⟩ => aliasName.toList ++ Expression.names expr

/-- The names of several selections. -/
def Selection.allNames : List Selection → List String
  | [] => []
  | s :: rest => Selection.names s ++ Selection.allNames rest

/-- The names of a projection. -/
def Projection.names : Projection → List String
  | ⟨selections, _, _⟩ => Selection.allNames selections

/-- The names of a query. -/
def SelectQuery.names : SelectQuery → List String
  | ⟨source, _, projection, filter, sort, _, _, _⟩ =>
    Expression.names source ++
    (match projection with
      | some p => Projection.names p
      | none => []) ++
    (match filter with
      | some f => Filter.names f
      | none => []) ++
    match sort with
      | some s => SortOrder.names s
      | none => []

end

/-- The names of an assignment. -/
def Assignment.names (a : Assignment) : List String := a.column.names ++ a.value.names

/-- The names of a condition that may be missing. -/
def conditionNames : Option Filter → List String
  | some f => f.names
  | none => []

/-- The names of a projection that may be missing. -/
def projectionNames : Option Projection → List String
  | some p => p.names
  | none => []

/-- The names of an order that may be missing. -/
def orderNames : Option SortOrder → List String
  | some o => o.names
  | none => []

theorem SelectQuery.names_eq (q : SelectQuery) :
    q.names = q.source.names ++ projectionNames q.projection ++ conditionNames q.filter ++
      orderNames q.sort := by
  obtain ⟨source, distinct, projection, filter, sort, limit, offset, lock⟩ := q
  cases projection <;> cases filter <;> cases sort <;> rfl

/-- The names and the raw texts of a statement. -/
def Statement.names : Statement → List String
  | .select q => q.names
  | .insert s => s.target.names ++ s.values.flatMap Assignment.names
  | .update s => s.target.names ++ s.assignments.flatMap Assignment.names ++ conditionNames s.filter
  | .delete s => s.target.names ++ conditionNames s.filter

/-- The names of tables and columns that a data model maps to. -/
def DataModel.names (m : DataModel) : Set String := fun name =>
  (∃ entity, ∃ table ∈ m.table? entity, name ∈ table.schema ∨ name = table.table) ∨
    ∃ entity property, name ∈ m.column? entity property

/-- The names that a data model, if there is one, maps to. -/
def modelNames (model : Option DataModel) : Set String := fun name => ∃ m ∈ model, name ∈ m.names

/-! ## Plain texts -/

/-- Every character of a text is plain. -/
def Plain (plain : Char → Prop) (s : String) : Prop := ∀ c ∈ s.toList, plain c

/-- Every character but the colon is plain. -/
def Admits (plain : Char → Prop) : Prop := ∀ c, c ≠ ':' → plain c

/-- Every character that means nothing in a finished text is plain. -/
def Writable (plain : Char → Prop) : Prop := ∀ c, isMark c = false → plain c

/-- Every character of some texts is plain. -/
def AllPlain (plain : Char → Prop) (names : List String) : Prop := ∀ s ∈ names, Plain plain s

section Texts

variable {plain : Char → Prop}

theorem plain_append {s t : String} (hs : Plain plain s) (ht : Plain plain t) :
    Plain plain (s ++ t) := by
  intro c hc
  rw [String.toList_append, List.mem_append] at hc
  exact hc.elim (hs c) (ht c)

@[simp] theorem allPlain_nil : AllPlain plain [] := by simp [AllPlain]

@[simp] theorem allPlain_cons {s : String} {names : List String} :
    AllPlain plain (s :: names) ↔ Plain plain s ∧ AllPlain plain names := by
  simp [AllPlain]

@[simp] theorem allPlain_append {a b : List String} :
    AllPlain plain (a ++ b) ↔ AllPlain plain a ∧ AllPlain plain b := by
  simp [AllPlain, or_imp, forall_and]

@[simp] theorem allPlain_toList {o : Option String} :
    AllPlain plain o.toList ↔ ∀ s ∈ o, Plain plain s := by
  simp [AllPlain]

/-- A text without a colon is plain. -/
theorem plain_of_no_colon (hplain : Admits plain) {s : String} (h : ':' ∉ s.toList) :
    Plain plain s := by
  intro c hc
  exact hplain c fun heq => h (heq ▸ hc)

theorem Admits.writable (hplain : Admits plain) : Writable plain := by
  intro c hc
  refine hplain c ?_
  rintro rfl
  exact absurd hc (by decide)

theorem admits_any : Admits fun _ => True := fun _ _ => trivial

theorem admits_no_colon : Admits (· ≠ ':') := fun _ h => h

/-- A text of characters that mean nothing is plain. -/
theorem plain_of_unmarked (hplain : Writable plain) {s : String} (h : Unmarked s) : Plain plain s :=
  fun c hc => hplain c (h c hc)

theorem plain_qualified (hplain : Writable plain) {t : TableName}
    (hschema : ∀ s ∈ t.schema, Plain plain s) (htable : Plain plain t.table) :
    Plain plain t.qualified := by
  unfold TableName.qualified
  cases h : t.schema with
  | none => exact htable
  | some schema =>
    have hdot : Plain plain "." := plain_of_unmarked hplain (by decide)
    exact plain_append (plain_append (hschema schema (by rw [h]; rfl)) hdot) htable

theorem isMark_of_safe {c : Char} (h : Alias.isSafe c = true) : isMark c = false := by
  rw [isMark, Bool.or_eq_false_iff, Bool.or_eq_false_iff, beq_eq_false_iff_ne, beq_eq_false_iff_ne,
    beq_eq_false_iff_ne]
  refine ⟨⟨?_, ?_⟩, ?_⟩ <;> rintro rfl <;> exact absurd h (by decide)

namespace Alias

variable {c : Char}

theorem isSafe_of_mem_stem {name : String} (h : c ∈ (stem name).toList) : isSafe c = true := by
  rw [stem, String.toList_ofList] at h
  obtain ⟨given, _, rfl⟩ := List.mem_map.mp h
  split
  · assumption
  · rfl

theorem isSafe_of_mem_toString {n : Nat} (h : c ∈ (toString n).toList) : isSafe c = true := by
  rw [Nat.toString_eq_ofList_toDigits, String.toList_ofList] at h
  have hdigit := Text.isDecimalDigit_of_mem_natDigits h
  rw [Text.isDecimalDigit, Bool.and_eq_true, decide_eq_true_eq, decide_eq_true_eq] at hdigit
  simp [isSafe, hdigit]

/-- A generated alias has safe characters only. -/
theorem isSafe_of_mem_format {name : String} {duplicate sequence : Nat}
    (h : c ∈ (format (stem name) duplicate sequence).toList) : isSafe c = true := by
  have hline : ∀ c ∈ "_".toList, isSafe c = true := by
    intro c hc
    obtain rfl : c = '_' := List.mem_singleton.mp hc
    rfl
  simp only [format, String.toList_append, List.mem_append] at h
  rcases h with (((h | h) | h) | h) | h
  · exact isSafe_of_mem_stem h
  · exact hline c h
  · exact isSafe_of_mem_toString h
  · exact hline c h
  · exact isSafe_of_mem_toString h

end Alias

theorem unmarked_next (g : AliasGenerator) (name : String) (sequence : Nat) :
    Unmarked (g.next name sequence).1 :=
  fun _ hc => isMark_of_safe (Alias.isSafe_of_mem_format hc)

/-! ## Plain scopes -/

/-- What a binding writes is plain. -/
structure Binding.IsPlain (plain : Char → Prop) (b : Binding) : Prop where
  table : Plain plain b.table
  aliasName : ∀ a ∈ b.aliasName, Plain plain a

/-- What the bindings of a scope write is plain. -/
def Scope.IsPlain (plain : Char → Prop) (s : Scope) : Prop :=
  ∀ entry ∈ s.bindings, entry.2.IsPlain plain

/-- A scope has a target of the same table already. -/
def Scope.holds (s : Scope) (t : RelationalTarget) : Bool :=
  match s.bindings.lookup Scope.rootKey with
  | some b => b.table == t.table
  | none => false

theorem Scope.seed_eq (s : Scope) (mode : AliasMode) (t : RelationalTarget) :
    s.seed mode t = if s.holds t then s else
      (s.tableAlias mode t.aliasName t.table).2.bindTarget mode t
        (s.tableAlias mode t.aliasName t.table).1 := rfl

theorem Scope.isPlain_inside (chain : List Scope) (kind : ScopeKind) :
    (Scope.inside chain kind).IsPlain plain := by
  simp [Scope.IsPlain, Scope.inside]

theorem Scope.isPlain_root : Scope.root.IsPlain plain := by
  simp [Scope.IsPlain, Scope.root]

theorem Scope.IsPlain.bind {s : Scope} (hs : s.IsPlain plain) (key : String) {b : Binding}
    (hb : b.IsPlain plain) : (s.bind key b).IsPlain plain := by
  intro entry hentry
  rcases List.mem_cons.mp hentry with rfl | hentry
  · exact hb
  · exact hs entry (List.mem_filter.mp hentry).1

theorem Scope.IsPlain.tableAlias {s : Scope} (hplain : Writable plain) (hs : s.IsPlain plain)
    (mode : AliasMode) {given : Option String} (hgiven : ∀ a ∈ given, Plain plain a)
    (name : String) :
    (∀ a ∈ (s.tableAlias mode given name).1, Plain plain a) ∧
      (s.tableAlias mode given name).2.IsPlain plain := by
  unfold Scope.tableAlias
  cases mode with
  | unsupported => simpa using hs
  | explicitOnly => exact ⟨hgiven, hs⟩
  | auto =>
    cases given with
    | some a => exact ⟨hgiven, hs⟩
    | none =>
      refine ⟨?_, hs⟩
      intro a ha
      simp only [Scope.generateAlias, Option.mem_def, Option.some.injEq] at ha
      rw [← ha]
      exact plain_of_unmarked hplain (unmarked_next _ _ _)

/-- What a scope writes of a join is plain. -/
structure Join.IsPlain (plain : Char → Prop) (j : Join) : Prop where
  source : Plain plain j.source
  aliasName : ∀ a ∈ j.aliasName, Plain plain a

/-- What a scope writes of a target and of its joins is plain. -/
structure RelationalTarget.IsPlain (plain : Char → Prop) (t : RelationalTarget) : Prop where
  schema : ∀ s ∈ t.schema, Plain plain s
  table : Plain plain t.table
  aliasName : ∀ a ∈ t.aliasName, Plain plain a
  joins : ∀ j ∈ t.joins, j.IsPlain plain

theorem Join.isPlain_of_names {j : Join} (h : AllPlain plain j.names) : j.IsPlain plain := by
  obtain ⟨kind, name, source, aliasName, on, entity⟩ := j
  cases on <;> simp only [Join.names, allPlain_cons, allPlain_append, allPlain_toList] at h <;>
    exact ⟨h.1.1.2.1, h.1.1.2.2⟩

theorem Join.isPlain_of_allNames {joins : List Join} (h : AllPlain plain (Join.allNames joins)) :
    ∀ j ∈ joins, j.IsPlain plain := by
  induction joins with
  | nil => simp
  | cons j rest ih =>
    rw [Join.allNames, allPlain_append] at h
    exact List.forall_mem_cons.mpr ⟨Join.isPlain_of_names h.1, ih h.2⟩

theorem RelationalTarget.isPlain_of_names {t : RelationalTarget} (h : AllPlain plain t.names) :
    t.IsPlain plain := by
  obtain ⟨schema, table, aliasName, joins, entity⟩ := t
  simp only [RelationalTarget.names, allPlain_cons, allPlain_append, allPlain_toList] at h
  exact ⟨h.1.1.1.2, h.1.1.1.1, h.1.1.2, Join.isPlain_of_allNames h.2⟩

/-- The name of a table, with its schema, is plain if its parts are. -/
theorem RelationalTarget.IsPlain.qualified (hplain : Writable plain) {t : RelationalTarget}
    (h : t.IsPlain plain) : Plain plain (TableName.qualified ⟨t.schema, t.table⟩) :=
  plain_qualified hplain h.schema h.table

theorem Scope.IsPlain.bindJoin {s : Scope} (hplain : Writable plain) (hs : s.IsPlain plain)
    {mode : AliasMode} {j : Join} (hj : j.IsPlain plain) :
    (s.bindJoin mode j).IsPlain plain := by
  obtain ⟨hsource, halias⟩ := hj
  have hr := hs.tableAlias hplain mode halias j.name
  unfold Scope.bindJoin
  rcases h : s.tableAlias mode j.aliasName j.name with ⟨given, s'⟩
  rw [h] at hr
  obtain ⟨hgiven, hs'⟩ := hr
  have hb : Binding.IsPlain plain ⟨none, j.source, given, j.entity⟩ := ⟨hsource, hgiven⟩
  refine Scope.IsPlain.bind ?_ j.name hb
  split
  · exact hs'.bind _ hb
  · exact hs'

theorem Scope.IsPlain.bindJoins {s : Scope} (hplain : Writable plain) (hs : s.IsPlain plain)
    {mode : AliasMode} {joins : List Join} (hjoins : ∀ j ∈ joins, j.IsPlain plain) :
    (joins.foldl (fun s j => s.bindJoin mode j) s).IsPlain plain := by
  induction joins generalizing s with
  | nil => exact hs
  | cons j rest ih =>
    exact ih (hs.bindJoin hplain (hjoins j List.mem_cons_self))
      fun j' hj => hjoins j' (List.mem_cons_of_mem j hj)

theorem Scope.IsPlain.bindTarget {s : Scope} (hplain : Writable plain) (hs : s.IsPlain plain)
    {mode : AliasMode} {t : RelationalTarget} (ht : t.IsPlain plain)
    {aliasName : Option String} (halias : ∀ a ∈ aliasName, Plain plain a) :
    (s.bindTarget mode t aliasName).IsPlain plain := by
  obtain ⟨schema, table, given, joins, entity⟩ := t
  obtain ⟨_, htable, _, hjoins⟩ := ht
  have hb : Binding.IsPlain plain ⟨schema, table, aliasName, entity⟩ := ⟨htable, halias⟩
  unfold Scope.bindTarget
  refine Scope.IsPlain.bindJoins hplain (Scope.IsPlain.bind ?_ _ hb) hjoins
  cases entity with
  | none => exact (hs.bind _ hb).bind _ hb
  | some entity => exact ((hs.bind _ hb).bind _ hb).bind _ hb

theorem Scope.IsPlain.seed {s : Scope} (hplain : Writable plain) (hs : s.IsPlain plain)
    {mode : AliasMode} {t : RelationalTarget} (ht : t.IsPlain plain) :
    (s.seed mode t).IsPlain plain := by
  rw [Scope.seed_eq]
  obtain ⟨hgiven, hs'⟩ := hs.tableAlias hplain mode ht.aliasName t.table
  split
  · exact hs
  · exact hs'.bindTarget hplain ht hgiven

theorem Scope.IsPlain.seedUnaliased {s : Scope} (hplain : Writable plain) (hs : s.IsPlain plain)
    {mode : AliasMode} {t : RelationalTarget} (ht : t.IsPlain plain) :
    (s.seedUnaliased mode t).IsPlain plain :=
  hs.bindTarget hplain ht (by simp)

/-- What is found in a chain of scopes is found in one of them. -/
theorem lookup_of_findBinding {key : String} {useParent : Bool} {chain : List Scope} {b : Binding}
    (hb : findBinding key useParent chain = some b) :
    ∃ s ∈ chain, s.bindings.lookup key = some b := by
  induction chain generalizing useParent with
  | nil => simp [findBinding] at hb
  | cons s outer ih =>
    have hrest : ∀ up, findBinding key up outer = some b →
        ∃ o ∈ s :: outer, o.bindings.lookup key = some b := by
      intro up hup
      obtain ⟨o, ho, hlookup⟩ := ih hup
      exact ⟨o, List.mem_cons_of_mem s ho, hlookup⟩
    unfold findBinding at hb
    cases h : s.bindings.lookup key with
    | some b' =>
      simp only [h, Option.some.injEq] at hb
      subst hb
      exact ⟨s, List.mem_cons_self, h⟩
    | none =>
      simp only [h] at hb
      -- a query scope passes the search on outwards, a statement scope only if it is asked to
      cases hkind : s.kind with
      | query =>
        simp only [hkind] at hb
        exact hrest _ hb
      | statement =>
        cases useParent with
        | true =>
          simp only [hkind, if_true] at hb
          exact hrest _ hb
        | false => simp [hkind] at hb

theorem mem_of_lookup_eq_some {α β : Type} [BEq α] [LawfulBEq α] {a : α} {b : β}
    {entries : List (α × β)} (h : entries.lookup a = some b) : (a, b) ∈ entries := by
  obtain ⟨before, after, rfl, _⟩ := List.lookup_eq_some_iff.mp h
  exact List.mem_append_right before List.mem_cons_self

/-- What is found in a chain of scopes is bound in one of them. -/
theorem exists_of_findBinding {key : String} {useParent : Bool} {chain : List Scope} {b : Binding}
    (hb : findBinding key useParent chain = some b) : ∃ s ∈ chain, (key, b) ∈ s.bindings := by
  obtain ⟨s, hs, hlookup⟩ := lookup_of_findBinding hb
  exact ⟨s, hs, mem_of_lookup_eq_some hlookup⟩

/-- What a chain of plain scopes finds is plain. -/
theorem findBinding_isPlain {key : String} {useParent : Bool} {chain : List Scope}
    (hchain : ∀ s ∈ chain, s.IsPlain plain) {b : Binding}
    (hb : findBinding key useParent chain = some b) : b.IsPlain plain := by
  obtain ⟨s, hs, hmem⟩ := exists_of_findBinding hb
  exact hchain s hs _ hmem

end Texts

end SqlCompose
