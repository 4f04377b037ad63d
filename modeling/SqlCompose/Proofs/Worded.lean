import SqlCompose.Proofs.Aliases
import SqlCompose.Proofs.Declared
import SqlCompose.Proofs.Ingredients
import SqlCompose.Proofs.Margins

/-!
# SqlCompose.Proofs.Worded -- names that are words, and scopes with such names

A name of letters, digits and underscores is one word of a text, and names with dots between
them are such words kept apart. What scopes have bound is made of the names that a statement
has and of generated aliases, which are words as well.
-/

namespace SqlCompose

open Lexeme

/-! ## Names -/

/-- A name that is one word. If it matters, it is not the word ORDER. -/
structure IsIdentifier (strict : Bool) (s : String) : Prop where
  word : ∀ c ∈ s.toList, Text.isWordChar c = true
  unordered : strict = true → (Lexeme.word s.toList).isWord "order" = false

instance (strict : Bool) (s : String) : Decidable (IsIdentifier strict s) :=
  have : Decidable (∀ c ∈ s.toList, Text.isWordChar c = true) :=
    List.decidableBAll (fun c => Text.isWordChar c = true) s.toList
  decidable_of_iff ((∀ c ∈ s.toList, Text.isWordChar c = true) ∧
      (strict = true → (Lexeme.word s.toList).isWord "order" = false))
    ⟨fun h => ⟨h.1, h.2⟩, fun h => ⟨h.word, h.unordered⟩⟩

/-- Names that are words, with dots between them. -/
inductive IsDotted (strict : Bool) : String → Prop
  | name {s : String} : IsIdentifier strict s → IsDotted strict s
  | dot {a b : String} : IsDotted strict a → IsDotted strict b → IsDotted strict (a ++ "." ++ b)

variable {strict : Bool} {value : Parameter → Prop} {acc : Accumulator} {rule : Rule} {a s : String}

theorem IsIdentifier.isSolid (h : IsIdentifier strict s) : IsSolid s :=
  fun c hc => isDivider_of_isWordChar (h.word c hc)

theorem LaysText.name (h : IsIdentifier strict s) (hrule : rule = .unordered → strict = true) :
    LaysText value acc rule s := by
  refine Lays.fixed (fun hmem => absurd (h.word _ hmem) (by decide)) ?_
  exact conforms_word h.word fun heq => h.unordered (hrule heq)

theorem LaysText.dotted (h : IsDotted strict s) (hrule : rule = .unordered → strict = true) :
    LaysText value acc rule s := by
  induction h with
  | name hname => exact name hname hrule
  | dot _ _ iha ihb => exact join (by decide) iha ihb

/-! ## Generated aliases -/

theorem isWordChar_of_safe {c : Char} (h : Alias.isSafe c = true) : Text.isWordChar c = true := by
  have hascii : ∀ n < 128, Alias.isSafe (Char.ofNat n) = true →
      Text.isWordChar (Char.ofNat n) = true := by decide
  have hsmall : c.toNat < 128 := by
    simp only [Alias.isSafe, Bool.or_eq_true, Bool.and_eq_true, decide_eq_true_eq, beq_iff_eq] at h
    rcases h with (h | h) | rfl
    · omega
    · omega
    · decide
  have hc := hascii c.toNat hsmall
  rw [Char.ofNat_toNat] at hc
  exact hc h

/-- A generated alias is a word, and none of the language because of its underscores. -/
theorem isIdentifier_next (g : AliasGenerator) (name : String) (sequence : Nat) :
    IsIdentifier strict (g.next name sequence).1 := by
  refine ⟨fun c hc => isWordChar_of_safe (Alias.isSafe_of_mem_format hc), fun _ => ?_⟩
  apply Bool.eq_false_iff.mpr
  intro horder
  have heq : (g.next name sequence).1.toList.map Char.toLower = "order".toList := eq_of_beq horder
  have hline : '_' ∈ "order".toList := by
    rw [← heq]
    exact List.mem_map.mpr ⟨'_', Alias.IsGenerated.line_mem ⟨_, _, _, rfl⟩, by decide⟩
  exact absurd hline (by decide)

/-! ## Scopes -/

/-- What a binding writes is made of words. -/
structure Binding.IsWorded (strict : Bool) (b : Binding) : Prop where
  table : IsDotted strict b.table
  aliasName : ∀ a ∈ b.aliasName, IsIdentifier strict a

theorem Binding.IsWorded.qualifier {b : Binding} (h : b.IsWorded strict) :
    IsDotted strict b.qualifier := by
  unfold Binding.qualifier
  cases halias : b.aliasName with
  | none => exact h.table
  | some a => exact .name (h.aliasName a halias)

/-- What a scope writes of a target and of its joins is made of words. -/
structure RelationalTarget.IsWorded (strict : Bool) (t : RelationalTarget) : Prop where
  schema : ∀ s ∈ t.schema, IsIdentifier strict s
  table : IsIdentifier strict t.table
  aliasName : ∀ a ∈ t.aliasName, IsIdentifier strict a
  joins : ∀ j ∈ t.joins, IsDotted strict j.source ∧ ∀ a ∈ j.aliasName, IsIdentifier strict a

/-- A table with its schema is made of words. -/
theorem isDotted_qualified {t : TableName} (hschema : ∀ s ∈ t.schema, IsIdentifier strict s)
    (htable : IsIdentifier strict t.table) : IsDotted strict t.qualified := by
  unfold TableName.qualified
  cases h : t.schema with
  | none => exact .name htable
  | some schema => exact .dot (.name (hschema schema (by rw [h]; rfl))) (.name htable)

namespace Scope

variable {scope : Scope} {mode : AliasMode} {t : RelationalTarget}

/-- What the keys of a scope find is made of words. -/
def IsWorded (strict : Bool) (scope : Scope) : Prop :=
  ∀ key b, scope.bindings.lookup key = some b → b.IsWorded strict

theorem isWorded_root : Scope.root.IsWorded strict := by
  intro key b hb
  cases hb

theorem isWorded_inside (chain : List Scope) (kind : ScopeKind) :
    (Scope.inside chain kind).IsWorded strict := by
  intro key b hb
  cases hb

/-- The alias of a table is the one that was given, or a generated one. -/
theorem isIdentifier_tableAlias {given : Option String} (hgiven : ∀ a ∈ given, IsIdentifier strict a)
    (name : String) : ∀ a ∈ (scope.tableAlias mode given name).1, IsIdentifier strict a := by
  cases mode with
  | unsupported => simp [Scope.tableAlias]
  | explicitOnly => exact hgiven
  | auto =>
    cases given with
    | some a => exact hgiven
    | none =>
      intro a ha
      obtain rfl := Option.some.inj ha
      exact isIdentifier_next _ _ _

/-- A key finds one of the sources that were bound. -/
theorem exists_of_find {key : String} {b : Binding} {xs : List BoundSource}
    (h : BoundSource.find key xs = some b) : ∃ x ∈ xs, x.binding = b := by
  induction xs with
  | nil => cases h
  | cons x rest ih =>
    rcases Option.or_eq_some_iff.mp h with hrest | ⟨_, hx⟩
    · obtain ⟨y, hy, heq⟩ := ih hrest
      exact ⟨y, List.mem_cons_of_mem x hy, heq⟩
    · exact ⟨x, List.mem_cons_self, Option.some.inj (Option.ite_none_right_eq_some.mp hx).2⟩

theorem isWorded_joinSources {joins : List Join}
    (h : ∀ j ∈ joins, IsDotted strict j.source ∧ ∀ a ∈ j.aliasName, IsIdentifier strict a) :
    ∀ x ∈ scope.joinSources mode joins, x.binding.IsWorded strict := by
  induction joins generalizing scope with
  | nil => simp [joinSources]
  | cons j rest ih =>
    obtain ⟨hj, hrest⟩ := List.forall_mem_cons.mp h
    exact List.forall_mem_cons.mpr ⟨⟨hj.1, isIdentifier_tableAlias hj.2 j.name⟩, ih hrest⟩

theorem IsWorded.bindTarget (hscope : scope.IsWorded strict) (ht : t.IsWorded strict)
    {aliasName : Option String} (halias : ∀ a ∈ aliasName, IsIdentifier strict a) :
    (scope.bindTarget mode t aliasName).IsWorded strict := by
  intro key b hb
  rw [lookup_bindTarget] at hb
  rcases Option.or_eq_some_iff.mp hb with hfound | ⟨_, hold⟩
  · obtain ⟨x, hx, rfl⟩ := exists_of_find hfound
    rcases List.mem_cons.mp hx with rfl | hx
    · exact ⟨.name ht.table, halias⟩
    · exact isWorded_joinSources ht.joins x hx
  · exact hscope key b hold

theorem IsWorded.seed (hscope : scope.IsWorded strict) (ht : t.IsWorded strict) :
    (scope.seed mode t).IsWorded strict := by
  rw [Scope.seed_eq]
  split
  · exact hscope
  · refine IsWorded.bindTarget ?_ ht (isIdentifier_tableAlias ht.aliasName t.table)
    unfold IsWorded
    rwa [bindings_tableAlias]

theorem IsWorded.seedUnaliased (hscope : scope.IsWorded strict) (ht : t.IsWorded strict) :
    (scope.seedUnaliased mode t).IsWorded strict := hscope.bindTarget ht nofun

/-- What a chain of such scopes finds is made of words. -/
theorem isWorded_findBinding {key : String} {useParent : Bool} {chain : List Scope}
    (hchain : ∀ o ∈ chain, o.IsWorded strict) {b : Binding}
    (hb : findBinding key useParent chain = some b) : b.IsWorded strict := by
  obtain ⟨o, ho, hlookup⟩ := lookup_of_findBinding hb
  exact hchain o ho key b hlookup

end Scope

end SqlCompose
