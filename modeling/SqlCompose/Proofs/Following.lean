import SqlCompose.Proofs.Coupling
import SqlCompose.Proofs.Fragments
import SqlCompose.Proofs.Sources
import SqlCompose.Proofs.Valid

/-!
# SqlCompose.Proofs.Following -- paths, values and sources side by side

Paths find the same columns on both sides, values get placeholders at the same
time, and sources are written with the same tables, whose joins have conditions
that follow each other.
-/

namespace SqlCompose

open Compose

/-- The number of values that items hold. -/
def Item.count (items : List Item) : Nat := (Item.allValues items).length

namespace Item

@[simp] theorem count_nil : count [] = 0 := rfl

@[simp] theorem count_append (a b : List Item) : count (a ++ b) = count a + count b := by
  rw [count, allValues_append, List.length_append]
  rfl

@[simp] theorem count_value (p : Parameter) (items : List Item) :
    count (.value p :: items) = count items + 1 := by
  simp [count, allValues, values, Nat.add_comm]

@[simp] theorem count_select (q : SelectQuery) (enclosed : Bool) (inner items : List Item) :
    count (.select q enclosed inner :: items) = count inner + count items := by
  simp [count, allValues, values]

@[simp] theorem count_map_value {α : Type} (f : α → Parameter) (as : List α) :
    count (as.map fun a => .value (f a)) = as.length := by
  induction as with
  | nil => rfl
  | cons a rest ih => simp [ih]

end Item

/-- A sub-select holds its values in parentheses or out of them. -/
theorem Expression.count_outline (d : Dialect) (e : Expression) (enclosed : Bool) :
    Item.count (e.outline d enclosed) = Item.count (e.outline d false) := by
  cases e <;> simp [Expression.outline]

theorem Expression.count_outlines (d : Dialect) (es : List Expression) (enclosed : Bool) :
    Item.count (Expression.outlines d enclosed es) = Item.count (Expression.outlines d false es) := by
  induction es with
  | nil => rfl
  | cons e rest ih =>
    rw [Expression.outlines, Expression.outlines, Item.count_append, Item.count_append, ih,
      Expression.count_outline]

variable {base : Context} {C : Coupling base} {K : String → Prop} {m n : Nat}

namespace Coupling

/-! ## Texts that are the same on both sides -/

/-- The same plain text. -/
theorem Follows.same_text {x y : Compose String} (h : C.Follows K n Eq x y)
    (hx : x.Emits base C.plain fun _ text => Plain C.plain text) :
    C.Follows K n C.numbering.Texts x y := by
  intro chain chain' s s' a t hrel hroom hrun
  obtain ⟨_, _, _, hplain⟩ := hx hrel.plain hrel.chain_plain hrun
  obtain ⟨b, t', hy, rfl, ht, hsize⟩ := h hrel hroom hrun
  exact ⟨a, t', hy, .of_plain (hplain _ (.refl _)), ht, hsize⟩

/-- A path whose key is known refers to the same column. -/
theorem follows_path (hmodel : ∀ s ∈ modelNames base.model, Plain C.plain s) {p : Path}
    (h : AllPlain C.plain p.names) (hneeds : ∀ need ∈ p.needs, C.Meets K need) :
    C.Follows K 0 C.numbering.Texts p.sql p.sql := by
  refine Follows.same_text ?_ (emits_path C.admits.writable hmodel h)
  unfold Path.sql
  cases hparent : p.parent with
  | none =>
    refine .first (Follows.lookup_own Scope.rootKey) fun b b' hb => ?_
    obtain ⟨rfl, _⟩ := hb
    refine .first Follows.column fun column column' hcolumn => ?_
    subst hcolumn
    cases b' with
    | none => exact .pure rfl
    | some b => exact .pure rfl
  | some parent =>
    -- only a path with a parent looks beyond its scope, and what it looks for is known in both
    have hkey : K parent.key := hneeds (.key parent.key) (by simp [Path.needs, hparent])
    refine .first Follows.aliasMode fun mode mode' hmode => ?_
    obtain ⟨rfl, rfl⟩ := hmode
    refine .first (Follows.lookup (P := fun _ => True) fun _ _ _ _ hrel =>
      ⟨hrel.findBinding_known hkey, trivial⟩) fun b b' hb => ?_
    obtain ⟨rfl, _⟩ := hb
    refine .first (Follows.lookup (P := fun _ => True) fun _ _ _ _ hrel =>
      ⟨hrel.findAlias_known hkey, trivial⟩) fun aliasName aliasName' halias => ?_
    obtain ⟨rfl, _⟩ := halias
    refine .first Follows.column fun column column' hcolumn => ?_
    subst hcolumn
    exact .pure rfl

/-! ## Values -/

theorem alike_literal (C : Coupling base) (d : Dialect) (l : Literal) :
    C.alike (l.parameter d) ((l.exchange C.exchange).parameter d) := by
  obtain ⟨value, temporal⟩ := l
  have hvalue := C.alike_value value
  cases temporal with
  | none => exact hvalue
  | some kind =>
    have htemporal := C.alike_temporal kind hvalue
    simp only [Literal.exchange, Literal.parameter]
    cases d.temporalTemplate kind with
    | none => exact htemporal
    | some template => exact C.alike_template template htemporal

/-- A value that is no list adds one parameter. -/
theorem follows_placeholder (hregistry : base.registry.IsPlain) {l l' : Literal}
    (hvalid : l.validate = .ok () → l'.validate = .ok ())
    (hlist : l'.value.isList = l.value.isList)
    (halike : C.alike (l.parameter base.dialect) (l'.parameter base.dialect)) :
    C.Follows K 1 C.numbering.Texts l.placeholder l'.placeholder := by
  refine .first (Follows.resolveParameter hregistry hvalid hlist) fun p p' hp => ?_
  obtain ⟨rfl, rfl⟩ := hp
  exact .addParameter halike

/-- A literal adds its value, a list the values in it. -/
theorem follows_literal (hregistry : base.registry.IsPlain) (l : Literal) :
    C.Follows K (Item.count (l.items base.dialect)) C.numbering.Texts l.resolveSql
      ((l.exchange C.exchange).resolveSql) := by
  refine .resolveText hregistry (by rfl) Literal.valid_exchange fun _ => ?_
  obtain ⟨value, temporal⟩ := l
  -- a list is its values one by one, and anything else is one value
  have hitem : ∀ v, C.Follows K 1 C.numbering.Texts (Literal.placeholder ⟨v, temporal⟩)
      (Literal.placeholder ⟨C.exchange.value v, temporal⟩) := fun v =>
    follows_placeholder hregistry Literal.valid_exchange (C.exchange.isList_value v)
      (C.alike_literal base.dialect ⟨v, temporal⟩)
  cases hv : value.isList with
  | true =>
    cases value with
    | list items =>
      have hnames : C.Follows K (total (fun _ => 1) items) (List.Forall₂ C.numbering.Texts)
          (items.mapM fun v => Literal.placeholder ⟨v, temporal⟩)
          ((items.map C.exchange.value).mapM fun v => Literal.placeholder ⟨v, temporal⟩) :=
        .mapM (fun _ => 1) fun v _ => hitem v
      have hcount : Item.count (Literal.items base.dialect ⟨.list items, temporal⟩) =
          total (fun _ => 1) items := by
        rw [total_const, Nat.one_mul, Literal.items, Item.count_map_value]
      simp only [Literal.exchange, Literal.sql, C.exchange.value_list]
      exact (hnames.last fun names names' h => .pure (.commas h)).cast hcount
    | _ => cases hv
  | false =>
    have hlist : ((Literal.exchange C.exchange ⟨value, temporal⟩).value).isList = false := by
      rw [Literal.exchange, C.exchange.isList_value]
      exact hv
    have hcount : Item.count (Literal.items base.dialect ⟨value, temporal⟩) = 1 := by
      cases value with
      | list items => cases hv
      | _ => rfl
    rw [Literal.sql_of_not_list hv, Literal.sql_of_not_list hlist]
    exact (hitem value).cast hcount

/-- The pattern of a match is a literal of its own. -/
theorem follows_pattern (hregistry : base.registry.IsPlain) (text : String) (mode : MatchMode)
    (ignoreCase : Bool) :
    C.Follows K 1 C.numbering.Texts
      (Literal.resolveSql { value := .string (Like.pattern base.dialect text mode ignoreCase) })
      (Literal.resolveSql
        { value := .string (Like.pattern base.dialect (C.exchange.text text) mode ignoreCase) }) := by
  refine .resolveText hregistry (by rfl) (fun _ => rfl) fun _ => ?_
  exact follows_placeholder hregistry (fun _ => rfl) rfl
    (C.alike_pattern base.dialect text mode ignoreCase)

/-- Raw SQL adds its values in the places of its question marks. -/
theorem follows_fill {raw raw' : RawSql} {cs : List Char} (hcs : ∀ c ∈ cs, C.plain c)
    (quoted : Bool) (values : List Value) :
    C.Follows K values.length C.numbering.Renumbers (raw.fill quoted values cs)
      (raw'.fill quoted (values.map C.exchange.value) cs) := by
  -- on the text: a marker outside of literals takes a value, every other character none
  induction cs generalizing quoted values with
  | nil =>
    cases values with
    | nil => exact .pure .nil
    | cons v rest => exact .throw
  | cons c rest ih =>
    have ih := ih fun c' hc => hcs c' (List.mem_cons_of_mem c hc)
    have hc := hcs c List.mem_cons_self
    cases values with
    | nil =>
      rw [List.map_nil, RawSql.fill, RawSql.fill]
      split
      · exact .throw
      · exact (ih _ []).last fun out out' hout => .pure (.char hc hout)
    | cons v others =>
      rw [List.map_cons, RawSql.fill, RawSql.fill]
      split
      · refine (Follows.bind (.addParameter (C.alike_value v)) fun name name' hname => ?_).cast
          (Nat.add_comm others.length 1)
        exact (ih quoted others).last fun out out' hout => .pure (Numbering.Renumbers.append hname hout)
      · exact (ih _ (v :: others)).last fun out out' hout => .pure (.char hc hout)

theorem follows_raw {raw : RawSql} (h : Plain C.plain raw.text) :
    C.Follows K raw.parameters.length C.numbering.Texts raw.sql
      ((raw.exchange C.exchange).sql) := by
  refine (follows_fill h false raw.parameters).last fun out out' hout => .pure ?_
  unfold Numbering.Texts
  rw [String.toList_ofList, String.toList_ofList]
  exact hout

end Coupling

/-! ## Sources -/

namespace Coupling

theorem follows_written {x y : Compose (List Token)}
    (h : C.Follows K n (C.numbering.Tokens base.dialect) x y) :
    C.Follows K n C.numbering.Texts (written x) (written y) :=
  h.last fun _ _ htokens => .write htokens

/-- The conditions of two joins follow each other, if the joins have any. -/
inductive Condition (C : Coupling base) (K : String → Prop) :
    Nat → Option (Compose String) → Option (Compose String) → Prop
  | none : Condition C K 0 none none
  | some {n : Nat} {c c' : Compose String} :
      C.Follows K n C.numbering.Texts c c' → Condition C K n (some c) (some c')

/-- So do the conditions of several joins. -/
inductive Conditions (C : Coupling base) (K : String → Prop) :
    Nat → List (Option (Compose String)) → List (Option (Compose String)) → Prop
  | nil : Conditions C K 0 [] []
  | cons {m n : Nat} {c c' : Option (Compose String)} {cs cs' : List (Option (Compose String))} :
      Condition C K m c c' → Conditions C K n cs cs' → Conditions C K (m + n) (c :: cs) (c' :: cs')

theorem follows_conditionTokens {c c' : Option (Compose String)} (h : C.Condition K n c c') :
    C.Follows K n (C.numbering.Tokens base.dialect) (conditionTokens c) (conditionTokens c') := by
  cases h with
  | none => exact .pure .nil
  | some hcondition =>
    refine hcondition.last fun sql sql' hsql => .pure ?_
    exact .fixed (by decide) (.fixed (by decide) (.fixed (by decide) (.fragment hsql .nil)))

/-- Two sources of the same table, with joins whose conditions follow each other. -/
structure Sources (C : Coupling base) (K : String → Prop) (n : Nat) (s s' : Source) : Prop where
  target : s'.target = s.target.exchange C.exchange
  names : AllPlain C.plain s.target.names
  length : s.conditions.length = s.target.joins.length
  conditions : C.Conditions K n s.conditions s'.conditions

/-- The joins of two sources are written the same way. -/
theorem follows_joinTokens {joins : List Join} {conditions conditions' : List (Option (Compose String))}
    (hlength : conditions.length = joins.length) (h : C.Conditions K n conditions conditions') :
    C.Follows K n (C.numbering.Tokens base.dialect) (joinTokens (joins.zip conditions))
      (joinTokens ((joins.map (Join.exchange C.exchange)).zip conditions')) := by
  induction h generalizing joins with
  | nil =>
    rw [List.zip_nil_right, List.zip_nil_right]
    exact .pure .nil
  | cons hcondition _ ih =>
    cases joins with
    | nil => simp at hlength
    | cons j joins =>
      rw [List.map_cons, List.zip_cons_cons, List.zip_cons_cons, joinTokens, joinTokens,
        Join.exchange_eq]
      -- the table and the alias of a join are read in the scope, not in the join
      refine .first (Follows.lookup_own j.name) fun b b' hb => ?_
      obtain ⟨rfl, hplain⟩ := hb
      cases b' with
      | none => exact .refuse
      | some b =>
        have hb := hplain b rfl
        refine (follows_conditionTokens hcondition).bind fun on on' hon => ?_
        refine (ih (by simpa using hlength)).last fun others others' hothers => .pure ?_
        have htable : C.numbering.Tokens base.dialect [.space, .join j.kind, .space, .ident b.table]
            [.space, .join j.kind, .space, .ident b.table] :=
          .fixed (by decide) (.fixed (by cases j.kind <;> decide)
            (.fixed (by decide) (.cons (.of_plain hb.table) .nil)))
        exact ((htable.append (.aliased hb.aliasName)).append hon).append hothers

/-- The texts of two sources. -/
theorem Sources.follows_text {s s' : Source} (h : C.Sources K n s s') :
    C.Follows K n C.numbering.Texts s.text s'.text := by
  obtain ⟨htarget, hnames, hlength, hconditions⟩ := h
  have htable := (RelationalTarget.isPlain_of_names hnames).qualified C.admits.writable
  unfold Source.text
  rw [htarget]
  refine .first (.seed hnames) fun _ _ _ => ?_
  refine .first (Follows.lookup_own Scope.rootKey) fun root root' hroot => ?_
  obtain ⟨rfl, hplain⟩ := hroot
  have hgiven : ∀ a ∈ root'.bind Binding.aliasName, Plain C.plain a := by
    intro a ha
    obtain ⟨b, hb, ha⟩ := Option.bind_eq_some_iff.mp ha
    exact (hplain b hb).aliasName a ha
  rw [RelationalTarget.exchange_eq]
  refine (follows_joinTokens hlength hconditions).last fun joins joins' hjoins => .write ?_
  exact Numbering.Tokens.append (.cons (.of_plain htable) (.aliased hgiven)) hjoins

theorem Sources.follows_sql (hregistry : base.registry.IsPlain) {s s' : Source}
    (h : C.Sources K n s s') :
    C.Follows K n C.numbering.Texts s.resolveSql s'.resolveSql := by
  refine .resolveText hregistry (by rfl) (fun hvalid => ?_) fun _ => h.follows_text
  rw [h.target]
  exact RelationalTarget.valid_exchange s.target hvalid

end Coupling

end SqlCompose
