import SqlCompose.Proofs.Following

/-!
# SqlCompose.Proofs.Lockstep -- every expression follows itself

An expression with other values is resolved step by step like the expression
itself, also after other parameters and inside other scopes, as long as the
scopes meet its needs. The proof goes along the recursion of the resolution,
with one theorem for each of its functions.
-/

namespace SqlCompose

open Compose

variable {base : Context} {C : Coupling base} {K : String → Prop} {n : Nat}

namespace Coupling

/-! ## Needs -/

/-- All of several needs are met. -/
def MeetsAll (C : Coupling base) (K : String → Prop) (needs : List Need) : Prop :=
  ∀ need ∈ needs, C.Meets K need

theorem meetsAll_append {a b : List Need} :
    C.MeetsAll K (a ++ b) ↔ C.MeetsAll K a ∧ C.MeetsAll K b := by
  simp [MeetsAll, or_imp, forall_and]

/-- Inside a query the keys of its source are known as well. -/
theorem MeetsAll.inner {q : SelectQuery} (h : C.MeetsAll K (q.needs base.model)) :
    C.MeetsAll (inside K (q.source.keys base.model)) (q.innerNeeds base.model) := by
  intro need hneed
  cases hmet : need.isMetBy (q.source.keys base.model) with
  | true =>
    cases need with
    | key k => exact .inr (List.contains_iff_mem.mp hmet)
    | mode m => cases hmet
  | false =>
    have hout : need ∈ q.needs base.model := by
      rw [SelectQuery.needs_eq, List.mem_filter]
      exact ⟨hneed, by rw [hmet]; rfl⟩
    have hmeets := h need hout
    cases need with
    | key k => exact .inl hmeets
    | mode m => exact hmeets

/-! ## Columns and pages -/

/-- At every depth columns get the same aliases, unless these are generated. -/
theorem aliases_deepen {mode : AliasMode} (h : C.depth = 0 ∨ mode ≠ .auto) (sequence : Nat)
    (g : AliasGenerator) (selections : List Selection) :
    Selection.aliases mode (sequence + C.depth) g selections =
      Selection.aliases mode sequence g selections := by
  rcases h with hdepth | hmode
  · rw [hdepth, Nat.add_zero]
  · have halias : ∀ (s : Selection) g, s.columnAlias mode (sequence + C.depth) g =
        s.columnAlias mode sequence g := by
      intro s g
      cases mode with
      | auto => exact absurd rfl hmode
      | _ => rfl
    induction selections generalizing g with
    | nil => rfl
    | cons s rest ih => simp only [Selection.aliases, halias, ih]

theorem columns_zip {N : Numbering} {sqls sqls' : List String} (h : List.Forall₂ N.Texts sqls sqls')
    {aliases : List (Option String)} (hplain : ∀ o ∈ aliases, ∀ a ∈ o, Plain N.plain a) :
    List.Forall₂ N.Columns (List.zipWith ProjectedColumn.mk sqls aliases)
      (List.zipWith ProjectedColumn.mk sqls' aliases) := by
  induction h generalizing aliases with
  | nil => exact .nil
  | cons hsql _ ih =>
    cases aliases with
    | nil => exact .nil
    | cons o aliases =>
      refine .cons ⟨hsql, rfl, hplain o List.mem_cons_self⟩ ?_
      exact ih fun o' ho => hplain o' (List.mem_cons_of_mem o ho)

/-- Two finished queries with the same columns, but for the numbers of placeholders. -/
def Rendered (C : Coupling base) (a b : RenderedSelect) : Prop :=
  C.numbering.Texts a.sql b.sql ∧ List.Forall₂ C.numbering.Columns a.columns b.columns

theorem follows_finish (q : SelectQuery) {c c' : SelectClauses}
    (h : C.numbering.Clauses base.dialect c c') :
    C.Follows K 0 C.Rendered (finishSelect q c) (finishSelect (q.exchange C.exchange) c') := by
  rw [SelectQuery.exchange_eq]
  unfold finishSelect
  refine .first (.write h.tokens) fun sql sql' hsql => ?_
  refine .first .dialect fun d d' hd => ?_
  obtain ⟨rfl, rfl⟩ := hd
  simp only [Option.isSome_map]
  refine .first (.ofResult fun paged hpaged => hsql.page hpaged) fun paged paged' hpaged => ?_
  exact .pure ⟨hpaged.lock q.lock, h.columns⟩

end Coupling

open Coupling

/-! ## Clauses that are resolved by way of the registry -/

theorem Filter.follows_sql (hregistry : base.registry.IsPlain) {f : Filter}
    (h : C.Follows K n (C.numbering.Tokens base.dialect) (Filter.toTokens f)
      (Filter.toTokens (f.exchange C.exchange))) :
    C.Follows K n C.numbering.Texts (Expression.toSql (.filter f))
      (Expression.toSql (.filter (f.exchange C.exchange))) := by
  rw [Expression.toSql, Expression.toSql]
  exact .resolveText hregistry (by rfl) (Filter.valid_exchange f) fun _ => follows_written h

theorem SortOrder.follows_sql (hregistry : base.registry.IsPlain) {s : SortOrder}
    (h : C.Follows K n (List.Forall₂ C.numbering.Texts) (SortOrder.toTerms s)
      (SortOrder.toTerms (s.exchange C.exchange))) :
    C.Follows K n C.numbering.Texts (Expression.toSql (.sort s))
      (Expression.toSql (.sort (s.exchange C.exchange))) := by
  rw [Expression.toSql, Expression.toSql]
  refine .resolveText hregistry (by rfl) (SortOrder.valid_exchange s) fun _ => ?_
  exact h.last fun terms terms' hterms => .write (.commas hterms)

/-! ## Every expression -/

section Mutual

set_option linter.unusedSectionVars false

variable (hregistry : base.registry.IsPlain) (hmodel : ∀ s ∈ modelNames base.model, Plain C.plain s)

include hregistry hmodel

mutual

/-- An expression with other values follows the expression. -/
theorem Expression.follows (e : Expression) (K : String → Prop) (h : AllPlain C.plain e.names)
    (hneeds : C.MeetsAll K (e.needs base.model)) :
    C.Follows K (Item.count (e.outline base.dialect false)) C.numbering.Texts
      (Expression.toSql e) (Expression.toSql (e.exchange C.exchange)) := by
  cases e with
  | path p =>
    rw [Expression.exchange, Expression.toSql]
    exact .resolveText hregistry (by rfl) (fun hvalid => hvalid) fun _ => follows_path hmodel h hneeds
  | dataTarget t =>
    rw [Expression.exchange, Expression.toSql, Expression.toSql]
    refine .resolveText hregistry (by rfl) (DataTarget.valid_exchange t) fun _ => ?_
    refine .first (.source hregistry (by rfl) (DataTarget.valid_exchange t)) fun s s' hs => ?_
    obtain ⟨rfl, rfl⟩ := hs
    exact (DataTarget.follows t K h hneeds).follows_sql hregistry
  | target t =>
    rw [Expression.exchange, Expression.toSql, Expression.toSql]
    refine .resolveText hregistry (by rfl) (RelationalTarget.valid_exchange t) fun _ => ?_
    exact (RelationalTarget.follows t K h hneeds).follows_text
  | filter f => exact Filter.follows_sql hregistry (Filter.follows f K h hneeds)
  | sort s => exact SortOrder.follows_sql hregistry (SortOrder.follows s K h hneeds)
  | function f =>
    rw [Expression.exchange, Expression.toSql, Expression.toSql]
    exact .resolveText hregistry (by rfl) (FunctionCall.valid_exchange f) fun hvalid =>
      FunctionCall.follows f K h hneeds hvalid
  | literal l =>
    rw [Expression.exchange, Expression.toSql, Expression.toSql]
    exact follows_literal hregistry l
  | parameter p =>
    rw [Expression.exchange, Expression.toSql, Expression.toSql]
    refine .resolveText hregistry (by rfl) (C.exchange.valid_parameter p) fun _ => ?_
    exact .addParameter (C.alike_parameter p)
  | sql raw =>
    rw [Expression.exchange, Expression.toSql, Expression.toSql, Expression.outline]
    refine Follows.cast (.resolveText hregistry (by rfl) (fun hvalid => hvalid) fun _ =>
      follows_raw (h raw.text (by simp [Expression.names]))) ?_
    exact Item.count_map_value _ _
  | query q =>
    rw [Expression.exchange, Expression.toSql, Expression.toSql]
    have hcount : Item.count (Expression.outline base.dialect false (.query q)) =
        Item.count (q.outline base.dialect) := by
      rw [Expression.outline, Item.count_select, Item.count_nil, Nat.add_zero]
    refine Follows.cast (.resolveText hregistry (by rfl) (SelectQuery.valid_exchange q) fun _ => ?_)
      hcount
    -- what a query needs from outside is what is left of its needs after its own source
    have hinner := MeetsAll.inner (q := q) hneeds
    refine .first (SelectQuery.follows_source q K _ h hinner) fun s s' hs => ?_
    obtain ⟨hs, hkeys⟩ := hs
    have hrender := SelectQuery.follows q _ h hinner hs
    rw [← hkeys] at hrender
    rw [hs.target]
    exact (Follows.inStatement hs.names hrender).last fun rendered rendered' hrendered =>
      .pure hrendered.1

/-- Several expressions follow each other one by one. -/
theorem Expression.follows_all (es : List Expression) (K : String → Prop)
    (h : AllPlain C.plain (Expression.allNames es))
    (hneeds : C.MeetsAll K (Expression.allNeeds base.model es)) :
    C.Follows K (Item.count (Expression.outlines base.dialect false es))
      (fun texts texts' => texts.length = es.length ∧ List.Forall₂ C.numbering.Texts texts texts')
      (Expression.allToSql es)
      (Expression.allToSql (Expression.exchangeAll C.exchange es)) := by
  cases es with
  | nil => exact .pure ⟨rfl, .nil⟩
  | cons e rest =>
    rw [Expression.allNames, allPlain_append] at h
    rw [Expression.allNeeds, meetsAll_append] at hneeds
    rw [Expression.exchangeAll, Expression.allToSql, Expression.allToSql, Expression.outlines,
      Item.count_append]
    refine (Expression.follows e K h.1 hneeds.1).bind fun text text' htext => ?_
    refine (Expression.follows_all rest K h.2 hneeds.2).last fun texts texts' htexts => .pure ?_
    exact ⟨by rw [List.length_cons, List.length_cons, htexts.1], .cons htext htexts.2⟩

/-- The sources of a target have the same table, and conditions that follow each other. -/
theorem Expression.follows_source (e : Expression) (K L : String → Prop)
    (h : AllPlain C.plain e.names) (hneeds : C.MeetsAll L (e.needs base.model)) :
    C.Follows K 0
      (fun s s' => C.Sources L (Item.count (e.outline base.dialect false)) s s' ∧
        s.target.keys = e.keys base.model)
      (Expression.toSource e) (Expression.toSource (e.exchange C.exchange)) := by
  cases e with
  | dataTarget t =>
    rw [Expression.exchange, Expression.toSource, Expression.toSource]
    refine Follows.mono (.source hregistry (by rfl) (DataTarget.valid_exchange t)) fun s s' hs => ?_
    obtain ⟨rfl, rfl⟩ := hs
    exact ⟨DataTarget.follows t L h hneeds, by rw [DataTarget.target_toSource, Expression.keys]⟩
  | target t =>
    rw [Expression.exchange, Expression.toSource, Expression.toSource]
    refine Follows.mono (.source hregistry (by rfl) (RelationalTarget.valid_exchange t))
      fun s s' hs => ?_
    obtain ⟨rfl, rfl⟩ := hs
    exact ⟨RelationalTarget.follows t L h hneeds, by rw [RelationalTarget.target_toSource, Expression.keys]⟩
  | _ =>
    rw [Expression.toSource]
    · exact .no_source hregistry
    all_goals simp

/-- A filter follows itself. -/
theorem Filter.follows (f : Filter) (K : String → Prop) (h : AllPlain C.plain f.names)
    (hneeds : C.MeetsAll K (f.needs base.model)) :
    C.Follows K (Item.count (f.outline base.dialect)) (C.numbering.Tokens base.dialect)
      (Filter.toTokens f) (Filter.toTokens (f.exchange C.exchange)) := by
  cases f with
  | nullTest negated operand =>
    rw [Filter.exchange, Filter.toTokens, Filter.toTokens]
    refine (Expression.follows operand K h hneeds).last fun sql sql' hsql => .pure ?_
    exact .fragment hsql (.words (by cases negated <;> decide))
  | compare op left right =>
    rw [Filter.names, allPlain_append] at h
    rw [Filter.needs, meetsAll_append] at hneeds
    rw [Filter.exchange, Filter.toTokens, Filter.toTokens, Filter.outline, Item.count_append,
      Expression.isNullLiteral_exchange]
    refine (Expression.follows left K h.1 hneeds.1).bind fun l l' hl => ?_
    cases right.isNullLiteral with
    | true => exact .pure (.fragment hl (.words (by cases op <;> decide)))
    | false =>
      refine (Expression.follows right K h.2 hneeds.2).last fun r r' hr => .pure ?_
      exact .fragment hl (.fixed (by cases op <;> decide) (.fragment hr .nil))
  | member negated left right =>
    rw [Filter.names, allPlain_append] at h
    rw [Filter.needs, meetsAll_append] at hneeds
    rw [Filter.exchange, Filter.toTokens, Filter.toTokens, Filter.outline, Item.count_append,
      Expression.count_outline _ right]
    refine (Expression.follows left K h.1 hneeds.1).bind fun l l' hl => ?_
    refine (Expression.follows right K h.2 hneeds.2).last fun r r' hr => .pure ?_
    have hwords : C.numbering.Tokens base.dialect [.in, .space, .leftParen] [.in, .space, .leftParen] :=
      .words (by decide)
    exact .fragment hl (.fixed (by decide) (Numbering.Tokens.append (.negation negated)
      (hwords.append (.fragment hr (.words (by decide))))))
  | between operand low high =>
    rw [Filter.names, allPlain_append, allPlain_append] at h
    rw [Filter.needs, meetsAll_append, meetsAll_append] at hneeds
    rw [Filter.exchange, Filter.toTokens, Filter.toTokens, Filter.outline, Item.count_append,
      Item.count_append, Nat.add_assoc]
    refine (Expression.follows operand K h.1.1 hneeds.1.1).bind fun o o' ho => ?_
    refine (Expression.follows low K h.1.2 hneeds.1.2).bind fun l l' hl => ?_
    refine (Expression.follows high K h.2 hneeds.2).last fun u u' hu => .pure ?_
    have hbetween : C.numbering.Tokens base.dialect [.space, .between, .space]
      [.space, .between, .space] := .words (by decide)
    have hand : C.numbering.Tokens base.dialect [.space, .and, .space] [.space, .and, .space] :=
      .words (by decide)
    exact .fragment ho (hbetween.append (.fragment hl (hand.append (.fragment hu .nil))))
  | like operand text mode ignoreCase =>
    rw [Filter.exchange, Filter.toTokens, Filter.toTokens, Filter.outline, Item.count_append,
      Expression.count_outline, Item.count_value, Item.count_nil]
    refine (Expression.follows operand K h hneeds).bind fun o o' ho => ?_
    -- only the pattern of a match depends on the dialect, which is the same in both
    refine .first .dialect fun d d' hd => ?_
    obtain ⟨rfl, rfl⟩ := hd
    refine (follows_pattern hregistry text mode ignoreCase).last fun marker marker' hmarker => ?_
    exact .pure (.like ignoreCase ho hmarker)
  | junction op children =>
    rw [Filter.exchange, Filter.toTokens, Filter.toTokens]
    refine (Filter.follows_all children K h hneeds).last fun inner inner' hinner => ?_
    exact .pure (.junction op hinner)
  | not child =>
    rw [Filter.exchange, Filter.toTokens, Filter.toTokens]
    refine (Filter.follows child K h hneeds).last fun inner inner' hinner => .pure ?_
    exact .fixed (by decide) (.fixed (by decide) (.fixed (by decide)
      (hinner.append (.words (by decide)))))
  | rows negated query =>
    rw [Filter.exchange, Filter.toTokens, Filter.toTokens, Filter.outline,
      Expression.count_outline]
    refine (Expression.follows query K h hneeds).last fun sql sql' hsql => .pure ?_
    have hwords : C.numbering.Tokens base.dialect [.exists, .space, .leftParen]
      [.exists, .space, .leftParen] := .words (by decide)
    exact Numbering.Tokens.append (.negation negated)
      (hwords.append (.fragment hsql (.words (by decide))))

/-- Several filters follow each other one by one. -/
theorem Filter.follows_all (fs : List Filter) (K : String → Prop)
    (h : AllPlain C.plain (Filter.allNames fs))
    (hneeds : C.MeetsAll K (Filter.allNeeds base.model fs)) :
    C.Follows K (Item.count (Filter.outlines base.dialect fs))
      (List.Forall₂ (C.numbering.Tokens base.dialect)) (Filter.allToTokens fs)
      (Filter.allToTokens (Filter.exchangeAll C.exchange fs)) := by
  cases fs with
  | nil => exact .pure .nil
  | cons f rest =>
    rw [Filter.allNames, allPlain_append] at h
    rw [Filter.allNeeds, meetsAll_append] at hneeds
    rw [Filter.exchangeAll, Filter.allToTokens, Filter.allToTokens, Filter.outlines,
      Item.count_append]
    refine (Filter.follows f K h.1 hneeds.1).bind fun tokens tokens' htokens => ?_
    refine (Filter.follows_all rest K h.2 hneeds.2).last fun others others' hothers => ?_
    exact .pure (.cons htokens hothers)

/-- The terms of a sort follow each other one by one. -/
theorem SortOrder.follows (s : SortOrder) (K : String → Prop) (h : AllPlain C.plain s.names)
    (hneeds : C.MeetsAll K (s.needs base.model)) :
    C.Follows K (Item.count (s.outline base.dialect)) (List.Forall₂ C.numbering.Texts)
      (SortOrder.toTerms s) (SortOrder.toTerms (s.exchange C.exchange)) := by
  cases s with
  | term expr direction =>
    rw [SortOrder.exchange, SortOrder.toTerms, SortOrder.toTerms]
    refine (Expression.follows expr K h hneeds).last fun sql sql' hsql => .pure ?_
    have hkeyword : NoColon direction.keyword := by cases direction <;> decide
    exact .cons ((hsql.append (.of_no_colon (by decide))).append (.of_no_colon hkeyword)) .nil
  | composite terms =>
    rw [SortOrder.exchange, SortOrder.toTerms, SortOrder.toTerms]
    exact SortOrder.follows_all terms K h hneeds

theorem SortOrder.follows_all (sorts : List SortOrder) (K : String → Prop)
    (h : AllPlain C.plain (SortOrder.allNames sorts))
    (hneeds : C.MeetsAll K (SortOrder.allNeeds base.model sorts)) :
    C.Follows K (Item.count (SortOrder.outlines base.dialect sorts))
      (List.Forall₂ C.numbering.Texts) (SortOrder.allToTerms sorts)
      (SortOrder.allToTerms (SortOrder.exchangeAll C.exchange sorts)) := by
  cases sorts with
  | nil => exact .pure .nil
  | cons s rest =>
    rw [SortOrder.allNames, allPlain_append] at h
    rw [SortOrder.allNeeds, meetsAll_append] at hneeds
    rw [SortOrder.exchangeAll, SortOrder.allToTerms, SortOrder.allToTerms, SortOrder.outlines,
      Item.count_append]
    refine (SortOrder.follows s K h.1 hneeds.1).bind fun terms terms' hterms => ?_
    refine (SortOrder.follows_all rest K h.2 hneeds.2).last fun others others' hothers => ?_
    exact .pure (List.rel_append hterms hothers)

/-- A valid call follows itself. -/
theorem FunctionCall.follows (f : FunctionCall) (K : String → Prop) (h : AllPlain C.plain f.names)
    (hneeds : C.MeetsAll K (f.needs base.model)) (hvalid : f.validate = .ok ()) :
    C.Follows K (Item.count (f.outline base.dialect)) C.numbering.Texts
      (FunctionCall.toSql f) (FunctionCall.toSql (f.exchange C.exchange)) := by
  obtain ⟨kind, args, distinct⟩ := f
  rw [FunctionCall.names, allPlain_cons] at h
  rw [FunctionCall.validate, ok_then_iff] at hvalid
  rw [FunctionCall.exchange, FunctionCall.toSql, FunctionCall.toSql, FunctionCall.outline,
    Expression.count_outlines]
  refine (Expression.follows_all args K h.2 hneeds).last fun texts texts' htexts => ?_
  refine .first .dialect fun d d' hd => .pure ?_
  obtain ⟨rfl, rfl⟩ := hd
  exact .function h.1 (htexts.1 ▸ hvalid.1) htexts.2

/-- The condition of a join follows itself. -/
theorem Join.follows (j : Join) (K : String → Prop) (h : AllPlain C.plain j.names)
    (hneeds : C.MeetsAll K (j.needs base.model)) :
    C.Condition K (Item.count (j.outline base.dialect)) (Join.toCondition j)
      (Join.toCondition (j.exchange C.exchange)) := by
  rw [Join.needs_eq] at hneeds
  rw [Join.toCondition_eq, Join.toCondition_eq, Join.exchange_eq, Join.outline_eq]
  obtain ⟨kind, name, source, aliasName, on, entity⟩ := j
  cases on with
  | none => exact .none
  | some f =>
    rw [Join.names, allPlain_append] at h
    exact .some (Filter.follows_sql hregistry (Filter.follows f K h.2 hneeds))

theorem Join.follows_all (joins : List Join) (K : String → Prop)
    (h : AllPlain C.plain (Join.allNames joins))
    (hneeds : C.MeetsAll K (Join.allNeeds base.model joins)) :
    C.Conditions K (Item.count (Join.outlines base.dialect joins)) (Join.toConditions joins)
      (Join.toConditions (Join.exchangeAll C.exchange joins)) := by
  cases joins with
  | nil => exact .nil
  | cons j rest =>
    rw [Join.allNames, allPlain_append] at h
    rw [Join.allNeeds, meetsAll_append] at hneeds
    rw [Join.exchangeAll, Join.toConditions, Join.toConditions, Join.outlines,
      Item.count_append]
    exact .cons (Join.follows j K h.1 hneeds.1) (Join.follows_all rest K h.2 hneeds.2)

theorem RelationalTarget.follows (t : RelationalTarget) (K : String → Prop)
    (h : AllPlain C.plain t.names) (hneeds : C.MeetsAll K (t.needs base.model)) :
    C.Sources K (Item.count (t.outline base.dialect)) (RelationalTarget.toSource t)
      (RelationalTarget.toSource (t.exchange C.exchange)) := by
  obtain ⟨schema, table, aliasName, joins, entity⟩ := t
  rw [RelationalTarget.exchange, RelationalTarget.toSource, RelationalTarget.toSource,
    RelationalTarget.outline]
  refine ⟨rfl, h, by simp [Join.toConditions_eq], ?_⟩
  rw [RelationalTarget.names, allPlain_append] at h
  exact Join.follows_all joins K h.2 hneeds

theorem DataTarget.follows (t : DataTarget) (K : String → Prop)
    (h : AllPlain C.plain t.names) (hneeds : C.MeetsAll K (t.needs base.model)) :
    C.Sources K (Item.count (t.outline base.dialect)) (DataTarget.toSource t base.model)
      (DataTarget.toSource (t.exchange C.exchange) base.model) := by
  have hmapped := DataTarget.plain_mapped C.admits.writable hmodel h
  have htarget := DataTarget.mapped_exchange (x := C.exchange) base.model t
  obtain ⟨entity, aliasName, joins⟩ := t
  rw [DataTarget.exchange] at htarget ⊢
  rw [DataTarget.toSource, DataTarget.toSource, DataTarget.outline]
  refine ⟨htarget, hmapped, by simp [Join.toConditions_eq, DataTarget.mapped], ?_⟩
  rw [DataTarget.names, allPlain_append] at h
  exact Join.follows_all joins K h.2 hneeds

/-- A selection follows itself. -/
theorem Selection.follows (s : Selection) (K : String → Prop) (h : AllPlain C.plain s.names)
    (hneeds : C.MeetsAll K (s.needs base.model)) :
    C.Follows K (Item.count (s.outline base.dialect)) C.numbering.Texts (Selection.toSql s)
      (Selection.toSql (s.exchange C.exchange)) := by
  obtain ⟨expr, aliasName⟩ := s
  rw [Selection.names, allPlain_append] at h
  rw [Selection.exchange, Selection.toSql, Selection.toSql, Selection.outline,
    Expression.count_outline, Expression.isQuery_exchange]
  exact (Expression.follows expr K h.2 hneeds).last fun sql sql' hsql =>
    .pure (.enclosed expr.isQuery hsql)

theorem Selection.follows_all (selections : List Selection) (K : String → Prop)
    (h : AllPlain C.plain (Selection.allNames selections))
    (hneeds : C.MeetsAll K (Selection.allNeeds base.model selections)) :
    C.Follows K (Item.count (Selection.outlines base.dialect selections))
      (List.Forall₂ C.numbering.Texts) (Selection.allToSql selections)
      (Selection.allToSql (Selection.exchangeAll C.exchange selections)) := by
  cases selections with
  | nil => exact .pure .nil
  | cons s rest =>
    rw [Selection.allNames, allPlain_append] at h
    rw [Selection.allNeeds, meetsAll_append] at hneeds
    rw [Selection.exchangeAll, Selection.allToSql, Selection.allToSql, Selection.outlines,
      Item.count_append]
    refine (Selection.follows s K h.1 hneeds.1).bind fun sql sql' hsql => ?_
    refine (Selection.follows_all rest K h.2 hneeds.2).last fun sqls sqls' hsqls => ?_
    exact .pure (.cons hsql hsqls)

/-- The columns of a projection follow each other one by one. -/
theorem Projection.follows (p : Projection) (K : String → Prop) (h : AllPlain C.plain p.names)
    (hneeds : C.MeetsAll K (p.needs base.model)) :
    C.Follows K (Item.count (p.outline base.dialect)) (List.Forall₂ C.numbering.Columns)
      (Projection.toColumns p) (Projection.toColumns (p.exchange C.exchange)) := by
  have hvalid := Projection.valid_exchange (x := C.exchange) p
  obtain ⟨selections, aliasMode, converter⟩ := p
  rw [Projection.needs, meetsAll_append] at hneeds
  rw [Projection.exchange] at hvalid ⊢
  rw [Projection.toColumns, Projection.toColumns, Projection.outline]
  refine .first (.check hvalid) fun _ _ _ => ?_
  refine .first .aliasMode fun mode mode' hmode => ?_
  obtain ⟨rfl, rfl⟩ := hmode
  refine .first .sequence fun i i' hi => ?_
  subst hi
  refine (Selection.follows_all selections K h hneeds.2).last fun sqls sqls' hsqls => .pure ?_
  have hmode : C.depth = 0 ∨ aliasMode.getD base.aliasMode ≠ .auto := by
    cases aliasMode with
    | none => exact C.modes
    | some m => exact hneeds.1 (.mode m) (by simp)
  rw [Selection.exchangeAll_eq, Selection.aliases_exchange, aliases_deepen hmode]
  exact columns_zip hsqls
    (Selection.plain_aliases C.admits.writable _ _ _ (Selection.plain_explicitAliases h))

/-- A query over two sources that follow each other follows itself. -/
theorem SelectQuery.follows (q : SelectQuery) (K : String → Prop) (h : AllPlain C.plain q.names)
    (hneeds : C.MeetsAll K (q.innerNeeds base.model)) {s s' : Source}
    (hs : C.Sources K (Item.count (q.source.outline base.dialect false)) s s') :
    C.Follows K (Item.count (q.outline base.dialect)) C.Rendered (SelectQuery.renderFrom q s)
      (SelectQuery.renderFrom (q.exchange C.exchange) s') := by
  have hvalid := SelectQuery.valid_exchange (x := C.exchange) q
  rw [SelectQuery.renderFrom_eq, SelectQuery.renderFrom_eq, SelectQuery.outline_eq]
  rw [SelectQuery.names_eq, allPlain_append, allPlain_append, allPlain_append] at h
  rw [SelectQuery.innerNeeds, meetsAll_append, meetsAll_append, meetsAll_append] at hneeds
  have hfinish := fun {c c'} => @follows_finish base C K q c c'
  rw [SelectQuery.exchange_eq] at hvalid hfinish ⊢
  obtain ⟨source, distinct, projection, filter, sort, limit, offset, lock⟩ := q
  obtain ⟨⟨⟨_, hprojection⟩, hfilter⟩, hsort⟩ := h
  obtain ⟨⟨⟨_, hprojected⟩, hfiltered⟩, hsorted⟩ := hneeds
  have hcolumns : C.Follows K (Item.count (projectionOutline base.dialect projection))
      (List.Forall₂ C.numbering.Columns) (projectedColumns projection)
      (projectedColumns (projection.map (Projection.exchange C.exchange))) := by
    cases projection with
    | none => exact .pure .nil
    | some p => exact Projection.follows p K hprojection hprojected
  have hcondition : C.Follows K (Item.count (conditionOutline base.dialect filter))
      (fun o o' => C.numbering.Tokens base.dialect (optionalClause .where o)
        (optionalClause .where o'))
      (conditionSql filter) (conditionSql (filter.map (Filter.exchange C.exchange))) := by
    cases filter with
    | none => exact .pure .nil
    | some f =>
      refine (Filter.follows_sql hregistry (Filter.follows f K hfilter hfiltered)).last
        fun sql sql' hsql => .pure ?_
      exact .optional (by decide) hsql
  have horder : C.Follows K (Item.count (orderOutline base.dialect sort))
      (fun o o' => C.numbering.Tokens base.dialect (optionalClause .orderBy o)
        (optionalClause .orderBy o'))
      (orderSql sort) (orderSql (sort.map (SortOrder.exchange C.exchange))) := by
    cases sort with
    | none => exact .pure .nil
    | some o =>
      refine (SortOrder.follows_sql hregistry (SortOrder.follows o K hsort hsorted)).last
        fun sql sql' hsql => .pure ?_
      exact .optional (by decide) hsql
  -- the source is resolved before the columns, which come first in the text
  refine Follows.cast (n := Item.count (source.outline base.dialect false) +
    (Item.count (projectionOutline base.dialect projection) +
      (Item.count (conditionOutline base.dialect filter) +
        Item.count (orderOutline base.dialect sort)))) ?_ ?_
  · refine .first (.check hvalid) fun _ _ _ => ?_
    refine (hs.follows_sql hregistry).bind fun from_ from' hfrom => ?_
    refine hcolumns.bind fun columns columns' hcolumns => ?_
    refine hcondition.bind fun condition condition' hcondition => ?_
    refine horder.last fun order order' horder => ?_
    exact hfinish ⟨rfl, hcolumns, hfrom, hcondition, horder⟩
  · simp only [Item.count_append]
    omega

/-- The sources of a query have the same table, and conditions that follow each other. -/
theorem SelectQuery.follows_source (q : SelectQuery) (K L : String → Prop)
    (h : AllPlain C.plain q.names) (hneeds : C.MeetsAll L (q.innerNeeds base.model)) :
    C.Follows K 0
      (fun s s' => C.Sources L (Item.count (q.source.outline base.dialect false)) s s' ∧
        s.target.keys = q.source.keys base.model)
      (SelectQuery.toSource q) (SelectQuery.toSource (q.exchange C.exchange)) := by
  rw [SelectQuery.names_eq, allPlain_append, allPlain_append, allPlain_append] at h
  rw [SelectQuery.innerNeeds, meetsAll_append, meetsAll_append, meetsAll_append] at hneeds
  rw [SelectQuery.exchange_eq]
  obtain ⟨source, distinct, projection, filter, sort, limit, offset, lock⟩ := q
  exact Expression.follows_source source K L h.1.1.1 hneeds.1.1.1

end

end Mutual

end SqlCompose
