import SqlCompose.Proofs.Rendering
import SqlCompose.Proofs.Wording

/-!
# SqlCompose.Proofs.Fitting -- every expression is laid out

If the ingredients of an expression are words and values, the text that it resolves into is
laid out under every rule that allows its sub-selects. What stands in parentheses is laid out
without a rule. The proof goes along the recursion of the resolution, with one theorem for
each of its functions.
-/

namespace SqlCompose

open Compose Lexeme

variable {base : Context} {W : Wording} {acc : Accumulator} {rule : Rule}
  {d : Dialect}

/-! ## Filters -/

/-- Tokens that are written as a text that is laid out. -/
theorem LaysText.tokens {value : Parameter → Prop} {tokens : List Token} {a : String}
    (h : LaysText value acc rule a)
    (heq : (tokens.flatMap fun t => (t.text d).toList) = a.toList) :
    LaysText value acc rule (sqlText d tokens) := by
  unfold LaysText
  rw [toList_sqlText, heq]
  exact h

/-- Filters in parentheses with a connective between them. -/
theorem LaysText.junction {value : Parameter → Prop} (op : Connective) {children : List (List Token)}
    (h : ∀ tokens ∈ children, LaysText value acc .anything (sqlText d tokens)) :
    LaysText value acc rule (sqlText d (junctionTokens op children)) := by
  have hparenthesis : Encloses 0 "(" ")" := by decide
  have hword : Parts (" " ++ op.token.text d ++ " ") := by
    rw [Token.text_of_fixed d (Dialect.new .ansi) (by cases op <;> decide)]
    cases op <;> decide
  induction children with
  | nil => exact .fixed (a := "()") (by decide)
  | cons tokens rest ih =>
    obtain ⟨htokens, hrest⟩ := List.forall_mem_cons.mp h
    have hfirst : LaysText value acc rule ("(" ++ sqlText d tokens ++ ")") :=
      wrap hparenthesis htokens
    cases rest with
    | nil => exact .tokens hfirst (by simp [junctionTokens, toList_sqlText, Token.text])
    | cons next rest =>
      refine .tokens (hfirst.join hword (ih hrest)) ?_
      simp [junctionTokens, List.intercalate_cons_cons, toList_sqlText, Token.text]

theorem Filter.gives_sql (hregistry : base.registry.IsPlain) {f : Filter}
    (h : (Filter.toTokens f).Upholds base (Scope.IsWorded W.strict) fun acc tokens =>
      LaysText W.value acc rule (sqlText base.dialect tokens)) :
    W.Gives base rule (Expression.toSql (.filter f)) := by
  rw [Expression.toSql]
  exact .resolveText hregistry fun _ => .bind h fun tokens _ => .write fun _ htokens => htokens

theorem SortOrder.gives_sql (hregistry : base.registry.IsPlain) (hrule : W.Obeys rule) {s : SortOrder}
    (h : (SortOrder.toTerms s).Upholds base (Scope.IsWorded W.strict) fun acc terms =>
      ∀ term ∈ terms, LaysText W.value acc rule term) :
    W.Gives base rule (Expression.toSql (.sort s)) := by
  rw [Expression.toSql]
  refine .resolveText hregistry fun _ => .bind h fun terms _ => .write fun acc hterms => ?_
  rw [sqlText_commaSeparated]
  exact .commas hrule.commas hterms

theorem Filter.gives_condition (hregistry : base.registry.IsPlain) {f : Filter}
    (h : (Filter.toTokens f).Upholds base (Scope.IsWorded W.strict) fun acc tokens =>
      LaysText W.value acc rule (sqlText base.dialect tokens)) :
    (conditionSql (some f)).Upholds base (Scope.IsWorded W.strict) fun acc condition =>
      ∀ a ∈ condition, LaysText W.value acc rule a := by
  refine .bind (Filter.gives_sql hregistry h) fun sql _ => ?_
  exact .pure fun _ hsql a ha => Option.some.inj ha ▸ hsql

theorem SortOrder.gives_order (hregistry : base.registry.IsPlain) (hrule : W.Obeys rule) {s : SortOrder}
    (h : (SortOrder.toTerms s).Upholds base (Scope.IsWorded W.strict) fun acc terms =>
      ∀ term ∈ terms, LaysText W.value acc rule term) :
    (orderSql (some s)).Upholds base (Scope.IsWorded W.strict) fun acc order =>
      ∀ a ∈ order, LaysText W.value acc rule a := by
  refine .bind (SortOrder.gives_sql hregistry hrule h) fun sql _ => ?_
  exact .pure fun _ hsql a ha => Option.some.inj ha ▸ hsql

/-- The clauses of a query are what its parts give. -/
theorem SelectQuery.upholds_clauses (hregistry : base.registry.IsPlain) (hrule : W.Obeys rule)
    {q : SelectQuery} {s : Source} {P : Accumulator → List ProjectedColumn → Prop}
    {Q R : Accumulator → Option String → Prop} (hs : s.IsLaid base W rule)
    (hcolumns : (projectedColumns q.projection).Upholds base (Scope.IsWorded W.strict) P)
    (hcondition : (conditionSql q.filter).Upholds base (Scope.IsWorded W.strict) Q)
    (horder : (orderSql q.sort).Upholds base (Scope.IsWorded W.strict) R) :
    (q.clausesFrom s).Upholds base (Scope.IsWorded W.strict) fun acc c =>
      LaysText W.value acc rule c.source ∧ P acc c.columns ∧ Q acc c.condition ∧ R acc c.order := by
  unfold SelectQuery.clausesFrom
  refine .bind (.resolveText hregistry fun _ => hs.text hrule) fun from_ _ => ?_
  refine .bind hcolumns fun columns _ => .bind hcondition fun condition _ => ?_
  refine .bind horder fun order _ => ?_
  exact .pure fun acc horder hcondition hcolumns hfrom => ⟨hfrom, hcolumns, hcondition, horder⟩

/-! ## Selections and joins -/

theorem Expression.outline_of_not_query {e : Expression} (h : e.isQuery = false) :
    e.outline d true = e.outline d false := by
  cases e with
  | query q => cases h
  | _ => rfl

theorem Join.isWorded_of_has {joins : List Join}
    (h : ∀ i ∈ Join.allIngredients joins, W.Has i) :
    ∀ j ∈ joins, IsIdentifier W.strict j.source ∧ ∀ a ∈ j.aliasName, IsIdentifier W.strict a := by
  induction joins with
  | nil => simp
  | cons j rest ih =>
    rw [Join.allIngredients, List.forall_mem_append, Join.ingredients_eq, List.forall_mem_append,
      Wording.has_named, List.forall_mem_cons] at h
    exact List.forall_mem_cons.mpr
      ⟨⟨h.1.1.1, fun a ha => h.1.1.2 a (Option.mem_toList.mpr ha)⟩, ih h.2⟩

/-- The aliases that were given to selections are words if the ingredients are. -/
theorem Selection.isIdentifier_explicitAliases {selections : List Selection}
    (h : ∀ i ∈ Selection.allIngredients selections, W.Has i) :
    ∀ s ∈ selections, ∀ a ∈ s.explicitAlias, IsIdentifier W.strict a := by
  induction selections with
  | nil => simp
  | cons s rest ih =>
    obtain ⟨expr, aliasName⟩ := s
    rw [Selection.allIngredients, List.forall_mem_append, Selection.ingredients,
      List.forall_mem_append, Wording.has_named] at h
    refine List.forall_mem_cons.mpr ⟨fun a ha => ?_, ih h.2⟩
    rcases Option.or_eq_some_iff.mp ha with hgiven | ⟨_, hpath⟩
    · exact h.1.1 a (Option.mem_toList.mpr hgiven)
    · cases expr with
      | path p => exact Wording.has_named.mp h.1.2 a (Path.mem_names_of_alias hpath)
      | _ => cases hpath

theorem LaysText.columns {value : Parameter → Prop} {strict : Bool}
    (hrule : rule = .unordered → strict = true) {sqls : List String}
    (h : ∀ sql ∈ sqls, LaysText value acc rule sql) {aliases : List (Option String)}
    (haliases : ∀ o ∈ aliases, ∀ a ∈ o, IsIdentifier strict a) :
    ∀ column ∈ List.zipWith ProjectedColumn.mk sqls aliases, LaysText value acc rule column.text := by
  induction sqls generalizing aliases with
  | nil => nofun
  | cons sql rest ih =>
    cases aliases with
    | nil => nofun
    | cons o aliases =>
      obtain ⟨hsql, hrest⟩ := List.forall_mem_cons.mp h
      obtain ⟨ho, hothers⟩ := List.forall_mem_cons.mp haliases
      exact List.forall_mem_cons.mpr ⟨column hrule hsql ho, ih hrest hothers⟩

/-- A page of a query and its row lock are written around its clauses. -/
theorem SelectQuery.laid_of_clauses {q : SelectQuery} {s : Source}
    (h : (q.clausesFrom s).Upholds base (Scope.IsWorded W.strict) fun acc c =>
      c.IsLaid W.value acc .anything) :
    (q.renderFrom s).Upholds base (Scope.IsWorded W.strict) fun acc rendered =>
      LaysText W.value acc .anything rendered.sql := by
  intro chain t rendered u hscope hchain hrun
  obtain ⟨_, c, hc, ⟨paged, hpaged, hsql⟩, _⟩ := SelectQuery.yields_renderFrom.mp hrun
  obtain ⟨hscope, hstreams, hgrow, hlaid⟩ := h hscope hchain hc
  refine ⟨hscope, hstreams, hgrow, fun acc hacc => ?_⟩
  show LaysText W.value acc .anything rendered.sql
  rw [hsql]
  exact ((hlaid acc hacc).text.page hpaged).lock q.lock

/-! ## The fragments of every expression -/

section Mutual

set_option linter.unusedSectionVars false

variable (hregistry : base.registry.IsPlain)
  (hmodel : ∀ s ∈ modelNames base.model, IsIdentifier W.strict s)

include hregistry hmodel

mutual

/-- The text of an expression is laid out. -/
theorem Expression.laid (e : Expression) {rule : Rule} (hrule : W.Obeys rule)
    (h : ∀ i ∈ e.ingredients, W.Has i) (hallows : rule.Allows (e.outline base.dialect false)) :
    W.Gives base rule (Expression.toSql e) := by
  cases e with
  | path p =>
    rw [Expression.ingredients, Wording.has_named] at h
    rw [Expression.toSql]
    refine .resolveText hregistry fun _ => (dotted_path hmodel h).mono fun _ _ htext => ?_
    exact .dotted htext hrule.strict
  | dataTarget t =>
    rw [Expression.toSql]
    refine .resolveText hregistry fun _ => .bind (.source hregistry) fun s hs => ?_
    obtain ⟨_, rfl⟩ := hs
    refine (Upholds.resolveText hregistry fun _ => ?_).mono fun _ _ h _ => h
    exact (DataTarget.laid t hrule h hallows).text hrule
  | target t =>
    rw [Expression.toSql]
    exact .resolveText hregistry fun _ => (RelationalTarget.laid t hrule h hallows).text hrule
  | filter f => exact Filter.gives_sql hregistry (Filter.laid f hrule h hallows)
  | sort s => exact SortOrder.gives_sql hregistry hrule (SortOrder.laid s hrule h hallows)
  | function f =>
    rw [Expression.toSql]
    exact .resolveText hregistry fun hvalid => FunctionCall.laid f h hvalid
  | literal l =>
    rw [Expression.toSql]
    exact gives_literal hregistry hrule.commas l
  | parameter p =>
    rw [Expression.ingredients, List.forall_mem_cons] at h
    rw [Expression.toSql]
    refine .resolveText hregistry fun _ => (Upholds.addParameter p).mono fun _ _ hname => ?_
    exact .value h.1 hname
  | sql r =>
    rw [Expression.ingredients, List.forall_mem_cons] at h
    exact h.1.elim
  | query q =>
    -- Without parentheses of its own, a sub-select stands only where anything may stand.
    obtain rfl := Rule.eq_anything_of_bare hallows
    rw [Expression.toSql]
    refine .resolveText hregistry fun _ => .bind (SelectQuery.laid_source q hrule h (.inl rfl)) fun s hs => ?_
    obtain ⟨_, hs⟩ := hs
    have hseed : ∀ chain, ((Scope.inside chain .statement).seed base.aliasMode s.target).IsWorded
        W.strict := fun chain => (Scope.isWorded_inside chain .statement).seed hs.target
    have hrender := SelectQuery.laid_of_clauses (SelectQuery.laid_clauses q hrule h (.inl rfl) hs)
    refine .bind (.inStatement hseed hrender) fun rendered _ => ?_
    exact .pure fun _ hrendered _ => hrendered

/-- The texts of several expressions in parentheses are laid out. -/
theorem Expression.laid_all (es : List Expression)
    (h : ∀ i ∈ Expression.allIngredients es, W.Has i) :
    (Expression.allToSql es).Upholds base (Scope.IsWorded W.strict) fun acc texts =>
      texts.length = es.length ∧ ∀ text ∈ texts, LaysText W.value acc .anything text := by
  cases es with
  | nil => exact .pure fun _ => by simp
  | cons e rest =>
    rw [Expression.allIngredients, List.forall_mem_append] at h
    rw [Expression.allToSql]
    refine .bind (Expression.laid e W.obeys_anything h.1 (.inl rfl)) fun text _ => ?_
    refine .bind (Expression.laid_all rest h.2) fun texts _ => ?_
    exact .pure fun _ htexts htext =>
      ⟨congrArg (· + 1) htexts.1, List.forall_mem_cons.mpr ⟨htext, htexts.2⟩⟩

/-- The source of a target is laid out. -/
theorem Expression.laid_source (e : Expression) {rule : Rule} (hrule : W.Obeys rule)
    (h : ∀ i ∈ e.ingredients, W.Has i) (hallows : rule.Allows (e.outline base.dialect false)) :
    (Expression.toSource e).Upholds base (Scope.IsWorded W.strict) fun _ s =>
      s.IsLaid base W rule := by
  cases e with
  | dataTarget t =>
    rw [Expression.toSource]
    exact (Upholds.source hregistry).mono fun _ _ hs => hs ▸ DataTarget.laid t hrule h hallows
  | target t =>
    rw [Expression.toSource]
    exact (Upholds.source hregistry).mono fun _ _ hs => hs ▸ RelationalTarget.laid t hrule h hallows
  | _ =>
    rw [Expression.toSource]
    · exact .no_source hregistry
    all_goals simp

/-- The tokens of a filter are laid out. -/
theorem Filter.laid (f : Filter) {rule : Rule} (hrule : W.Obeys rule)
    (h : ∀ i ∈ f.ingredients, W.Has i) (hallows : rule.Allows (f.outline base.dialect)) :
    (Filter.toTokens f).Upholds base (Scope.IsWorded W.strict) fun acc tokens =>
      LaysText W.value acc rule (sqlText base.dialect tokens) := by
  cases f with
  | nullTest negated operand =>
    rw [Filter.toTokens]
    refine .bind (Expression.laid operand hrule h hallows) fun sql _ => .pure fun acc hsql => ?_
    refine .tokens (hsql.before (f := if negated then " IS NOT NULL" else " IS NULL") ?_) ?_
    · cases negated <;> decide
    · cases negated <;> simp [Token.text]
  | compare op left right =>
    rw [Filter.ingredients, List.forall_mem_append] at h
    rw [Filter.outline, Rule.allows_append] at hallows
    rw [Filter.toTokens]
    refine .bind (Expression.laid left hrule h.1 hallows.1) fun l _ => ?_
    cases hright : right.isNullLiteral with
    | true =>
      simp only [if_true]
      refine .pure fun acc hl => ?_
      refine .tokens (hl.before (f := if op = .notEqual then " IS NOT NULL" else " IS NULL") ?_) ?_
      · cases op <;> decide
      · cases op <;> simp [Comparison.nullTest, Token.text]
    | false =>
      simp only [hright, Bool.false_eq_true, if_false] at hallows ⊢
      refine .bind (Expression.laid right hrule h.2 hallows.2) fun r _ => .pure fun acc hr hl => ?_
      have hparts : Parts (op.token.text base.dialect) := by
        rw [Token.text_of_fixed base.dialect (Dialect.new .ansi) (by cases op <;> decide)]
        cases op <;> decide
      exact .tokens (hl.join hparts hr) (by simp [Token.text])
  | member negated left right =>
    rw [Filter.ingredients, List.forall_mem_append] at h
    rw [Filter.outline, Rule.allows_append] at hallows
    rw [Filter.toTokens]
    refine .bind (Expression.laid left hrule h.1 hallows.1) fun l _ => ?_
    -- inside of its own parentheses a list may have commas, whatever the rule around it is
    refine .bind (Expression.laid right W.obeys_anything h.2 (.inl rfl)) fun r _ => ?_
    refine .pure fun acc hr hl => ?_
    have hlist : LaysText W.value acc rule ("(" ++ r ++ ")") :=
      .wrap (by decide : Encloses 0 "(" ")") hr
    refine .tokens (hl.join (f := if negated then " NOT IN " else " IN ") ?_ hlist) ?_
    · cases negated <;> decide
    · cases negated <;> simp [negation, Token.text]
  | between operand low high =>
    rw [Filter.ingredients, List.forall_mem_append, List.forall_mem_append] at h
    rw [Filter.outline, Rule.allows_append, Rule.allows_append] at hallows
    rw [Filter.toTokens]
    refine .bind (Expression.laid operand hrule h.1.1 hallows.1.1) fun o _ => ?_
    refine .bind (Expression.laid low hrule h.1.2 hallows.1.2) fun l _ => ?_
    refine .bind (Expression.laid high hrule h.2 hallows.2) fun u _ => .pure fun acc hu hl ho => ?_
    have htext := (ho.join (f := " BETWEEN ") (by decide) hl).join (f := " AND ") (by decide) hu
    exact .tokens htext (by simp [Token.text])
  | like operand text mode ignoreCase =>
    rw [Filter.outline, Rule.allows_append] at hallows
    rw [Filter.toTokens]
    -- without regard to case the operand is the argument of a function, where all is allowed
    have hoperand : (Expression.toSql operand).Upholds base (Scope.IsWorded W.strict) fun acc o =>
        (ignoreCase = false → LaysText W.value acc rule o) ∧
          (ignoreCase = true → LaysText W.value acc .anything o) := by
      cases ignoreCase with
      | false =>
        exact (Expression.laid operand hrule h hallows.1).mono fun _ _ ho => ⟨fun _ => ho, nofun⟩
      | true =>
        exact (Expression.laid operand W.obeys_anything h (.inl rfl)).mono fun _ _ ho =>
          ⟨nofun, fun _ => ho⟩
    refine .bind hoperand fun o _ => .bind .dialect fun d hd => ?_
    obtain ⟨_, rfl⟩ := hd
    refine .bind (gives_literal hregistry hrule.commas _) fun marker _ => ?_
    exact .pure fun acc hmarker _ ho => .like ho.1 ho.2 hmarker
  | junction op children =>
    rw [Filter.toTokens]
    refine .bind (Filter.laid_all children h) fun tokens _ => .pure fun acc htokens => ?_
    exact .junction op htokens
  | not child =>
    rw [Filter.toTokens]
    refine .bind (Filter.laid child W.obeys_anything h (.inl rfl)) fun tokens _ => ?_
    refine .pure fun acc htokens => ?_
    have htext : LaysText W.value acc rule ("NOT (" ++ sqlText base.dialect tokens ++ ")") :=
      .wrap (by decide : Encloses 0 "NOT (" ")") htokens
    exact .tokens htext (by simp [toList_sqlText, Token.text])
  | rows negated query =>
    rw [Filter.toTokens]
    refine .bind (Expression.laid query W.obeys_anything h (.inl rfl)) fun sql _ => ?_
    refine .pure fun acc hsql => ?_
    have hopening : Encloses 0 (if negated then "NOT EXISTS (" else "EXISTS (") ")" := by
      cases negated <;> decide
    refine .tokens (.wrap hopening hsql) ?_
    cases negated <;> simp [negation, Token.text]

/-- The tokens of several filters in parentheses are laid out. -/
theorem Filter.laid_all (fs : List Filter) (h : ∀ i ∈ Filter.allIngredients fs, W.Has i) :
    (Filter.allToTokens fs).Upholds base (Scope.IsWorded W.strict) fun acc children =>
      ∀ tokens ∈ children, LaysText W.value acc .anything (sqlText base.dialect tokens) := by
  cases fs with
  | nil => exact .pure fun _ => by simp
  | cons f rest =>
    rw [Filter.allIngredients, List.forall_mem_append] at h
    rw [Filter.allToTokens]
    refine .bind (Filter.laid f W.obeys_anything h.1 (.inl rfl)) fun tokens _ => ?_
    refine .bind (Filter.laid_all rest h.2) fun others _ => ?_
    exact .pure fun _ hothers htokens => List.forall_mem_cons.mpr ⟨htokens, hothers⟩

/-- The terms of a sort are laid out. -/
theorem SortOrder.laid (s : SortOrder) {rule : Rule} (hrule : W.Obeys rule)
    (h : ∀ i ∈ s.ingredients, W.Has i) (hallows : rule.Allows (s.outline base.dialect)) :
    (SortOrder.toTerms s).Upholds base (Scope.IsWorded W.strict) fun acc terms =>
      ∀ term ∈ terms, LaysText W.value acc rule term := by
  cases s with
  | term expr direction =>
    rw [SortOrder.toTerms]
    refine .bind (Expression.laid expr hrule h hallows) fun sql _ => .pure fun acc hsql => ?_
    have hdirection : LaysText W.value acc rule direction.keyword :=
      .fixed (by cases direction <;> decide)
    simpa using hsql.join (f := " ") (by decide) hdirection
  | composite terms =>
    rw [SortOrder.toTerms]
    exact SortOrder.laid_all terms hrule h hallows

/-- The terms of several sorts are laid out. -/
theorem SortOrder.laid_all (sorts : List SortOrder) {rule : Rule} (hrule : W.Obeys rule)
    (h : ∀ i ∈ SortOrder.allIngredients sorts, W.Has i)
    (hallows : rule.Allows (SortOrder.outlines base.dialect sorts)) :
    (SortOrder.allToTerms sorts).Upholds base (Scope.IsWorded W.strict) fun acc terms =>
      ∀ term ∈ terms, LaysText W.value acc rule term := by
  cases sorts with
  | nil => exact .pure fun _ => by simp
  | cons s rest =>
    rw [SortOrder.allIngredients, List.forall_mem_append] at h
    rw [SortOrder.outlines, Rule.allows_append] at hallows
    rw [SortOrder.allToTerms]
    refine .bind (SortOrder.laid s hrule h.1 hallows.1) fun terms _ => ?_
    refine .bind (SortOrder.laid_all rest hrule h.2 hallows.2) fun others _ => ?_
    exact .pure fun _ hothers hterms => List.forall_mem_append.mpr ⟨hterms, hothers⟩

/-- A function call is laid out under every rule. -/
theorem FunctionCall.laid (f : FunctionCall) {rule : Rule} (h : ∀ i ∈ f.ingredients, W.Has i)
    (hvalid : FunctionCall.validate f = .ok ()) :
    W.Gives base rule (FunctionCall.toSql f) := by
  obtain ⟨kind, args, distinct⟩ := f
  rw [FunctionCall.ingredients, List.forall_mem_cons] at h
  rw [FunctionCall.validate, ok_then_iff] at hvalid
  rw [FunctionCall.toSql]
  refine .bind (Expression.laid_all args h.2) fun texts _ => .bind .dialect fun d hd => ?_
  obtain ⟨_, rfl⟩ := hd
  refine .pure fun acc _ htexts => ?_
  have hsolid : IsSolid kind.name := IsIdentifier.isSolid h.1
  exact .function hsolid (htexts.1 ▸ hvalid.1) htexts.2

/-- The condition of a join is laid out. -/
theorem Join.laid (j : Join) {rule : Rule} (hrule : W.Obeys rule) (h : ∀ i ∈ j.ingredients, W.Has i)
    (hallows : rule.Allows (j.outline base.dialect)) :
    ∀ condition ∈ Join.toCondition j, W.Gives base rule condition := by
  obtain ⟨kind, name, source, aliasName, on, entity⟩ := j
  rw [Join.toCondition_eq]
  cases on with
  | none => nofun
  | some f =>
    rw [Join.ingredients, List.forall_mem_append] at h
    intro condition hcondition
    obtain rfl := Option.some.inj hcondition
    exact Filter.gives_sql hregistry (Filter.laid f hrule h.2 hallows)

/-- The conditions of joins are laid out. -/
theorem Join.laid_all (joins : List Join) {rule : Rule} (hrule : W.Obeys rule)
    (h : ∀ i ∈ Join.allIngredients joins, W.Has i)
    (hallows : rule.Allows (Join.outlines base.dialect joins)) :
    ∀ o ∈ Join.toConditions joins, ∀ condition ∈ o, W.Gives base rule condition := by
  cases joins with
  | nil => nofun
  | cons j rest =>
    rw [Join.allIngredients, List.forall_mem_append] at h
    rw [Join.outlines, Rule.allows_append] at hallows
    exact List.forall_mem_cons.mpr
      ⟨Join.laid j hrule h.1 hallows.1, Join.laid_all rest hrule h.2 hallows.2⟩

theorem RelationalTarget.laid (t : RelationalTarget) {rule : Rule} (hrule : W.Obeys rule)
    (h : ∀ i ∈ t.ingredients, W.Has i) (hallows : rule.Allows (t.outline base.dialect)) :
    (RelationalTarget.toSource t).IsLaid base W rule := by
  obtain ⟨schema, table, aliasName, joins, entity⟩ := t
  rw [RelationalTarget.ingredients, List.forall_mem_append, Wording.has_named, List.forall_mem_append,
    List.forall_mem_cons] at h
  obtain ⟨⟨⟨htable, hschema⟩, halias⟩, hjoins⟩ := h
  rw [RelationalTarget.toSource]
  refine ⟨⟨fun s hs => hschema s (Option.mem_toList.mpr hs), htable,
    fun a ha => halias a (Option.mem_toList.mpr ha), fun j hj => ?_⟩,
    Join.laid_all joins hrule hjoins hallows⟩
  have hj := Join.isWorded_of_has hjoins j hj
  exact ⟨.name hj.1, hj.2⟩

theorem DataTarget.laid (t : DataTarget) {rule : Rule} (hrule : W.Obeys rule)
    (h : ∀ i ∈ t.ingredients, W.Has i) (hallows : rule.Allows (t.outline base.dialect)) :
    (DataTarget.toSource t base.model).IsLaid base W rule := by
  obtain ⟨entity, aliasName, joins⟩ := t
  rw [DataTarget.ingredients, List.forall_mem_append, Wording.has_named, List.forall_mem_cons] at h
  obtain ⟨⟨hentity, halias⟩, hjoins⟩ := h
  have htable := names_mappedTable hmodel hentity
  rw [DataTarget.toSource]
  refine ⟨⟨htable.1, htable.2, fun a ha => halias a (Option.mem_toList.mpr ha), fun j hj => ?_⟩,
    Join.laid_all joins hrule hjoins hallows⟩
  obtain ⟨j', hj', rfl⟩ := List.mem_map.mp hj
  have hj := Join.isWorded_of_has hjoins j' hj'
  have hsource := names_mappedTable hmodel hj.1
  exact ⟨isDotted_qualified hsource.1 hsource.2, hj.2⟩

/-- A selection is laid out. -/
theorem Selection.laid (s : Selection) {rule : Rule} (hrule : W.Obeys rule)
    (h : ∀ i ∈ s.ingredients, W.Has i) (hallows : rule.Allows (s.outline base.dialect)) :
    W.Gives base rule (Selection.toSql s) := by
  obtain ⟨expr, aliasName⟩ := s
  rw [Selection.ingredients, List.forall_mem_append] at h
  rw [Selection.outline] at hallows
  rw [Selection.toSql]
  cases hquery : expr.isQuery with
  | true =>
    refine .bind (Expression.laid expr W.obeys_anything h.2 (.inl rfl)) fun sql _ => ?_
    exact .pure fun acc hsql => .enclosed nofun fun _ => hsql
  | false =>
    rw [Expression.outline_of_not_query hquery] at hallows
    refine .bind (Expression.laid expr hrule h.2 hallows) fun sql _ => ?_
    exact .pure fun acc hsql => .enclosed (fun _ => hsql) nofun

/-- Several selections are laid out. -/
theorem Selection.laid_all (selections : List Selection) {rule : Rule} (hrule : W.Obeys rule)
    (h : ∀ i ∈ Selection.allIngredients selections, W.Has i)
    (hallows : rule.Allows (Selection.outlines base.dialect selections)) :
    (Selection.allToSql selections).Upholds base (Scope.IsWorded W.strict) fun acc sqls =>
      ∀ sql ∈ sqls, LaysText W.value acc rule sql := by
  cases selections with
  | nil => exact .pure fun _ => by simp
  | cons s rest =>
    rw [Selection.allIngredients, List.forall_mem_append] at h
    rw [Selection.outlines, Rule.allows_append] at hallows
    rw [Selection.allToSql]
    refine .bind (Selection.laid s hrule h.1 hallows.1) fun sql _ => ?_
    refine .bind (Selection.laid_all rest hrule h.2 hallows.2) fun sqls _ => ?_
    exact .pure fun _ hsqls hsql => List.forall_mem_cons.mpr ⟨hsql, hsqls⟩

/-- The columns of a projection are laid out. -/
theorem Projection.laid (p : Projection) {rule : Rule} (hrule : W.Obeys rule)
    (h : ∀ i ∈ p.ingredients, W.Has i) (hallows : rule.Allows (p.outline base.dialect)) :
    (Projection.toColumns p).Upholds base (Scope.IsWorded W.strict) fun acc columns =>
      ∀ column ∈ columns, LaysText W.value acc rule column.text := by
  obtain ⟨selections, aliasMode, converter⟩ := p
  rw [Projection.toColumns]
  refine .bind (.ofResult (P := fun _ _ => True) fun _ _ _ => trivial) fun _ _ => ?_
  refine .bind .aliasMode fun mode _ => .bind .sequence fun n _ => ?_
  refine .bind (Selection.laid_all selections hrule h hallows) fun sqls _ => ?_
  refine .pure fun acc hsqls _ _ _ => ?_
  have haliases := Selection.isIdentifier_aliases (aliasMode.getD mode) n {}
    (Selection.isIdentifier_explicitAliases h)
  exact LaysText.columns hrule.strict hsqls haliases

/-- The condition of a query is laid out, if it has one. -/
theorem Filter.laid_condition (filter : Option Filter) {rule : Rule} (hrule : W.Obeys rule)
    (h : ∀ i ∈ conditionIngredients filter, W.Has i)
    (hallows : rule.Allows (conditionOutline base.dialect filter)) :
    (conditionSql filter).Upholds base (Scope.IsWorded W.strict) fun acc condition =>
      ∀ a ∈ condition, LaysText W.value acc rule a := by
  cases filter with
  | none => exact .pure fun _ => nofun
  | some f => exact Filter.gives_condition hregistry (Filter.laid f hrule h hallows)

/-- The order of a query is laid out, if it has one. -/
theorem SortOrder.laid_order (sort : Option SortOrder) {rule : Rule} (hrule : W.Obeys rule)
    (h : ∀ i ∈ orderIngredients sort, W.Has i)
    (hallows : rule.Allows (orderOutline base.dialect sort)) :
    (orderSql sort).Upholds base (Scope.IsWorded W.strict) fun acc order =>
      ∀ a ∈ order, LaysText W.value acc rule a := by
  cases sort with
  | none => exact .pure fun _ => nofun
  | some o => exact SortOrder.gives_order hregistry hrule (SortOrder.laid o hrule h hallows)

/-- The clauses of a query over a source that is laid out are laid out. -/
theorem SelectQuery.laid_clauses (q : SelectQuery) {rule : Rule} (hrule : W.Obeys rule)
    (h : ∀ i ∈ q.ingredients, W.Has i) (hallows : rule.Allows (q.outline base.dialect)) {s : Source}
    (hs : s.IsLaid base W rule) :
    (q.clausesFrom s).Upholds base (Scope.IsWorded W.strict) fun acc c =>
      c.IsLaid W.value acc rule := by
  rw [SelectQuery.ingredients_eq, List.forall_mem_append, List.forall_mem_append,
    List.forall_mem_append] at h
  rw [SelectQuery.outline_eq, Rule.allows_append, Rule.allows_append, Rule.allows_append] at hallows
  obtain ⟨source, distinct, projection, filter, sort, limit, offset, lock⟩ := q
  obtain ⟨⟨⟨hprojection, _⟩, hfilter⟩, hsort⟩ := h
  obtain ⟨⟨⟨hprojects, _⟩, hfilters⟩, hsorts⟩ := hallows
  have hcolumns : (projectedColumns projection).Upholds base (Scope.IsWorded W.strict)
      fun acc columns => ∀ column ∈ columns, LaysText W.value acc rule column.text := by
    cases projection with
    | none => exact .pure fun _ => nofun
    | some p => exact Projection.laid p hrule hprojection hprojects
  have hcondition := Filter.laid_condition filter hrule hfilter hfilters
  have horder := SortOrder.laid_order sort hrule hsort hsorts
  refine (SelectQuery.upholds_clauses hregistry hrule hs hcolumns hcondition horder).mono ?_
  exact fun _ _ h => ⟨h.2.1, h.1, h.2.2.1, h.2.2.2⟩

/-- The source of a query is laid out. -/
theorem SelectQuery.laid_source (q : SelectQuery) {rule : Rule} (hrule : W.Obeys rule)
    (h : ∀ i ∈ q.ingredients, W.Has i) (hallows : rule.Allows (q.outline base.dialect)) :
    (SelectQuery.toSource q).Upholds base (Scope.IsWorded W.strict) fun _ s =>
      s.IsLaid base W rule := by
  rw [SelectQuery.ingredients_eq, List.forall_mem_append, List.forall_mem_append,
    List.forall_mem_append] at h
  rw [SelectQuery.outline_eq, Rule.allows_append, Rule.allows_append, Rule.allows_append] at hallows
  obtain ⟨source, distinct, projection, filter, sort, limit, offset, lock⟩ := q
  exact Expression.laid_source source hrule h.1.1.2 hallows.1.1.2

end

end Mutual

end SqlCompose
