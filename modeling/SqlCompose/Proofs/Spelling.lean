import SqlCompose.Proofs.Fragments
import SqlCompose.Proofs.Spells
import SqlCompose.Proofs.Valid

/-!
# SqlCompose.Proofs.Spelling -- every expression is spelled from its ingredients

If a lexicon has the ingredients of an expression and the names of the data
model, it spells the text that the expression resolves into, with all raw SQL of
the expression in order. The proof goes along the recursion of the resolution,
with one theorem for each of its functions.
-/

namespace SqlCompose

open Compose Lexicon

variable {base : Context} {L : Lexicon}

/-! ## Leaves -/

/-- The characters of raw SQL are filled with placeholders of its values. -/
theorem emits_fills (raw : RawSql) (quoted : Bool) (values : List Value) (cs : List Char) :
    (raw.fill quoted values cs).Emits base L.plain fun acc out =>
      acc.Fills quoted values cs out := by
  -- on the text: a marker outside of literals takes a value
  induction cs generalizing quoted values with
  | nil =>
    cases values with
    | nil => exact .pure fun _ => .nil
    | cons v rest => exact .throw _
  | cons c rest ih =>
    cases values with
    | nil =>
      rw [RawSql.fill]
      split
      · exact .throw _
      · refine .bind (ih _ []) fun out _ => ?_
        exact .pure fun _ hout => .char ‹_› hout
    | cons v others =>
      rw [RawSql.fill]
      split
      · rename_i hmarker
        obtain ⟨rfl, rfl⟩ := hmarker
        refine .bind (.addParameter _) fun name _ => .bind (ih false others) fun out _ => ?_
        exact .pure fun _ hout hname => .marker hname hout
      · refine .bind (ih _ (v :: others)) fun out _ => ?_
        exact .pure fun _ hout => .char ‹_› hout

theorem spelled_raw {raw : RawSql} (h : L.raw raw) :
    raw.sql.Emits base L.plain fun acc text => L.Text acc [raw] text := by
  refine .bind (emits_fills raw false raw.parameters raw.text.toList) fun out _ => ?_
  refine .pure fun acc hout => ?_
  rw [Lexicon.Text, String.toList_ofList]
  exact .raw h hout

theorem spelled_placeholder (hregistry : base.registry.IsPlain) (l : Literal) :
    l.placeholder.Emits base L.plain fun acc text => L.Text acc [] text := by
  refine .bind (.resolveParameter hregistry l) fun p _ => ?_
  refine (Emits.addParameter p).mono fun acc name hname hp => ?_
  exact .value (hp ▸ L.literal base.dialect l) hname

/-- A literal is the placeholder of its value, or a list of such placeholders. -/
theorem spelled_literal (hregistry : base.registry.IsPlain) (l : Literal) :
    l.resolveSql.Emits base L.plain fun acc text => L.Text acc [] text := by
  refine .resolveText hregistry fun _ => ?_
  unfold Literal.sql
  cases l.value with
  | list items =>
    refine .bind (.mapM fun item _ => spelled_placeholder hregistry ⟨item, l.temporal⟩)
      fun names _ => ?_
    refine .pure fun acc hnames => ?_
    have hcommas := Text.commas ((List.forall₂_map_left_iff (f := fun _ : Value => [])).mpr hnames)
    simpa using hcommas
  | _ => exact spelled_placeholder hregistry l

/-! ## Sources -/

/-- The condition of a join is spelled, and a join without one has no raw SQL. -/
def ConditionSpelled (base : Context) (L : Lexicon) (rs : List RawSql) :
    Option (Compose String) → Prop
  | some condition => condition.Emits base L.plain fun acc text => L.Text acc rs text
  | none => rs = []

/-- What a source writes of its target is plain, and the conditions of its joins are spelled. -/
structure Source.Spelled (base : Context) (L : Lexicon) (s : Source) (rs : List RawSql) : Prop where
  target : s.target.IsPlain L.plain
  length : s.conditions.length = s.target.joins.length
  conditions : ∃ rss : List (List RawSql), rss.flatten = rs ∧
    List.Forall₂ (ConditionSpelled base L) rss s.conditions

theorem spelled_conditionTokens {rs : List RawSql} {condition : Option (Compose String)}
    (h : ConditionSpelled base L rs condition) :
    (conditionTokens condition).Emits base L.plain fun acc tokens =>
      L.Tokens base.dialect acc rs tokens := by
  cases condition with
  | none =>
    obtain rfl := h
    exact .pure fun _ => Tokens.nil
  | some condition =>
    refine .bind h fun sql _ => .pure fun _ hsql => ?_
    exact Tokens.words (k := [.space, .on, .space]) (by decide) (.last hsql)

theorem spelled_joinTokens {joins : List Join} {conditions : List (Option (Compose String))}
    (hlength : conditions.length = joins.length) {rss : List (List RawSql)}
    (h : List.Forall₂ (ConditionSpelled base L) rss conditions) :
    (joinTokens (joins.zip conditions)).Emits base L.plain fun acc tokens =>
      L.Tokens base.dialect acc rss.flatten tokens := by
  -- on the conditions, one for each join
  induction h generalizing joins with
  | nil =>
    rw [List.zip_nil_right]
    exact .pure fun _ => Tokens.nil
  | cons hcondition _ ih =>
    cases joins with
    | nil => simp at hlength
    | cons j joins =>
      rw [List.zip_cons_cons, joinTokens]
      refine .bind (.lookup (P := fun b => ∀ b' ∈ b, b'.IsPlain L.plain) fun chain hchain b hb =>
        findBinding_isPlain hchain hb) fun b _ => ?_
      cases b with
      | none => exact .refuse _
      | some b =>
        refine .bind (spelled_conditionTokens hcondition) fun on _ => ?_
        refine .bind (ih (by simpa using hlength)) fun others _ => ?_
        refine .pure fun acc hothers hon hb => ?_
        have hb := hb b rfl
        have hjoin : L.Tokens base.dialect acc [] [.space, .join j.kind, .space, .ident b.table] :=
          .words (k := [.space, .join j.kind, .space]) (by cases j.kind <;> decide)
            (.ident hb.table)
        exact ((hjoin.append (.aliased hb.aliasName)).append hon).append hothers

/-- The text of a source has the raw SQL of the conditions of its joins. -/
theorem Source.Spelled.text {s : Source} {rs : List RawSql} (h : s.Spelled base L rs) :
    s.text.Emits base L.plain fun acc text => L.Text acc rs text := by
  obtain ⟨htarget, hlength, rss, rfl, hconditions⟩ := h
  unfold Source.text
  refine .bind (.updateScope fun scope hscope => hscope.seed L.writable htarget) fun _ _ => ?_
  refine .bind (.lookup (P := fun b => ∀ b' ∈ b, b'.IsPlain L.plain) fun chain hchain b hb =>
    findBinding_isPlain hchain hb) fun root _ => ?_
  refine .bind (spelled_joinTokens hlength hconditions) fun joins _ => ?_
  refine .write fun acc hjoins hroot _ => ?_
  have hgiven : ∀ a ∈ root.bind Binding.aliasName, Plain L.plain a := by
    intro a ha
    obtain ⟨b, hb, ha⟩ := Option.bind_eq_some_iff.mp ha
    exact (hroot b hb).aliasName a ha
  have htable : L.Text acc [] (Token.text base.dialect (.qualified s.target.schema s.target.table)) :=
    .of_plain (htarget.qualified L.writable)
  exact (Tokens.cons htable (.aliased hgiven)).append hjoins

/-- What mapped joins write is plain if the joins and the names of the model are. -/
theorem Join.isPlain_mapped {model : Option DataModel} (hmodel : ∀ s ∈ modelNames model, Plain L.plain s)
    {j : Join} (h : j.IsPlain L.plain) : (j.mapped model).IsPlain L.plain := by
  have htable := plain_mappedTable hmodel h.source
  exact ⟨plain_qualified L.writable htable.1 htable.2, h.aliasName⟩

/-- What joins write is plain if a lexicon has their ingredients. -/
theorem Join.isPlain_of_hasAll {joins : List Join} (h : L.HasAll (Join.allIngredients joins)) :
    ∀ j ∈ joins, j.IsPlain L.plain := by
  induction joins with
  | nil => simp
  | cons j rest ih =>
    rw [Join.allIngredients, hasAll_append, Join.ingredients_eq, hasAll_append, hasAll_named,
      allPlain_cons, allPlain_toList] at h
    exact List.forall_mem_cons.mpr ⟨⟨h.1.1.1, h.1.1.2⟩, ih h.2⟩

/-- The aliases that were given to selections are plain if a lexicon has them. -/
theorem Selection.plain_explicitAliases_of_hasAll {selections : List Selection}
    (h : L.HasAll (Selection.allIngredients selections)) :
    ∀ s ∈ selections, ∀ a ∈ s.explicitAlias, Plain L.plain a := by
  induction selections with
  | nil => simp
  | cons s rest ih =>
    obtain ⟨expr, aliasName⟩ := s
    rw [Selection.allIngredients, hasAll_append, Selection.ingredients, hasAll_append, hasAll_named,
      allPlain_toList] at h
    refine List.forall_mem_cons.mpr ⟨Selection.plain_explicitAlias h.1.1 ?_, ih h.2⟩
    rintro p rfl
    exact hasAll_named.mp h.1.2

/-! ## The fragments of every expression -/

theorem Filter.spelled_sql (hregistry : base.registry.IsPlain) {f : Filter} {rs : List RawSql}
    (h : (Filter.toTokens f).Emits base L.plain fun acc tokens =>
      L.Tokens base.dialect acc rs tokens) :
    (Expression.toSql (.filter f)).Emits base L.plain fun acc text => L.Text acc rs text := by
  rw [Expression.toSql]
  exact .resolveText hregistry fun _ => .bind h fun tokens _ => .write fun _ htokens => htokens

theorem SortOrder.spelled_sql (hregistry : base.registry.IsPlain) {s : SortOrder} {rs : List RawSql}
    (h : (SortOrder.toTerms s).Emits base L.plain fun acc terms =>
      ∃ rss : List (List RawSql), rss.flatten = rs ∧ List.Forall₂ (L.Text acc) rss terms) :
    (Expression.toSql (.sort s)).Emits base L.plain fun acc text => L.Text acc rs text := by
  rw [Expression.toSql]
  refine .resolveText hregistry fun _ => .bind h fun terms _ => .write fun acc hterms => ?_
  obtain ⟨rss, rfl, heach⟩ := hterms
  exact Tokens.commas heach

section Mutual

set_option linter.unusedSectionVars false

variable (hregistry : base.registry.IsPlain) (hmodel : ∀ s ∈ modelNames base.model, Plain L.plain s)

include hregistry hmodel

mutual

/-- The text of an expression is spelled from its ingredients. -/
theorem Expression.spelled (e : Expression) (h : L.HasAll e.ingredients) :
    (Expression.toSql e).Emits base L.plain fun acc text =>
      L.Text acc (raws e.ingredients) text := by
  cases e with
  | path p =>
    rw [Expression.ingredients, hasAll_named] at h
    rw [Expression.toSql, Expression.ingredients, raws_named]
    refine .resolveText hregistry fun _ => (emits_path L.writable hmodel h).mono fun _ _ htext => ?_
    exact .of_plain htext
  | dataTarget t =>
    rw [Expression.toSql]
    refine .resolveText hregistry fun _ => .bind (.source hregistry) fun s hs => ?_
    obtain ⟨_, rfl⟩ := hs
    refine (Emits.resolveText hregistry fun _ => ?_).mono fun _ _ h _ => h
    exact (DataTarget.spelled t h).text
  | target t =>
    rw [Expression.toSql]
    exact .resolveText hregistry fun _ => (RelationalTarget.spelled t h).text
  | filter f => exact Filter.spelled_sql hregistry (Filter.spelled f h)
  | sort s => exact SortOrder.spelled_sql hregistry (SortOrder.spelled s h)
  | function f =>
    rw [Expression.toSql]
    exact .resolveText hregistry fun hvalid => FunctionCall.spelled f h hvalid
  | literal l =>
    rw [Expression.toSql]
    exact spelled_literal hregistry l
  | parameter p =>
    rw [Expression.ingredients, hasAll_cons] at h
    rw [Expression.toSql]
    refine .resolveText hregistry fun _ => (Emits.addParameter p).mono fun _ _ hname => ?_
    exact .value h.1 hname
  | sql r =>
    rw [Expression.ingredients, hasAll_cons] at h
    rw [Expression.toSql]
    exact .resolveText hregistry fun _ => spelled_raw h.1
  | query q =>
    rw [Expression.toSql]
    refine .resolveText hregistry fun _ => .bind (SelectQuery.spelled_source q h) fun s hs => ?_
    obtain ⟨_, hs⟩ := hs
    refine .bind (.inStatement L.writable hs.target (SelectQuery.spelled q h hs)) fun rendered _ => ?_
    exact .pure fun _ hrendered _ => hrendered

/-- The texts of several expressions are spelled. -/
theorem Expression.spelled_all (es : List Expression)
    (h : L.HasAll (Expression.allIngredients es)) :
    (Expression.allToSql es).Emits base L.plain fun acc texts =>
      List.Forall₂ (L.Text acc) (es.map fun e => raws e.ingredients) texts := by
  cases es with
  | nil => exact .pure fun _ => .nil
  | cons e rest =>
    rw [Expression.allIngredients, hasAll_append] at h
    rw [Expression.allToSql]
    refine .bind (Expression.spelled e h.1) fun text _ => ?_
    refine .bind (Expression.spelled_all rest h.2) fun texts _ => ?_
    exact .pure fun _ htexts htext => .cons htext htexts

/-- The source of a target has plain names and spelled conditions. -/
theorem Expression.spelled_source (e : Expression) (h : L.HasAll e.ingredients) :
    (Expression.toSource e).Emits base L.plain fun _ s =>
      s.Spelled base L (raws e.ingredients) := by
  cases e with
  | dataTarget t =>
    rw [Expression.toSource]
    exact (Emits.source hregistry).mono fun _ _ hs => hs ▸ DataTarget.spelled t h
  | target t =>
    rw [Expression.toSource]
    exact (Emits.source hregistry).mono fun _ _ hs => hs ▸ RelationalTarget.spelled t h
  | _ =>
    rw [Expression.toSource]
    · exact .no_source hregistry
    all_goals simp

/-- The tokens of a filter are spelled. -/
theorem Filter.spelled (f : Filter) (h : L.HasAll f.ingredients) :
    (Filter.toTokens f).Emits base L.plain fun acc tokens =>
      L.Tokens base.dialect acc (raws f.ingredients) tokens := by
  cases f with
  | nullTest negated operand =>
    rw [Filter.toTokens, Filter.ingredients]
    refine .bind (Expression.spelled operand h) fun sql _ => .pure fun acc hsql => ?_
    have htest : L.Tokens base.dialect acc [] [.space, if negated then .isNotNull else .isNull] :=
      .only_words (by cases negated <;> decide)
    simpa using Tokens.fragment hsql htest
  | compare op left right =>
    rw [Filter.ingredients, hasAll_append] at h
    rw [Filter.toTokens, Filter.ingredients, raws_append]
    refine .bind (Expression.spelled left h.1) fun l _ => ?_
    cases hright : right.isNullLiteral with
    | true =>
      -- a null on the right is not resolved, and it has no raw SQL
      have hnone : raws right.ingredients = [] := by
        cases right <;> first | rfl | cases hright
      simp only [if_true, hnone]
      refine .pure fun acc hl => Tokens.fragment hl (.only_words ?_)
      cases op <;> decide
    | false =>
      simp only [Bool.false_eq_true, if_false]
      refine .bind (Expression.spelled right h.2) fun r _ => .pure fun acc hr hl => ?_
      exact Tokens.fragment hl (.fixed (by cases op <;> decide) (.last hr))
  | member negated left right =>
    rw [Filter.ingredients, hasAll_append] at h
    rw [Filter.toTokens, Filter.ingredients, raws_append]
    refine .bind (Expression.spelled left h.1) fun l _ => ?_
    refine .bind (Expression.spelled right h.2) fun r _ => .pure fun acc hr hl => ?_
    refine Tokens.fragment hl (.fixed (by decide) (.words ?_ (.words (k := [.in, .space]) (by decide)
      (.in_parentheses hr))))
    cases negated <;> decide
  | between operand low high =>
    rw [Filter.ingredients, hasAll_append, hasAll_append] at h
    rw [Filter.toTokens, Filter.ingredients, raws_append, raws_append, List.append_assoc]
    refine .bind (Expression.spelled operand h.1.1) fun o _ => ?_
    refine .bind (Expression.spelled low h.1.2) fun l _ => ?_
    refine .bind (Expression.spelled high h.2) fun u _ => .pure fun acc hu hl ho => ?_
    have hand := Tokens.fragment hl (.words (d := base.dialect) (k := [.space, .and, .space])
      (by decide) (.last hu))
    exact Tokens.fragment ho (.words (k := [.space, .between, .space]) (by decide) hand)
  | like operand text mode ignoreCase =>
    rw [Filter.toTokens]
    refine .bind (Expression.spelled operand h) fun o _ => .bind .dialect fun d hd => ?_
    obtain ⟨_, rfl⟩ := hd
    refine .bind (spelled_literal hregistry _) fun marker _ => ?_
    exact .pure fun acc hmarker _ ho => .like ignoreCase ho hmarker
  | junction op children =>
    rw [Filter.toTokens]
    refine .bind (Filter.spelled_all children h) fun tokens _ => .pure fun acc htokens => ?_
    rw [Filter.ingredients, Filter.raws_all]
    exact .junction op htokens
  | not child =>
    rw [Filter.toTokens]
    refine .bind (Filter.spelled child h) fun tokens _ => .pure fun acc htokens => ?_
    exact Tokens.words (k := [.not, .space]) (by decide) htokens.parentheses
  | rows negated query =>
    rw [Filter.toTokens]
    refine .bind (Expression.spelled query h) fun sql _ => .pure fun acc hsql => ?_
    refine Tokens.words ?_ (.words (k := [.exists, .space]) (by decide) (.in_parentheses hsql))
    cases negated <;> decide

/-- The tokens of several filters are spelled. -/
theorem Filter.spelled_all (fs : List Filter) (h : L.HasAll (Filter.allIngredients fs)) :
    (Filter.allToTokens fs).Emits base L.plain fun acc tokens =>
      List.Forall₂ (L.Tokens base.dialect acc) (fs.map fun f => raws f.ingredients) tokens := by
  cases fs with
  | nil => exact .pure fun _ => .nil
  | cons f rest =>
    rw [Filter.allIngredients, hasAll_append] at h
    rw [Filter.allToTokens]
    refine .bind (Filter.spelled f h.1) fun tokens _ => ?_
    refine .bind (Filter.spelled_all rest h.2) fun others _ => ?_
    exact .pure fun _ hothers htokens => .cons htokens hothers

/-- The terms of a sort are spelled. -/
theorem SortOrder.spelled (s : SortOrder) (h : L.HasAll s.ingredients) :
    (SortOrder.toTerms s).Emits base L.plain fun acc terms =>
      ∃ rss : List (List RawSql), rss.flatten = raws s.ingredients ∧
        List.Forall₂ (L.Text acc) rss terms := by
  cases s with
  | term expr direction =>
    rw [SortOrder.toTerms]
    refine .bind (Expression.spelled expr h) fun sql _ => .pure fun acc hsql => ?_
    have hdirection : L.Text acc [] direction.keyword :=
      .of_unmarked (by cases direction <;> decide)
    have hterm := (hsql.append (.of_unmarked (a := " ") (by decide))).append hdirection
    rw [List.append_nil, List.append_nil] at hterm
    exact ⟨[_], List.flatten_singleton, .cons hterm .nil⟩
  | composite terms =>
    rw [SortOrder.toTerms]
    exact SortOrder.spelled_all terms h

/-- The terms of several sorts are spelled. -/
theorem SortOrder.spelled_all (sorts : List SortOrder)
    (h : L.HasAll (SortOrder.allIngredients sorts)) :
    (SortOrder.allToTerms sorts).Emits base L.plain fun acc terms =>
      ∃ rss : List (List RawSql), rss.flatten = raws (SortOrder.allIngredients sorts) ∧
        List.Forall₂ (L.Text acc) rss terms := by
  cases sorts with
  | nil => exact .pure fun _ => ⟨[], rfl, .nil⟩
  | cons s rest =>
    rw [SortOrder.allIngredients, hasAll_append] at h
    rw [SortOrder.allToTerms, SortOrder.allIngredients, raws_append]
    refine .bind (SortOrder.spelled s h.1) fun terms _ => ?_
    refine .bind (SortOrder.spelled_all rest h.2) fun others _ => .pure fun _ hothers hterms => ?_
    obtain ⟨rss, hflat, heach⟩ := hterms
    obtain ⟨rss', hflat', heach'⟩ := hothers
    exact ⟨rss ++ rss', by rw [List.flatten_append, hflat, hflat'], List.rel_append heach heach'⟩

/-- A function call is spelled. -/
theorem FunctionCall.spelled (f : FunctionCall) (h : L.HasAll f.ingredients)
    (hvalid : FunctionCall.validate f = .ok ()) :
    (FunctionCall.toSql f).Emits base L.plain fun acc text =>
      L.Text acc (raws f.ingredients) text := by
  obtain ⟨kind, args, distinct⟩ := f
  rw [FunctionCall.ingredients, hasAll_cons] at h
  rw [FunctionCall.validate, ok_then_iff] at hvalid
  rw [FunctionCall.toSql]
  refine .bind (Expression.spelled_all args h.2) fun texts _ => .bind .dialect fun d hd => ?_
  obtain ⟨_, rfl⟩ := hd
  refine .pure fun acc _ htexts => ?_
  have hlength := htexts.length_eq
  rw [List.length_map] at hlength
  rw [FunctionCall.ingredients, raws_name, Expression.raws_all]
  exact .function h.1 (hlength ▸ hvalid.1) htexts

/-- The condition of a join is spelled. -/
theorem Join.spelled (j : Join) (h : L.HasAll j.ingredients) :
    ConditionSpelled base L (raws j.ingredients) (Join.toCondition j) := by
  obtain ⟨kind, name, source, aliasName, on, entity⟩ := j
  rw [Join.toCondition_eq, Join.ingredients_eq, raws_append, raws_named, List.nil_append]
  cases on with
  | none => rfl
  | some f =>
    rw [Join.ingredients, hasAll_append] at h
    exact Filter.spelled_sql hregistry (Filter.spelled f h.2)

/-- The conditions of joins are spelled. -/
theorem Join.spelled_all (joins : List Join) (h : L.HasAll (Join.allIngredients joins)) :
    List.Forall₂ (ConditionSpelled base L) (joins.map fun j => raws j.ingredients)
      (Join.toConditions joins) := by
  cases joins with
  | nil => exact .nil
  | cons j rest =>
    rw [Join.allIngredients, hasAll_append] at h
    exact .cons (Join.spelled j h.1) (Join.spelled_all rest h.2)

theorem RelationalTarget.spelled (t : RelationalTarget) (h : L.HasAll t.ingredients) :
    (RelationalTarget.toSource t).Spelled base L (raws t.ingredients) := by
  obtain ⟨schema, table, aliasName, joins, entity⟩ := t
  rw [RelationalTarget.ingredients, hasAll_append, hasAll_named] at h
  rw [RelationalTarget.toSource, RelationalTarget.ingredients, raws_append, raws_named]
  obtain ⟨hnames, hjoins⟩ := h
  rw [allPlain_append, allPlain_cons, allPlain_toList, allPlain_toList] at hnames
  refine ⟨?_, by simp [Join.toConditions_eq], _, (Join.raws_all joins).symm,
    Join.spelled_all joins hjoins⟩
  exact ⟨hnames.1.2, hnames.1.1, hnames.2, Join.isPlain_of_hasAll hjoins⟩

theorem DataTarget.spelled (t : DataTarget) (h : L.HasAll t.ingredients) :
    (DataTarget.toSource t base.model).Spelled base L (raws t.ingredients) := by
  obtain ⟨entity, aliasName, joins⟩ := t
  rw [DataTarget.ingredients, hasAll_append, hasAll_named] at h
  rw [DataTarget.toSource, DataTarget.ingredients, raws_append, raws_named]
  obtain ⟨hnames, hjoins⟩ := h
  rw [allPlain_cons, allPlain_toList] at hnames
  have htable := plain_mappedTable hmodel hnames.1
  refine ⟨⟨htable.1, htable.2, hnames.2, ?_⟩, by simp [Join.toConditions_eq, DataTarget.mapped],
    _, (Join.raws_all joins).symm, Join.spelled_all joins hjoins⟩
  intro j hj
  obtain ⟨j', hj', rfl⟩ := List.mem_map.mp hj
  exact Join.isPlain_mapped hmodel (Join.isPlain_of_hasAll hjoins j' hj')

/-- A selection is spelled. -/
theorem Selection.spelled (s : Selection) (h : L.HasAll s.ingredients) :
    (Selection.toSql s).Emits base L.plain fun acc text =>
      L.Text acc (raws s.ingredients) text := by
  obtain ⟨expr, aliasName⟩ := s
  rw [Selection.ingredients, hasAll_append] at h
  rw [Selection.toSql, Selection.ingredients, raws_append, raws_named]
  refine .bind (Expression.spelled expr h.2) fun sql _ => .pure fun acc hsql => ?_
  exact hsql.enclosed _

/-- Several selections are spelled. -/
theorem Selection.spelled_all (selections : List Selection)
    (h : L.HasAll (Selection.allIngredients selections)) :
    (Selection.allToSql selections).Emits base L.plain fun acc sqls =>
      List.Forall₂ (L.Text acc) (selections.map fun s => raws s.ingredients) sqls := by
  cases selections with
  | nil => exact .pure fun _ => .nil
  | cons s rest =>
    rw [Selection.allIngredients, hasAll_append] at h
    rw [Selection.allToSql]
    refine .bind (Selection.spelled s h.1) fun sql _ => ?_
    refine .bind (Selection.spelled_all rest h.2) fun sqls _ => ?_
    exact .pure fun _ hsqls hsql => .cons hsql hsqls

/-- The columns of a projection are spelled. -/
theorem Projection.spelled (p : Projection) (h : L.HasAll p.ingredients) :
    (Projection.toColumns p).Emits base L.plain fun acc columns =>
      L.Tokens base.dialect acc (raws p.ingredients) (ProjectedColumn.list columns) := by
  obtain ⟨selections, aliasMode, converter⟩ := p
  rw [Projection.toColumns, Projection.ingredients]
  refine .bind (.ofResult (P := fun _ _ => True) fun _ _ _ => trivial) fun _ _ => ?_
  refine .bind .aliasMode fun mode _ => .bind .sequence fun n _ => ?_
  refine .bind (Selection.spelled_all selections h) fun sqls _ => .pure fun acc hsqls _ _ _ => ?_
  rw [Selection.raws_all]
  refine .list (columns_of_texts hsqls ?_ ?_)
  · rw [Selection.length_aliases, ← hsqls.length_eq, List.length_map]
  · exact Selection.plain_aliases L.writable _ _ _ (Selection.plain_explicitAliases_of_hasAll h)

/-- A query over a spelled source is spelled. -/
theorem SelectQuery.spelled (q : SelectQuery) (h : L.HasAll q.ingredients) {s : Source}
    (hs : s.Spelled base L (raws q.source.ingredients)) :
    (SelectQuery.renderFrom q s).Emits base L.plain fun acc rendered =>
      L.Text acc (raws q.ingredients) rendered.sql := by
  rw [SelectQuery.ingredients_eq, hasAll_append, hasAll_append, hasAll_append] at h
  rw [SelectQuery.renderFrom_eq, SelectQuery.ingredients_eq, raws_append, raws_append, raws_append]
  obtain ⟨source, distinct, projection, filter, sort, limit, offset, lock⟩ := q
  obtain ⟨⟨⟨hprojection, _⟩, hfilter⟩, hsort⟩ := h
  refine .bind (.ofResult (P := fun _ _ => True) fun _ _ _ => trivial) fun _ _ => ?_
  refine .bind (.resolveText hregistry fun _ => hs.text) fun from_ _ => ?_
  -- columns, condition and order in this order, as their raw texts stand in the statement
  have hcolumns : (projectedColumns projection).Emits base L.plain fun acc columns =>
      L.Tokens base.dialect acc (raws (projectionIngredients projection))
        (ProjectedColumn.list columns) := by
    cases projection with
    | none => exact .pure fun _ => .only_words (k := [.star]) (by decide)
    | some p => exact Projection.spelled p hprojection
  have hcondition : (conditionSql filter).Emits base L.plain fun acc condition =>
      L.Tokens base.dialect acc (raws (conditionIngredients filter))
        (optionalClause .where condition) := by
    cases filter with
    | none => exact .pure fun _ => Tokens.nil
    | some f =>
      refine .bind (Filter.spelled_sql hregistry (Filter.spelled f hfilter)) fun sql _ => ?_
      exact .pure fun _ hsql => .optional (by decide) hsql
  have horder : (orderSql sort).Emits base L.plain fun acc order =>
      L.Tokens base.dialect acc (raws (orderIngredients sort)) (optionalClause .orderBy order) := by
    cases sort with
    | none => exact .pure fun _ => Tokens.nil
    | some o =>
      refine .bind (SortOrder.spelled_sql hregistry (SortOrder.spelled o hsort)) fun sql _ => ?_
      exact .pure fun _ hsql => .optional (by decide) hsql
  refine .bind hcolumns fun columns _ => .bind hcondition fun condition _ => ?_
  refine .bind horder fun order _ => ?_
  unfold finishSelect
  refine .bind (.write (P := fun _ sql => sql = _) fun _ => rfl) fun sql hsql => ?_
  obtain ⟨_, rfl⟩ := hsql
  refine .bind .dialect fun d hd => ?_
  obtain ⟨_, rfl⟩ := hd
  refine .bind (.ofResult fun _ hpaged _ => hpaged) fun paged hpaged => ?_
  obtain ⟨_, hpaged⟩ := hpaged
  refine .pure fun acc _ _ _ horder hcondition hcolumns hfrom _ => ?_
  have hselect := Tokens.select (c := ⟨distinct, columns, from_, condition, order⟩) hcolumns hfrom
    hcondition horder
  exact (Text.page hselect hpaged).lock lock

/-- The source of a query has plain names and spelled conditions. -/
theorem SelectQuery.spelled_source (q : SelectQuery) (h : L.HasAll q.ingredients) :
    (SelectQuery.toSource q).Emits base L.plain fun _ s =>
      s.Spelled base L (raws q.source.ingredients) := by
  rw [SelectQuery.ingredients_eq, hasAll_append, hasAll_append, hasAll_append] at h
  obtain ⟨source, distinct, projection, filter, sort, limit, offset, lock⟩ := q
  exact Expression.spelled_source source h.1.1.2

end

end Mutual

end SqlCompose
