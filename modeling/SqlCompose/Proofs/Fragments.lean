import SqlCompose.Proofs.Clauses
import SqlCompose.Proofs.Steps

/-!
# SqlCompose.Proofs.Fragments -- every expression shows its outline

The text that an expression resolves into shows what its outline lists. The
proof goes along the recursion of the resolution, with one theorem for each of
its functions.
-/

namespace SqlCompose

open Compose

variable {base : Context} {plain : Char → Prop} {select : SelectQuery → List Char → Prop}


/-- A text is what some run in a context like `base` made of a sub-select. -/
def Resolves (base : Context) (q : SelectQuery) (w : List Char) : Prop :=
  ∃ chain s t, (Expression.toSql (.query q)).Yields (base.within chain) s (String.ofList w) t

/-- Tokens show items. -/
def ShowsTokens (plain : Char → Prop) (select : SelectQuery → List Char → Prop) (d : Dialect)
    (items : List Item) (acc : Accumulator) (tokens : List Token) : Prop :=
  (acc.reading plain select).Shows (sqlText d tokens).toList items

theorem emits_written {items : List Item} {tokens : Compose (List Token)}
    (h : tokens.Emits base plain (ShowsTokens plain select base.dialect items)) :
    (written tokens).Emits base plain (ShowsText plain select items) := by
  refine .bind h fun tokens _ => ?_
  exact .write fun _ htokens => htokens

/-! ## Sources -/

/-- The condition of a join shows items, and a join without one shows nothing. -/
def ConditionShows (base : Context) (plain : Char → Prop) (select : SelectQuery → List Char → Prop)
    (items : List Item) : Option (Compose String) → Prop
  | some condition => condition.Emits base plain (ShowsText plain select items)
  | none => items = []

/-- A source has plain names, and the conditions of its joins show items. -/
structure Source.Shows (base : Context) (plain : Char → Prop)
    (select : SelectQuery → List Char → Prop) (s : Source) (items : List Item) : Prop where
  names : AllPlain plain s.target.names
  length : s.conditions.length = s.target.joins.length
  conditions : ∃ itemss : List (List Item), itemss.flatten = items ∧
    List.Forall₂ (ConditionShows base plain select) itemss s.conditions

theorem emits_conditionTokens (hplain : Admits plain) {items : List Item}
    {condition : Option (Compose String)} (h : ConditionShows base plain select items condition) :
    (conditionTokens condition).Emits base plain fun acc tokens =>
      (acc.reading plain select).ShowsTail base.dialect tokens items := by
  cases condition with
  | none =>
    obtain rfl := h
    exact .pure fun _ => Reading.ShowsTail.nil
  | some condition =>
    refine .bind h fun sql _ => ?_
    exact .pure fun _ hsql => Reading.ShowsTail.clause hplain (k := [.on]) (by decide) hsql

/-- Joins show what their conditions show. -/
theorem emits_joinTokens (hplain : Admits plain) {joins : List Join}
    {conditions : List (Option (Compose String))} (hlength : conditions.length = joins.length)
    {itemss : List (List Item)}
    (h : List.Forall₂ (ConditionShows base plain select) itemss conditions) :
    (joinTokens (joins.zip conditions)).Emits base plain fun acc tokens =>
      (acc.reading plain select).ShowsTail base.dialect tokens itemss.flatten := by
  -- on the conditions, one for each join
  induction h generalizing joins with
  | nil =>
    rw [List.zip_nil_right]
    exact .pure fun _ => Reading.ShowsTail.nil
  | cons hcondition _ ih =>
    cases joins with
    | nil => simp at hlength
    | cons j joins =>
      rw [List.zip_cons_cons, joinTokens]
      refine .bind (.lookup (P := fun b => ∀ b' ∈ b, b'.IsPlain plain) fun chain hchain b hb =>
        findBinding_isPlain hchain hb) fun b _ => ?_
      cases b with
      | none => exact .refuse _
      | some b =>
        refine .bind (emits_conditionTokens hplain hcondition) fun on _ => ?_
        refine .bind (ih (by simpa using hlength)) fun others _ => ?_
        refine .pure fun acc hothers hon hb => ?_
        have hb := hb b rfl
        have hjoin := Reading.ShowsTail.join (r := acc.reading plain select) (d := base.dialect)
          hplain j.kind hb.table
        have halias := Reading.ShowsTail.aliased (r := acc.reading plain select)
          (d := base.dialect) hplain hb.aliasName
        exact ((hjoin.append halias).append hon).append hothers

/-- The text of a source shows what its joins show. -/
theorem Source.Shows.emits_text (hplain : Admits plain) {s : Source} {items : List Item}
    (h : s.Shows base plain select items) :
    s.text.Emits base plain (ShowsText plain select items) := by
  obtain ⟨hnames, hlength, itemss, rfl, hconditions⟩ := h
  have htarget := RelationalTarget.isPlain_of_names hnames
  have htable := htarget.qualified hplain.writable
  unfold Source.text
  refine .bind (.updateScope fun scope hscope => hscope.seed hplain.writable htarget) fun _ _ => ?_
  refine .bind (.lookup (P := fun b => ∀ b' ∈ b, b'.IsPlain plain) fun chain hchain b hb =>
    findBinding_isPlain hchain hb) fun root _ => ?_
  refine .bind (emits_joinTokens hplain hlength hconditions) fun joins _ => ?_
  refine .write fun acc hjoins hroot _ => ?_
  have hgiven : ∀ a ∈ root.bind Binding.aliasName, Plain plain a := by
    intro a ha
    obtain ⟨b, hb, ha⟩ := Option.bind_eq_some_iff.mp ha
    exact (hroot b hb).aliasName a ha
  have halias := Reading.ShowsTail.aliased (r := acc.reading plain select) (d := base.dialect) hplain
    hgiven
  have htail := halias.append hjoins
  have hshows := Reading.Shows.plain_append (r := acc.reading plain select) htable htail.1
  rw [ShowsText, List.cons_append]
  simpa [toList_sqlText, Token.text] using hshows

/-- The table of an entity has the name that the model gives it, or that of the entity. -/
theorem names_mappedTable {P : String → Prop} {model : Option DataModel}
    (hmodel : ∀ s ∈ modelNames model, P s) {entity : String} (h : P entity) :
    (∀ s ∈ (mappedTable model entity).schema, P s) ∧ P (mappedTable model entity).table := by
  cases model with
  | none => exact ⟨by simp [mappedTable], h⟩
  | some m =>
    cases htable : m.table? entity with
    | none => simpa [mappedTable, htable] using h
    | some t =>
      have hnames : ∀ s, s ∈ t.schema ∨ s = t.table → P s :=
        fun s hs => hmodel s ⟨m, rfl, .inl ⟨entity, t, htable, hs⟩⟩
      have hmapped : mappedTable (some m) entity = t := by simp [mappedTable, htable]
      rw [hmapped]
      exact ⟨fun s hs => hnames s (.inl hs), hnames _ (.inr rfl)⟩

theorem plain_mappedTable {model : Option DataModel}
    (hmodel : ∀ s ∈ modelNames model, Plain plain s) {entity : String} (h : Plain plain entity) :
    (∀ s ∈ (mappedTable model entity).schema, Plain plain s) ∧
      Plain plain (mappedTable model entity).table := names_mappedTable hmodel h

/-- The names of mapped joins are those of the joins and of the model. -/
theorem Join.plain_mapped (hplain : Writable plain) {model : Option DataModel}
    (hmodel : ∀ s ∈ modelNames model, Plain plain s) {joins : List Join}
    (h : AllPlain plain (Join.allNames joins)) :
    AllPlain plain (Join.allNames (joins.map (Join.mapped model))) := by
  induction joins with
  | nil => exact h
  | cons j rest ih =>
    rw [Join.allNames, allPlain_append] at h
    rw [List.map_cons, Join.allNames, allPlain_append]
    refine ⟨?_, ih h.2⟩
    obtain ⟨kind, name, source, aliasName, on, entity⟩ := j
    have hsource := (Join.isPlain_of_names h.1).source
    have htable := plain_mappedTable hmodel hsource
    have hqualified := plain_qualified hplain htable.1 htable.2
    cases on <;> simp_all [Join.mapped, Join.names]

/-- A mapped target has the names of the data target and of the model. -/
theorem DataTarget.plain_mapped (hplain : Writable plain) {model : Option DataModel}
    (hmodel : ∀ s ∈ modelNames model, Plain plain s) {t : DataTarget} (h : AllPlain plain t.names) :
    AllPlain plain (DataTarget.mapped model t).names := by
  obtain ⟨entity, aliasName, joins⟩ := t
  simp only [DataTarget.names, allPlain_cons, allPlain_append] at h
  obtain ⟨⟨hentity, halias⟩, hjoins⟩ := h
  have htable := plain_mappedTable hmodel hentity
  simp only [DataTarget.mapped, RelationalTarget.names, allPlain_cons, allPlain_append]
  refine ⟨⟨⟨⟨htable.2, allPlain_toList.mpr htable.1⟩, halias⟩, ?_⟩, ?_⟩
  · simpa using hentity
  · exact Join.plain_mapped hplain hmodel hjoins

/-! ## The fragments of every expression -/

theorem Filter.outlines_eq (d : Dialect) (fs : List Filter) :
    Filter.outlines d fs = (fs.map (Filter.outline d)).flatten := by
  induction fs with
  | nil => rfl
  | cons f rest ih => simp [Filter.outlines, ih]

theorem Join.outlines_eq (d : Dialect) (joins : List Join) :
    Join.outlines d joins = (joins.map (Join.outline d)).flatten := by
  induction joins with
  | nil => rfl
  | cons j rest ih => simp [Join.outlines, ih]

theorem Selection.outlines_eq (d : Dialect) (selections : List Selection) :
    Selection.outlines d selections = (selections.map (Selection.outline d)).flatten := by
  induction selections with
  | nil => rfl
  | cons s rest ih => simp [Selection.outlines, ih]

/-- A filter that is resolved shows what its tokens show. -/
theorem Filter.emits_sql (hregistry : base.registry.IsPlain) {f : Filter} {items : List Item}
    (h : (Filter.toTokens f).Emits base plain (ShowsTokens plain select base.dialect items)) :
    (Expression.toSql (.filter f)).Emits base plain (ShowsText plain select items) := by
  rw [Expression.toSql]
  exact .resolveText hregistry fun _ => emits_written h

/-- A sort that is resolved shows what its terms show. -/
theorem SortOrder.emits_sql (hplain : Admits plain) (hregistry : base.registry.IsPlain)
    {s : SortOrder} {items : List Item}
    (h : (SortOrder.toTerms s).Emits base plain fun acc terms =>
      ∃ itemss : List (List Item), itemss.flatten = items ∧
        (acc.reading plain select).ShowsEach itemss terms) :
    (Expression.toSql (.sort s)).Emits base plain (ShowsText plain select items) := by
  rw [Expression.toSql]
  refine .resolveText hregistry fun _ => .bind h fun terms _ => .write fun acc hterms => ?_
  obtain ⟨itemss, rfl, heach⟩ := hterms
  rw [ShowsText, sqlText_commaSeparated]
  exact heach.commas hplain

section Mutual

set_option linter.unusedSectionVars false

variable (hplain : Admits plain) (hregistry : base.registry.IsPlain)
  (hmodel : ∀ s ∈ modelNames base.model, Plain plain s)

include hplain hregistry hmodel

mutual

/-- The text of an expression shows its outline. -/
theorem Expression.emits (e : Expression) (h : AllPlain plain e.names) :
    (Expression.toSql e).Emits base plain
      (PresentsText plain (Resolves base) base.dialect e) := by
  cases e with
  | path p =>
    rw [Expression.toSql]
    refine .resolveText hregistry fun _ => (emits_path hplain.writable hmodel h).mono fun _ _ htext => ?_
    exact Reading.Shows.of_plain htext
  | dataTarget t =>
    rw [Expression.toSql]
    refine .resolveText hregistry fun _ => .bind (.source hregistry) fun s hs => ?_
    obtain ⟨_, rfl⟩ := hs
    refine (Emits.resolveText hregistry fun _ => ?_).mono fun _ _ h _ => h
    exact (DataTarget.emits t h).emits_text hplain
  | target t =>
    rw [Expression.toSql]
    exact .resolveText hregistry fun _ => (RelationalTarget.emits t h).emits_text hplain
  | filter f => exact Filter.emits_sql hregistry (Filter.emits f h)
  | sort s => exact SortOrder.emits_sql hplain hregistry (SortOrder.emits s h)
  | function f =>
    rw [Expression.toSql]
    exact .resolveText hregistry fun hvalid => FunctionCall.emits f h hvalid
  | literal l =>
    rw [Expression.toSql]
    exact emits_literal (Resolves base) hplain hregistry l
  | parameter p =>
    rw [Expression.toSql]
    refine .resolveText hregistry fun _ => (Emits.addParameter p).mono fun _ _ hname => ?_
    exact ShowsText.value hname
  | sql raw =>
    rw [Expression.toSql]
    exact .resolveText hregistry fun _ => emits_raw (h raw.text (by simp [Expression.names]))
  | query q =>
    have hquery : (Expression.toSql (.query q)).Emits base plain fun acc text =>
        ShowsText plain (Resolves base) (q.outline base.dialect) acc text ∧
          Opens text.toList := by
      rw [Expression.toSql]
      refine .resolveText hregistry fun _ => .bind (SelectQuery.emits_source q h) fun s hs => ?_
      obtain ⟨_, hs⟩ := hs
      refine .bind (.inStatement hplain.writable (RelationalTarget.isPlain_of_names hs.names)
        (SelectQuery.emits q h hs)) fun rendered _ => ?_
      exact .pure fun _ hrendered _ => hrendered
    -- the run itself tells that the text is one of the sub-select
    intro chain s text t hscope hchain hrun
    obtain ⟨hscope', hstreams, hgrow, hP⟩ := hquery hscope hchain hrun
    refine ⟨hscope', hstreams, hgrow, fun acc hacc => ?_⟩
    obtain ⟨hshows, hopens⟩ := hP acc hacc
    exact ⟨hopens, ⟨chain, s, t, by rwa [String.ofList_toList]⟩, hshows⟩

/-- The texts of several expressions show their outlines. -/
theorem Expression.emits_all (es : List Expression) (h : AllPlain plain (Expression.allNames es)) :
    (Expression.allToSql es).Emits base plain fun acc texts =>
      (acc.reading plain (Resolves base)).PresentsAll base.dialect es texts := by
  cases es with
  | nil => exact .pure fun _ => .nil
  | cons e rest =>
    rw [Expression.allNames, allPlain_append] at h
    rw [Expression.allToSql]
    refine .bind (Expression.emits e h.1) fun text _ => ?_
    refine .bind (Expression.emits_all rest h.2) fun texts _ => ?_
    exact .pure fun _ htexts htext => .cons htext htexts

/-- The source of a target has its names and shows the conditions of its joins. -/
theorem Expression.emits_source (e : Expression) (h : AllPlain plain e.names) :
    (Expression.toSource e).Emits base plain fun _ s =>
      s.Shows base plain (Resolves base) (e.outline base.dialect false) := by
  cases e with
  | dataTarget t =>
    rw [Expression.toSource]
    exact (Emits.source hregistry).mono fun _ _ hs => hs ▸ DataTarget.emits t h
  | target t =>
    rw [Expression.toSource]
    exact (Emits.source hregistry).mono fun _ _ hs => hs ▸ RelationalTarget.emits t h
  | _ =>
    rw [Expression.toSource]
    · exact .no_source hregistry
    all_goals simp

/-- The tokens of a filter show its outline. -/
theorem Filter.emits (f : Filter) (h : AllPlain plain f.names) :
    (Filter.toTokens f).Emits base plain
      (ShowsTokens plain (Resolves base) base.dialect (f.outline base.dialect)) := by
  cases f with
  | nullTest negated operand =>
    rw [Filter.toTokens]
    refine .bind (Expression.emits operand h) fun sql _ => .pure fun acc hsql => ?_
    exact Reading.shows_nullTest hplain hsql (by cases negated <;> decide)
  | compare op left right =>
    rw [Filter.names, allPlain_append] at h
    rw [Filter.toTokens, Filter.outline]
    refine .bind (Expression.emits left h.1) fun l _ => ?_
    cases right.isNullLiteral with
    | true =>
      simp only [if_true, List.append_nil]
      exact .pure fun acc hl => Reading.shows_nullTest hplain hl (by cases op <;> decide)
    | false =>
      simp only [Bool.false_eq_true, if_false]
      refine .bind (Expression.emits right h.2) fun r _ => .pure fun acc hr hl => ?_
      exact Reading.shows_comparison hplain hl hr op
  | member negated left right =>
    rw [Filter.names, allPlain_append] at h
    rw [Filter.toTokens]
    refine .bind (Expression.emits left h.1) fun l _ => ?_
    refine .bind (Expression.emits right h.2) fun r _ => .pure fun acc hr hl => ?_
    exact Reading.shows_member hplain hl hr negated
  | between operand low high =>
    rw [Filter.names, allPlain_append, allPlain_append] at h
    rw [Filter.toTokens]
    refine .bind (Expression.emits operand h.1.1) fun o _ => ?_
    refine .bind (Expression.emits low h.1.2) fun l _ => ?_
    refine .bind (Expression.emits high h.2) fun u _ => .pure fun acc hu hl ho => ?_
    exact Reading.shows_between hplain ho hl hu
  | like operand text mode ignoreCase =>
    rw [Filter.toTokens]
    refine .bind (Expression.emits operand h) fun o _ => .bind .dialect fun d hd => ?_
    obtain ⟨_, rfl⟩ := hd
    refine .bind (emits_literal (Resolves base) hplain hregistry _) fun marker _ => ?_
    exact .pure fun acc hmarker _ ho => Reading.shows_like hplain ho hmarker ignoreCase
  | junction op children =>
    rw [Filter.toTokens]
    refine .bind (Filter.emits_all children h) fun tokens _ => .pure fun acc htokens => ?_
    rw [Filter.outline, Filter.outlines_eq]
    exact Reading.shows_junction hplain op htokens
  | not child =>
    rw [Filter.toTokens]
    refine .bind (Filter.emits child h) fun tokens _ => .pure fun acc htokens => ?_
    exact Reading.shows_not hplain htokens
  | rows negated query =>
    rw [Filter.toTokens]
    refine .bind (Expression.emits query h) fun sql _ => .pure fun acc hsql => ?_
    exact Reading.shows_rows hplain hsql negated

/-- The tokens of several filters show their outlines. -/
theorem Filter.emits_all (fs : List Filter) (h : AllPlain plain (Filter.allNames fs)) :
    (Filter.allToTokens fs).Emits base plain fun acc tokens =>
      List.Forall₂ (fun items tokens =>
          (acc.reading plain (Resolves base)).Shows (sqlText base.dialect tokens).toList items)
        (fs.map (Filter.outline base.dialect)) tokens := by
  cases fs with
  | nil => exact .pure fun _ => .nil
  | cons f rest =>
    rw [Filter.allNames, allPlain_append] at h
    rw [Filter.allToTokens]
    refine .bind (Filter.emits f h.1) fun tokens _ => ?_
    refine .bind (Filter.emits_all rest h.2) fun others _ => ?_
    exact .pure fun _ hothers htokens => .cons htokens hothers

/-- The terms of a sort show its outline. -/
theorem SortOrder.emits (s : SortOrder) (h : AllPlain plain s.names) :
    (SortOrder.toTerms s).Emits base plain fun acc terms =>
      ∃ itemss : List (List Item), itemss.flatten = s.outline base.dialect ∧
        (acc.reading plain (Resolves base)).ShowsEach itemss terms := by
  cases s with
  | term expr direction =>
    rw [SortOrder.toTerms]
    refine .bind (Expression.emits expr h) fun sql _ => .pure fun acc hsql => ?_
    exact ⟨[expr.outline base.dialect false], by simp [SortOrder.outline],
      .cons (Reading.shows_term hplain hsql direction) .nil⟩
  | composite terms =>
    rw [SortOrder.toTerms]
    exact SortOrder.emits_all terms h

/-- The terms of several sorts show their outlines. -/
theorem SortOrder.emits_all (sorts : List SortOrder) (h : AllPlain plain (SortOrder.allNames sorts)) :
    (SortOrder.allToTerms sorts).Emits base plain fun acc terms =>
      ∃ itemss : List (List Item), itemss.flatten = SortOrder.outlines base.dialect sorts ∧
        (acc.reading plain (Resolves base)).ShowsEach itemss terms := by
  cases sorts with
  | nil => exact .pure fun _ => ⟨[], rfl, .nil⟩
  | cons s rest =>
    rw [SortOrder.allNames, allPlain_append] at h
    rw [SortOrder.allToTerms]
    refine .bind (SortOrder.emits s h.1) fun terms _ => ?_
    refine .bind (SortOrder.emits_all rest h.2) fun others _ => .pure fun acc hothers hterms => ?_
    obtain ⟨itemss, hflat, heach⟩ := hterms
    obtain ⟨itemss', hflat', heach'⟩ := hothers
    refine ⟨itemss ++ itemss', ?_, List.rel_append heach heach'⟩
    rw [List.flatten_append, hflat, hflat', SortOrder.outlines]

/-- A function call shows its arguments. -/
theorem FunctionCall.emits (f : FunctionCall) (h : AllPlain plain f.names)
    (hvalid : FunctionCall.validate f = .ok ()) :
    (FunctionCall.toSql f).Emits base plain
      (ShowsText plain (Resolves base) (f.outline base.dialect)) := by
  obtain ⟨kind, args, distinct⟩ := f
  rw [FunctionCall.names, allPlain_cons] at h
  have hcall : checkCall kind args.length distinct = .ok () := by
    rw [FunctionCall.validate] at hvalid
    cases hcheck : checkCall kind args.length distinct with
    | error e => simp [hcheck, bind, Except.bind] at hvalid
    | ok u => rfl
  rw [FunctionCall.toSql]
  refine .bind (Expression.emits_all args h.2) fun texts _ => .bind .dialect fun d hd => ?_
  obtain ⟨_, rfl⟩ := hd
  exact .pure fun acc _ htexts => Reading.shows_function hplain h.1 hcall htexts

/-- The condition of a join shows its outline. -/
theorem Join.emits (j : Join) (h : AllPlain plain j.names) :
    ConditionShows base plain (Resolves base) (Join.outline base.dialect j)
      (Join.toCondition j) := by
  obtain ⟨kind, name, source, aliasName, on, entity⟩ := j
  rw [Join.toCondition_eq, Join.outline_eq]
  cases on with
  | none => rfl
  | some f =>
    rw [Join.names, allPlain_append] at h
    exact Filter.emits_sql hregistry (Filter.emits f h.2)

/-- The conditions of joins show their outlines. -/
theorem Join.emits_all (joins : List Join) (h : AllPlain plain (Join.allNames joins)) :
    List.Forall₂ (ConditionShows base plain (Resolves base))
      (joins.map (Join.outline base.dialect)) (Join.toConditions joins) := by
  cases joins with
  | nil => exact .nil
  | cons j rest =>
    rw [Join.allNames, allPlain_append] at h
    exact .cons (Join.emits j h.1) (Join.emits_all rest h.2)

theorem RelationalTarget.emits (t : RelationalTarget) (h : AllPlain plain t.names) :
    (RelationalTarget.toSource t).Shows base plain (Resolves base)
      (RelationalTarget.outline base.dialect t) := by
  obtain ⟨schema, table, aliasName, joins, entity⟩ := t
  rw [RelationalTarget.toSource, RelationalTarget.outline, Join.outlines_eq]
  refine ⟨h, by simp [Join.toConditions_eq], _, rfl, ?_⟩
  rw [RelationalTarget.names, allPlain_append] at h
  exact Join.emits_all joins h.2

theorem DataTarget.emits (t : DataTarget) (h : AllPlain plain t.names) :
    (DataTarget.toSource t base.model).Shows base plain (Resolves base)
      (DataTarget.outline base.dialect t) := by
  have hmapped := DataTarget.plain_mapped hplain.writable hmodel h
  obtain ⟨entity, aliasName, joins⟩ := t
  rw [DataTarget.toSource, DataTarget.outline, Join.outlines_eq]
  refine ⟨hmapped, by simp [Join.toConditions_eq, DataTarget.mapped], _, rfl, ?_⟩
  rw [DataTarget.names, allPlain_append] at h
  exact Join.emits_all joins h.2

/-- A selection shows its outline. -/
theorem Selection.emits (s : Selection) (h : AllPlain plain s.names) :
    (Selection.toSql s).Emits base plain
      (ShowsText plain (Resolves base) (Selection.outline base.dialect s)) := by
  obtain ⟨expr, aliasName⟩ := s
  rw [Selection.names, allPlain_append] at h
  rw [Selection.toSql]
  refine .bind (Expression.emits expr h.2) fun sql _ => .pure fun acc hsql => ?_
  exact Reading.shows_selected hplain hsql

/-- Several selections show their outlines. -/
theorem Selection.emits_all (selections : List Selection)
    (h : AllPlain plain (Selection.allNames selections)) :
    (Selection.allToSql selections).Emits base plain fun acc sqls =>
      (acc.reading plain (Resolves base)).ShowsEach
        (selections.map (Selection.outline base.dialect)) sqls := by
  cases selections with
  | nil => exact .pure fun _ => .nil
  | cons s rest =>
    rw [Selection.allNames, allPlain_append] at h
    rw [Selection.allToSql]
    refine .bind (Selection.emits s h.1) fun sql _ => ?_
    refine .bind (Selection.emits_all rest h.2) fun sqls _ => ?_
    exact .pure fun _ hsqls hsql => .cons hsql hsqls

/-- The columns of a projection show its outline. -/
theorem Projection.emits (p : Projection) (h : AllPlain plain p.names) :
    (Projection.toColumns p).Emits base plain fun acc columns =>
      (acc.reading plain (Resolves base)).Shows
        (sqlText base.dialect (ProjectedColumn.list columns)).toList (p.outline base.dialect) := by
  obtain ⟨selections, aliasMode, converter⟩ := p
  rw [Projection.toColumns, Projection.outline, Selection.outlines_eq]
  refine .bind (.ofResult (P := fun _ _ => True) fun _ _ _ => trivial) fun _ _ => ?_
  refine .bind .aliasMode fun mode _ => .bind .sequence fun n _ => ?_
  refine .bind (Selection.emits_all selections h) fun sqls hsqls => .pure fun acc hsqls' _ _ _ => ?_
  refine Reading.shows_list hplain (hsqls'.columns hplain ?_ ?_)
  · rw [Selection.length_aliases, ← hsqls'.length_eq, List.length_map]
  · exact Selection.plain_aliases hplain.writable _ _ _ (Selection.plain_explicitAliases h)

/-- A query over a source that shows its outline shows its own outline. -/
theorem SelectQuery.emits (q : SelectQuery) (h : AllPlain plain q.names) {s : Source}
    (hs : s.Shows base plain (Resolves base) (q.source.outline base.dialect false)) :
    (SelectQuery.renderFrom q s).Emits base plain fun acc rendered =>
      ShowsText plain (Resolves base) (q.outline base.dialect) acc rendered.sql ∧
        Opens rendered.sql.toList := by
  rw [SelectQuery.renderFrom_eq, SelectQuery.outline_eq]
  rw [SelectQuery.names_eq, allPlain_append, allPlain_append, allPlain_append] at h
  obtain ⟨source, distinct, projection, filter, sort, limit, offset, lock⟩ := q
  obtain ⟨⟨⟨_, hprojection⟩, hfilter⟩, hsort⟩ := h
  refine .bind (.ofResult (P := fun _ _ => True) fun _ _ _ => trivial) fun _ _ => ?_
  refine .bind (.resolveText hregistry fun _ => hs.emits_text hplain) fun from_ _ => ?_
  have hcolumns : (projectedColumns projection).Emits base plain fun acc columns =>
      (acc.reading plain (Resolves base)).Shows
        (sqlText base.dialect (ProjectedColumn.list columns)).toList
        (projectionOutline base.dialect projection) := by
    cases projection with
    | none => exact .pure fun _ => Reading.shows_words hplain (k := [.star]) (by decide)
    | some p => exact Projection.emits p hprojection
  have hcondition : (conditionSql filter).Emits base plain fun acc condition =>
      (acc.reading plain (Resolves base)).ShowsTail base.dialect
        (optionalClause .where condition) (conditionOutline base.dialect filter) := by
    cases filter with
    | none => exact .pure fun _ => Reading.ShowsTail.nil
    | some f =>
      refine .bind (Filter.emits_sql hregistry (Filter.emits f hfilter)) fun sql _ => ?_
      exact .pure fun _ hsql => .optional hplain (by decide) hsql
  have horder : (orderSql sort).Emits base plain fun acc order =>
      (acc.reading plain (Resolves base)).ShowsTail base.dialect
        (optionalClause .orderBy order) (orderOutline base.dialect sort) := by
    cases sort with
    | none => exact .pure fun _ => Reading.ShowsTail.nil
    | some o =>
      refine .bind (SortOrder.emits_sql hplain hregistry (SortOrder.emits o hsort)) fun sql _ => ?_
      exact .pure fun _ hsql => .optional hplain (by decide) hsql
  refine .bind hcolumns fun columns _ => .bind hcondition fun condition _ => ?_
  refine .bind horder fun order _ => ?_
  unfold finishSelect
  refine .bind (.write (P := fun _ sql => sql = _) fun _ => rfl) fun sql hsql => ?_
  obtain ⟨_, rfl⟩ := hsql
  refine .bind .dialect fun d hd => ?_
  obtain ⟨_, rfl⟩ := hd
  refine .bind (.ofResult fun _ hpaged _ => hpaged) fun paged hpaged => ?_
  obtain ⟨_, hpaged⟩ := hpaged
  refine .pure fun acc _ _ _ horder hcondition hcolumns hfrom _ => ?_
  have hselect := Reading.shows_select (c := ⟨distinct, columns, from_, condition, order⟩) hplain
    hcolumns hfrom hcondition horder
  exact Reading.shows_page hplain hpaged lock hselect.1 hselect.2

/-- The source of a query has plain names and shows the conditions of its joins. -/
theorem SelectQuery.emits_source (q : SelectQuery) (h : AllPlain plain q.names) :
    (SelectQuery.toSource q).Emits base plain fun _ s =>
      s.Shows base plain (Resolves base) (q.source.outline base.dialect false) := by
  rw [SelectQuery.names_eq, allPlain_append, allPlain_append, allPlain_append] at h
  obtain ⟨source, distinct, projection, filter, sort, limit, offset, lock⟩ := q
  exact Expression.emits_source source h.1.1.1

end

end Mutual

end SqlCompose
