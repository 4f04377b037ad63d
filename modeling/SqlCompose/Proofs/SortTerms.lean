import SqlCompose.Proofs.FirstAnswer
import SqlCompose.Proofs.RawMarkers
import SqlCompose.Proofs.Rendering
import SqlCompose.Proofs.Statements
import SqlCompose.Proofs.Wording

/-!
# SqlCompose.Proofs.SortTerms -- sorts keep the order in which their terms were declared

A sort is a tree, and what it writes is the list of its terms. Adding a sort to another
one puts its terms behind those of the other, and every term is resolved in its turn, so
sorts with the same terms in the same order write the same text and add the same
parameters. Only a group without terms can be told from its surroundings: a query that
holds one is refused.
-/

namespace SqlCompose

open Compose

variable {ctx : Context} {s t : Session}

/-! ## Terms in a row -/

namespace SortOrder

theorem flattenAll_eq (sorts : List SortOrder) : flattenAll sorts = sorts.flatMap flatten := by
  induction sorts with
  | nil => rfl
  | cons o rest ih => rw [flattenAll, ih, List.flatMap_cons]

theorem flatten_composite (sorts : List SortOrder) :
    (composite sorts).flatten = sorts.flatMap flatten := by
  rw [flatten, flattenAll_eq]

/-- The terms of a sort that is added stand behind the others. -/
theorem flatten_andThen (o p : SortOrder) : (o.andThen p).flatten = o.flatten ++ p.flatten := by
  cases o with
  | term expr direction =>
    rw [andThen, flatten_composite, List.flatMap_cons, List.flatMap_singleton]
    nofun
  | composite sorts =>
    rw [andThen, flatten_composite, flatten_composite, List.flatMap_append, List.flatMap_singleton]

end SortOrder

namespace SelectQuery

/-- The terms by which a query sorts. -/
def terms (q : SelectQuery) : List (Expression × SortDirection) :=
  (q.sort.map SortOrder.flatten).getD []

theorem terms_addSort (q : SelectQuery) (o : SortOrder) :
    (q.addSort o).terms = q.terms ++ o.flatten := by
  unfold terms addSort SortOrder.add
  cases q.sort with
  | none => rfl
  | some p => exact p.flatten_andThen o

/-- Sorts that are added one after the other have their terms in this order. -/
theorem terms_addSorts (q : SelectQuery) (sorts : List SortOrder) :
    (sorts.foldl addSort q).terms = q.terms ++ sorts.flatMap SortOrder.flatten := by
  induction sorts generalizing q with
  | nil => exact (List.append_nil _).symm
  | cons o rest ih =>
    rw [List.foldl_cons, ih, terms_addSort, List.flatMap_cons, List.append_assoc]

/-- Adding sorts changes nothing but the sort. -/
theorem addSorts_eq (q : SelectQuery) (sorts : List SortOrder) :
    sorts.foldl addSort q = { q with sort := (sorts.foldl addSort q).sort } := by
  induction sorts generalizing q with
  | nil => cases q; rfl
  | cons o rest ih => exact ih (q.addSort o)

end SelectQuery

/-! ## The text of a sort -/

/-- A term as SQL: its expression, then its direction. -/
def Compose.termSql (term : Expression × SortDirection) : Compose String := do
  let sql ← resolveSql term.1
  pure (sql ++ " " ++ term.2.keyword)

mutual

/-- A sort resolves its terms one after the other, whatever their grouping. -/
theorem SortOrder.toTerms_eq (o : SortOrder) :
    o.toTerms = o.flatten.mapM termSql := by
  cases o with
  | term expr direction =>
    rw [SortOrder.toTerms, SortOrder.flatten, List.mapM_cons, List.mapM_nil]
    simp only [termSql, resolveSql, bind_assoc, pure_bind]
  | composite sorts =>
    rw [SortOrder.toTerms, SortOrder.flatten]
    exact SortOrder.allToTerms_eq sorts

theorem SortOrder.allToTerms_eq (sorts : List SortOrder) :
    SortOrder.allToTerms sorts = (SortOrder.flattenAll sorts).mapM termSql := by
  cases sorts with
  | nil => rfl
  | cons o rest =>
    rw [SortOrder.allToTerms, SortOrder.flattenAll, List.mapM_append, SortOrder.toTerms_eq o,
      SortOrder.allToTerms_eq rest]

end

/-- What a sort writes is its terms with commas between them. -/
theorem yields_sortSql {o : SortOrder} {text : String} :
    (sortSql o).Yields ctx s text t ↔
      ∃ texts, (o.flatten.mapM termSql).Yields ctx s texts t ∧ text = ", ".intercalate texts := by
  unfold sortSql ordered
  rw [SortOrder.toTerms_eq, yields_bind]
  simp only [yields_write, sqlText_commaSeparated]
  constructor
  · rintro ⟨texts, _, h, rfl, rfl⟩
    exact ⟨texts, h, rfl⟩
  · rintro ⟨texts, h, rfl⟩
    exact ⟨texts, t, h, rfl, rfl⟩

/-- Sorts with the same terms write alike, also where they are refused. -/
theorem sortSql_eq_of_flatten {o p : SortOrder} (h : o.flatten = p.flatten) :
    sortSql o = sortSql p := by
  unfold sortSql
  simp only [SortOrder.toTerms_eq, h]

/-! ## Groups -/

mutual

/-- A group of a sort has no terms at all. -/
def SortOrder.hasEmptyGroup : SortOrder → Bool
  | .term _ _ => false
  | .composite sorts => sorts.isEmpty || anyHasEmptyGroup sorts

/-- A group of one of several sorts has no terms at all. -/
def SortOrder.anyHasEmptyGroup : List SortOrder → Bool
  | [] => false
  | o :: rest => o.hasEmptyGroup || anyHasEmptyGroup rest

end

/-- Several terms are checked in order. -/
def validateTerms (terms : List (Expression × SortDirection)) : Except SqlError Unit :=
  validateSorts (terms.map fun term => .term term.1 term.2)

theorem validateSorts_append (os ps : List SortOrder) :
    validateSorts (os ++ ps) = validateSorts os >>= fun _ => validateSorts ps := by
  induction os with
  | nil => rfl
  | cons o rest ih =>
    rw [List.cons_append, validateSorts, validateSorts, ih]
    cases o.validate <;> rfl

theorem validateTerms_append (terms others : List (Expression × SortDirection)) :
    validateTerms (terms ++ others) = validateTerms terms >>= fun _ => validateTerms others := by
  rw [validateTerms, List.map_append, validateSorts_append]
  rfl

mutual

/-- Without empty groups a sort is as valid as its terms in a row. -/
theorem SortOrder.validate_eq (o : SortOrder) (h : o.hasEmptyGroup = false) :
    o.validate = validateTerms o.flatten := by
  cases o with
  | term expr direction =>
    show _ = validateSorts [.term expr direction]
    rw [validateSorts, validateSorts]
    cases (SortOrder.term expr direction).validate <;> rfl
  | composite sorts =>
    rw [SortOrder.hasEmptyGroup, Bool.or_eq_false_iff] at h
    rw [SortOrder.validate, h.1, SortOrder.flatten]
    exact validateSorts_eq sorts h.2

theorem validateSorts_eq (sorts : List SortOrder) (h : SortOrder.anyHasEmptyGroup sorts = false) :
    validateSorts sorts = validateTerms (SortOrder.flattenAll sorts) := by
  cases sorts with
  | nil => rfl
  | cons o rest =>
    rw [SortOrder.anyHasEmptyGroup, Bool.or_eq_false_iff] at h
    rw [validateSorts, SortOrder.flattenAll, validateTerms_append, SortOrder.validate_eq o h.1,
      validateSorts_eq rest h.2]

end

mutual

/-- What is accepted as a sort has no empty group. -/
theorem SortOrder.hasEmptyGroup_of_validate (o : SortOrder) (h : o.validate = .ok ()) :
    o.hasEmptyGroup = false := by
  cases o with
  | term expr direction => rfl
  | composite sorts =>
    rw [SortOrder.validate, ok_unless_iff] at h
    rw [SortOrder.hasEmptyGroup, Bool.or_eq_false_iff]
    exact ⟨Bool.eq_false_iff.mpr h.1, anyHasEmptyGroup_of_validateSorts sorts h.2⟩

theorem anyHasEmptyGroup_of_validateSorts (sorts : List SortOrder)
    (h : validateSorts sorts = .ok ()) : SortOrder.anyHasEmptyGroup sorts = false := by
  cases sorts with
  | nil => rfl
  | cons o rest =>
    rw [validateSorts, ok_then_iff] at h
    rw [SortOrder.anyHasEmptyGroup, Bool.or_eq_false_iff]
    exact ⟨SortOrder.hasEmptyGroup_of_validate o h.1, anyHasEmptyGroup_of_validateSorts rest h.2⟩

end

mutual

/-- A sort without empty groups has terms. -/
theorem SortOrder.flatten_ne_nil (o : SortOrder) (h : o.hasEmptyGroup = false) :
    o.flatten ≠ [] := by
  cases o with
  | term expr direction => exact List.cons_ne_nil _ _
  | composite sorts =>
    rw [SortOrder.hasEmptyGroup, Bool.or_eq_false_iff] at h
    rw [SortOrder.flatten]
    exact SortOrder.flattenAll_ne_nil sorts h.1 h.2

theorem SortOrder.flattenAll_ne_nil (sorts : List SortOrder) (hsorts : sorts.isEmpty = false)
    (h : SortOrder.anyHasEmptyGroup sorts = false) : SortOrder.flattenAll sorts ≠ [] := by
  cases sorts with
  | nil => cases hsorts
  | cons o rest =>
    rw [SortOrder.anyHasEmptyGroup, Bool.or_eq_false_iff] at h
    rw [SortOrder.flattenAll]
    exact List.append_ne_nil_of_left_ne_nil (SortOrder.flatten_ne_nil o h.1) _

end

/-! ## Sorts of the same terms -/

/-- The resolvers of an application make no difference between two sorts. -/
def Registry.SortsAlike (g : Registry) (o p : SortOrder) : Prop :=
  ∀ r ∈ g.resolversFor .sort .sql, ∀ action, r.action = .custom action →
    action (.sort o) = action (.sort p)

theorem Registry.sortsAlike_of_plain {g : Registry} (h : g.IsPlainFor .sort .sql)
    (o p : SortOrder) : g.SortsAlike o p := by
  intro r hr action haction
  have hcustom := h r hr
  unfold Resolver.isCustom at hcustom
  rw [haction] at hcustom
  cases hcustom

/-- Requests that the library answers alike have the same first answer, if those of applications
are the same for both. -/
theorem firstAnswer_congr {q q' : Request} (hstandard : q.standard = q'.standard)
    (hbind : q.bind = q'.bind) {rs : List Resolver}
    (h : ∀ r ∈ rs, ∀ action, r.action = .custom action → action q.expr = action q'.expr) :
    firstAnswer q rs = firstAnswer q' rs := by
  induction rs with
  | nil => rfl
  | cons r rest ih =>
    have hask : r.ask q = r.ask q' := by
      unfold Resolver.ask
      cases haction : r.action with
      | standard => exact hstandard
      | bind rule => exact congrFun hbind rule
      | custom action => exact congrArg ofForeign (h r List.mem_cons_self action haction)
    rw [firstAnswer, firstAnswer, hask, ih fun r' hr => h r' (List.mem_cons_of_mem r hr)]

/-- What comes after a computation makes the only difference. -/
theorem outcome_bind_congr {α β : Type} {x : Compose α} {f g : α → Compose β}
    (h : ∀ a u, (f a).outcome ctx u = (g a).outcome ctx u) :
    (x >>= f).outcome ctx s = (x >>= g).outcome ctx s := by
  rw [outcome_bind, outcome_bind]
  split
  · exact h _ _
  · rfl

/-- Sorts that are as valid and have the same terms are resolved alike. -/
theorem outcome_orderSql_sort {o p : SortOrder} (hvalid : o.validate = p.validate)
    (hterms : o.flatten = p.flatten) (halike : ctx.registry.SortsAlike o p) (s : Session) :
    (orderSql (some o)).outcome ctx s = (orderSql (some p)).outcome ctx s := by
  let request (o : SortOrder) : Request :=
    { expr := .sort o, form := .sql
      standard := ordered o.toTerms >>= fun text => pure (some (.sql text)) }
  have hstandard : (request o).standard = (request p).standard := by
    simp only [request, SortOrder.toTerms_eq, hterms]
  have hfirst : firstAnswer (request o) (ctx.registry.resolversFor .sort .sql) =
      firstAnswer (request p) (ctx.registry.resolversFor .sort .sql) :=
    firstAnswer_congr hstandard rfl halike
  have hresolve : (request o).resolve.outcome ctx s = (request p).resolve.outcome ctx s := by
    unfold Request.resolve
    rw [show (request o).expr.validate = (request p).expr.validate from hvalid]
    refine outcome_bind_congr fun _ u => ?_
    show ((firstAnswer (request o) (ctx.registry.resolversFor .sort .sql)) >>= _).outcome ctx u =
      ((firstAnswer (request p) (ctx.registry.resolversFor .sort .sql)) >>= _).outcome ctx u
    rw [hfirst]
    rfl
  have hsql : (Expression.toSql (.sort o)).outcome ctx s = (Expression.toSql (.sort p)).outcome ctx s := by
    rw [Expression.toSql, Expression.toSql]
    show ((request o).resolve >>= _).outcome ctx s = ((request p).resolve >>= _).outcome ctx s
    rw [outcome_bind, outcome_bind, hresolve]
  show (Expression.toSql (.sort o) >>= _).outcome ctx s = (Expression.toSql (.sort p) >>= _).outcome ctx s
  rw [outcome_bind, outcome_bind, hsql]

/-- A query is put together alike with sorts that are as valid and have the same terms. -/
theorem SelectQuery.outcome_renderOuter_sort {o p : SortOrder} (hvalid : o.validate = p.validate)
    (hterms : o.flatten = p.flatten) (halike : ctx.registry.SortsAlike o p) (q : SelectQuery)
    (s : Session) :
    ({ q with sort := some o } : SelectQuery).renderOuter.outcome ctx s =
      ({ q with sort := some p } : SelectQuery).renderOuter.outcome ctx s := by
  have hquery : ({ q with sort := some o } : SelectQuery).validate =
      ({ q with sort := some p } : SelectQuery).validate := by
    rw [SelectQuery.validate, SelectQuery.validate, hvalid]
  refine outcome_bind_congr fun source _ => outcome_bind_congr fun _ _ => ?_
  unfold render
  rw [SelectQuery.renderFrom_eq, SelectQuery.renderFrom_eq, hquery]
  refine outcome_bind_congr fun _ _ => outcome_bind_congr fun from_ _ => ?_
  refine outcome_bind_congr fun columns _ => outcome_bind_congr fun condition t => ?_
  rw [outcome_bind, outcome_bind, outcome_orderSql_sort hvalid hterms halike]
  rfl

/-- A query compiles alike with sorts of the same terms, however these are grouped. -/
theorem Compiler.compileSelect_sort {o p : SortOrder} (hterms : o.flatten = p.flatten)
    (ho : o.hasEmptyGroup = false) (hp : p.hasEmptyGroup = false) {c : Compiler}
    (halike : c.context.registry.SortsAlike o p) (q : SelectQuery) :
    c.compileSelect { q with sort := some o } = c.compileSelect { q with sort := some p } := by
  have hvalid : o.validate = p.validate := by rw [o.validate_eq ho, p.validate_eq hp, hterms]
  have hrendered := SelectQuery.outcome_renderOuter_sort hvalid hterms halike q
  funext streams
  unfold Compiler.compileSelect
  rw [run_eq, run_eq, outcome_bind, outcome_bind, hrendered]

/-! ## Sorted queries -/

theorem checkSqlText_terms {terms : List (Expression × SortDirection)} {texts : List String}
    (hne : terms ≠ []) (h : (terms.mapM termSql).Yields ctx s texts t) :
    checkSqlText (", ".intercalate texts) = .ok () := by
  apply checkSqlText_of_not_blank
  cases terms with
  | nil => exact absurd rfl hne
  | cons term rest =>
    rw [List.mapM_cons] at h
    obtain ⟨text, _, hterm, h⟩ := yields_bind.mp h
    obtain ⟨others, _, _, h⟩ := yields_bind.mp h
    obtain ⟨rfl, _⟩ := yields_pure.mp h
    obtain ⟨sql, _, _, hterm⟩ := yields_bind.mp hterm
    obtain ⟨rfl, _⟩ := yields_pure.mp hterm
    -- the keyword of the first direction is there
    have hkeyword : ∃ c ∈ term.2.keyword.toList, ¬ Text.isBlank c = true := by
      cases term.2 <;> exact ⟨'S', by decide, by decide⟩
    obtain ⟨c, hc, hblank⟩ := hkeyword
    refine List.all_eq_false.mpr ⟨c, ?_, hblank⟩
    cases others with
    | nil => simp [hc]
    | cons next others => simp [String.intercalate_cons_cons, hc]

/-- The order of a query is the terms of its sort with commas between them. -/
theorem yields_orderSql (hown : ctx.registry.IsOwnFor .sort .sql) {o : SortOrder}
    {order : Option String} :
    (orderSql (some o)).Yields ctx s order t ↔
      o.validate = .ok () ∧ ∃ texts, (o.flatten.mapM termSql).Yields ctx s texts t ∧
        order = some (", ".intercalate texts) := by
  have hsql : ∀ {text t}, (Expression.toSql (.sort o)).Yields ctx s text t ↔
      o.validate = .ok () ∧ (sortSql o).Yields ctx s text t ∧ checkSqlText text = .ok () := by
    intro text t
    rw [Expression.toSql_eq, sortSql]
    refine (yields_resolveText_of_isPlainFor hown.plain).trans ?_
    exact and_congr_right fun _ => and_iff_right hown.answers
  rw [orderSql, yields_bind]
  simp only [yields_pure, hsql, yields_sortSql]
  constructor
  · rintro ⟨_, _, ⟨hvalid, ⟨texts, h, rfl⟩, _⟩, rfl, rfl⟩
    exact ⟨hvalid, texts, h, rfl⟩
  · rintro ⟨hvalid, texts, h, rfl⟩
    have hne := o.flatten_ne_nil (o.hasEmptyGroup_of_validate hvalid)
    exact ⟨_, t, ⟨hvalid, ⟨texts, h, rfl⟩, checkSqlText_terms hne h⟩, rfl, rfl⟩

namespace SelectQuery

/-- The same query, with its rows in any order. -/
def unsorted (q : SelectQuery) : SelectQuery := { q with sort := none }

/-- The order of a query comes after its other clauses. -/
theorem clausesFrom_eq (q : SelectQuery) (source : Source) :
    q.clausesFrom source = q.unsorted.clausesFrom source >>= fun c =>
      orderSql q.sort >>= fun order => pure { c with order := order } := by
  unfold clausesFrom unsorted
  simp only [bind_assoc, pure_bind, orderSql]

theorem yields_outerClauses {q : SelectQuery} {c : SelectClauses} :
    q.outerClauses.Yields ctx s c t ↔ ∃ unsorted u order,
      q.unsorted.outerClauses.Yields ctx s unsorted u ∧
        (orderSql q.sort).Yields ctx u order t ∧
          c = { unsorted with order := order } := by
  unfold outerClauses
  simp only [yields_bind, clausesFrom_eq (q := q), yields_pure]
  constructor
  · rintro ⟨source, v, hsource, _, w, hseed, unsorted, u, hunsorted, order, _, horder, rfl, rfl⟩
    exact ⟨unsorted, u, order, ⟨source, v, hsource, (), w, hseed, hunsorted⟩, horder, rfl⟩
  · rintro ⟨unsorted, u, order, ⟨source, v, hsource, _, w, hseed, hunsorted⟩, horder, rfl⟩
    exact ⟨source, v, hsource, (), w, hseed, unsorted, u, hunsorted, order, t, horder, rfl, rfl⟩

/-- What a query writes before its order, and its columns. -/
theorem yields_unsorted {q : SelectQuery} (hvalid : q.validate = .ok ()) {text : String}
    {columns : List ProjectedColumn} :
    q.unsorted.unpaged.renderOuter.Yields ctx s ⟨text, columns⟩ t ↔
      ∃ c, q.unsorted.outerClauses.Yields ctx s c t ∧ text = c.unordered ctx.dialect ∧
        columns = c.columns := by
  have hunsorted : q.unsorted.validate = .ok () := by
    rw [validate_iff] at hvalid ⊢
    exact ⟨hvalid.1, hvalid.2.1, hvalid.2.2.1, hvalid.2.2.2.1, hvalid.2.2.2.2.1, nofun⟩
  -- without a sort there is no order to leave out
  have horder : ∀ {c}, q.unsorted.outerClauses.Yields ctx s c t →
      sqlText ctx.dialect c.tokens = c.unordered ctx.dialect := by
    intro c hc
    obtain ⟨_, _, h⟩ := exists_clausesFrom hc
    have hnone : c.order = none := by
      simpa [unsorted] using (clauses_of_clausesFrom h).2.2.1
    rw [c.text_eq_unordered, hnone]
    simp [optionalClause, sqlText]
  rw [yields_renderOuter_clauses]
  constructor
  · rintro ⟨_, c, hc, hputs⟩
    obtain ⟨rfl, rfl⟩ := RenderedSelect.mk.injEq .. ▸ Puts.unpaged.mp hputs
    exact ⟨c, hc, horder hc, rfl⟩
  · rintro ⟨c, hc, rfl, rfl⟩
    exact ⟨validate_unpaged hunsorted, c, hc, Puts.unpaged.mpr (by rw [horder hc])⟩

/-- A sorted query is what it is in any order, with the terms of its sort behind it. -/
theorem yields_sorted (hown : ctx.registry.IsOwnFor .sort .sql) {q : SelectQuery} {o : SortOrder}
    (hsort : q.sort = some o) {rendered : RenderedSelect} :
    q.renderOuter.Yields ctx s rendered t ↔
      q.validate = .ok () ∧ ∃ text u texts paged,
        q.unsorted.unpaged.renderOuter.Yields ctx s ⟨text, rendered.columns⟩ u ∧
          (o.flatten.mapM termSql).Yields ctx u texts t ∧
            ctx.dialect.page (text ++ " ORDER BY " ++ ", ".intercalate texts) q.limit q.offset true =
              .ok paged ∧ rendered.sql = ctx.dialect.lock paged q.lock := by
  -- the clause for the order is the last one of the text
  have htext : ∀ (c : SelectClauses) (texts : List String),
      sqlText ctx.dialect { c with order := some (", ".intercalate texts) }.tokens =
        c.unordered ctx.dialect ++ " ORDER BY " ++ ", ".intercalate texts := by
    intro c texts
    rw [SelectClauses.text_eq_unordered]
    simp [SelectClauses.unordered, optionalClause, Token.text, ← String.append_assoc, sqlText]
  rw [yields_renderOuter_clauses]
  refine and_congr_right fun hvalid => ?_
  simp only [yields_outerClauses (q := q), hsort, yields_orderSql hown, yields_unsorted hvalid]
  constructor
  · rintro ⟨_, ⟨c, u, _, hc, ⟨_, texts, htexts, rfl⟩, rfl⟩, ⟨paged, hpaged, hsql⟩, hcolumns⟩
    rw [htext, hsort] at hpaged
    exact ⟨_, u, texts, paged, ⟨c, hc, rfl, hcolumns⟩, htexts, hpaged, hsql⟩
  · rintro ⟨_, u, texts, paged, ⟨c, hc, rfl, hcolumns⟩, htexts, hpaged, hsql⟩
    have ho := ((validate_iff q).mp hvalid).2.2.2.2.2 o hsort
    rw [← htext] at hpaged
    exact ⟨_, ⟨c, u, _, hc, ⟨ho, texts, htexts, rfl⟩, rfl⟩,
      ⟨paged, by rw [hsort]; exact hpaged, hsql⟩, hcolumns⟩

/-- Where a sort was added there is one, with all the terms in their order. -/
theorem exists_sort_addSorts (q : SelectQuery) {sorts : List SortOrder} (hne : sorts ≠ []) :
    ∃ o, (sorts.foldl addSort q).sort = some o ∧
      o.flatten = q.terms ++ sorts.flatMap SortOrder.flatten := by
  have hsort : ∃ o, (sorts.foldl addSort q).sort = some o := by
    obtain rfl | ⟨init, last, rfl⟩ := List.eq_nil_or_concat' sorts
    · exact absurd rfl hne
    · -- the last call sets a sort, whatever the query had before
      rw [List.foldl_append]
      exact ⟨_, rfl⟩
  obtain ⟨o, ho⟩ := hsort
  refine ⟨o, ho, ?_⟩
  rw [← terms_addSorts, terms, ho]
  rfl

end SelectQuery

/-- Sorts keep the order in which their terms were declared: a sort that is added comes last, the
text of a sort is that of its terms one after the other, and how they are grouped makes no
difference, unless a resolver that an application has added for sorts makes one. Where an
application has no say in sorts, a query to which some were added is compiled as the same query in
any order, with all these terms behind it. -/
theorem sorts_keep_declaration_order :
    (∀ o p : SortOrder, (o.andThen p).flatten = o.flatten ++ p.flatten) ∧
    (∀ (o : SortOrder) (ctx : Context) (s t : Session) (text : String),
      (sortSql o).Yields ctx s text t ↔
        ∃ texts, (o.flatten.mapM termSql).Yields ctx s texts t ∧ text = ", ".intercalate texts) ∧
    (∀ (q : SelectQuery) (sorts : List SortOrder), sorts ≠ [] →
      ∃ o, (sorts.foldl SelectQuery.addSort q).sort = some o ∧
        o.flatten = q.terms ++ sorts.flatMap SortOrder.flatten) ∧
    (∀ o p : SortOrder, o.flatten = p.flatten → sortSql o = sortSql p ∧
      (o.hasEmptyGroup = false → p.hasEmptyGroup = false → ∀ (c : Compiler) (q : SelectQuery),
        c.context.registry.SortsAlike o p →
          c.compileSelect { q with sort := some o } = c.compileSelect { q with sort := some p })) ∧
    (∀ o : SortOrder, o.validate = .ok () → o.hasEmptyGroup = false) ∧
    ∀ (c : Compiler) (q : SelectQuery) (sorts : List SortOrder) (streams streams' : StreamStore)
      (compiled : CompiledQuery), c.context.registry.IsOwnFor .sort .sql → sorts ≠ [] →
      (c.compileSelect (sorts.foldl SelectQuery.addSort q) streams = (.ok compiled, streams') ↔
        (sorts.foldl SelectQuery.addSort q).validate = .ok () ∧ ∃ text t texts u paged v,
          q.unsorted.unpaged.renderOuter.Yields c.context (Session.initial streams)
            ⟨text, compiled.columns⟩ t ∧
          ((q.terms ++ sorts.flatMap SortOrder.flatten).mapM termSql).Yields c.context t texts u ∧
          c.dialect.page (text ++ " ORDER BY " ++ ", ".intercalate texts) q.limit q.offset true =
            .ok paged ∧
          (prepare (c.dialect.lock paged q.lock)).Yields c.context u compiled.statement v ∧
          v.streams = streams' ∧ compiled.converter = q.projection.bind Projection.converter) := by
  refine ⟨SortOrder.flatten_andThen, fun o ctx s t text => yields_sortSql,
    fun q sorts => q.exists_sort_addSorts, ?_, SortOrder.hasEmptyGroup_of_validate, ?_⟩
  · intro o p hterms
    exact ⟨sortSql_eq_of_flatten hterms, fun ho hp _ q halike =>
      Compiler.compileSelect_sort hterms ho hp halike q⟩
  · intro c q sorts streams streams' compiled hown hne
    -- all that was declared is one order, whose terms are those of the parts in a row
    obtain ⟨o, hsort, hterms⟩ := q.exists_sort_addSorts hne
    have hsame := q.addSorts_eq sorts
    rw [hsort] at hsame
    rw [hsame, compileSelect_eq_ok_iff]
    have hsorted {rendered : RenderedSelect} {s t : Session} :=
      (SelectQuery.yields_sorted hown rfl :
        ({ q with sort := some o } : SelectQuery).renderOuter.Yields c.context s rendered t ↔ _)
    simp only [hsorted, hterms]
    constructor
    · rintro ⟨rendered, u, v, ⟨hvalid, text, t, texts, paged, hq, htexts, hpaged, hsql⟩, hprepared,
        hstreams, hcolumns, hconverter⟩
      rw [hsql] at hprepared
      exact ⟨hvalid, text, t, texts, u, paged, v, hcolumns ▸ hq, htexts, hpaged, hprepared, hstreams,
        hconverter⟩
    · rintro ⟨hvalid, text, t, texts, u, paged, v, hq, htexts, hpaged, hprepared, hstreams,
        hconverter⟩
      exact ⟨⟨_, compiled.columns⟩, u, v, ⟨hvalid, text, t, texts, paged, hq, htexts, hpaged, rfl⟩,
        hprepared, hstreams, rfl, hconverter⟩

/-- A path of one name, in ascending order. -/
def ascending (name : String) : SortOrder := .term (.path (.ofName name)) .asc

/-- A function that takes a value, in descending order. -/
def descendingCall : SortOrder :=
  .term (.function ⟨.custom "ROUND", [.path (.ofName "b"), .literal ⟨.int 2, none⟩], false⟩) .desc

/-- A sort by one term, then by two terms that stand in a group. -/
def nestedSort : SortOrder := .composite [ascending "a", .composite [descendingCall, ascending "c"]]

/-- A sort by the same terms in one row. -/
def flatSort : SortOrder := .composite [ascending "a", descendingCall, ascending "c"]

/-- A query for every row of a table, with a row lock. -/
def lockedQuery : SelectQuery :=
  { SelectQuery.ofSource (.target {
      schema := none, table := "t", aliasName := none, joins := [], entity := none }) with
    lock := some ⟨.exclusive, none⟩ }

/-- Terms in a group sort like terms in a row, and come behind those that were there before. -/
theorem nested_sort_keeps_declaration_order :
    nestedSort.flatten = flatSort.flatten ∧
    nestedSort.validate = .ok () ∧ nestedSort.hasEmptyGroup = false ∧
    (Compiler.ansi .auto).compileSelect { lockedQuery with sort := some nestedSort } =
      (Compiler.ansi .auto).compileSelect { lockedQuery with sort := some flatSort } ∧
    (Compiler.ansi .auto).context.registry.IsOwnFor .sort .sql ∧
    ∃ compiled streams', (Compiler.ansi .auto).compileSelect
        ([ascending "d", nestedSort].foldl SelectQuery.addSort lockedQuery) {} =
          (.ok compiled, streams') ∧
      ∃ text t texts u, lockedQuery.unsorted.unpaged.renderOuter.Yields (Compiler.ansi .auto).context
          (Session.initial {}) ⟨text, compiled.columns⟩ t ∧
        ((lockedQuery.terms ++ [ascending "d", nestedSort].flatMap SortOrder.flatten).mapM
          termSql).Yields (Compiler.ansi .auto).context t texts u := by
  obtain ⟨_, _, _, hsame, hgroups, hcompiled⟩ := sorts_keep_declaration_order
  have hterms : nestedSort.flatten = flatSort.flatten := by
    simp only [nestedSort, flatSort, SortOrder.flatten, SortOrder.flattenAll, List.append_assoc]
    rfl
  have hok : ((Compiler.ansi .auto).compileSelect
      ([ascending "d", nestedSort].foldl SelectQuery.addSort lockedQuery) {}).1.isOk = true := by
    decide +kernel
  obtain ⟨compiled, streams', h⟩ := exists_of_isOk hok
  have hown : (Compiler.ansi .auto).context.registry.IsOwnFor .sort .sql :=
    Dialect.registry_isOwnFor (.new .ansi) (r := { name := "sort", kind := .sort, form := .sql })
      (by simp [Registry.standardResolvers])
  obtain ⟨_, text, t, texts, u, _, _, htext, htexts, _⟩ :=
    (hcompiled _ _ _ _ _ _ hown (List.cons_ne_nil _ _)).mp h
  have hvalid : nestedSort.validate = .ok () := rfl
  have halike := Registry.sortsAlike_of_plain hown.plain nestedSort flatSort
  exact ⟨hterms, hvalid, hgroups _ hvalid, (hsame _ _ hterms).2 (by decide) (by decide) _ _ halike,
    hown, compiled, streams', h, text, t, texts, u, htext, htexts⟩

end SqlCompose
