import SqlCompose.Proofs.Sources

/-!
# SqlCompose.Proofs.Operands -- the expressions inside an expression

An expression is resolved by resolving its operands, one after the other. The
operands of a query are resolved in a scope of its own. An expression contains its
operands and what they contain. As long as it contains no target, resolving it
leaves the current scope as it is: only targets bind something.
-/

namespace SqlCompose

open Compose

variable {α β : Type} {ctx : Context} {s t u : Session} {model : Option DataModel}
  {d : Dialect}

/-! ## Operands -/

mutual

/-- The operands of a filter as they are resolved. The pattern of a match is a
literal of its own, and nothing is compared with a null literal. -/
def Filter.operands (d : Dialect) : Filter → List Expression
  | .nullTest _ operand => [operand]
  | .compare _ left right => if right.isNullLiteral then [left] else [left, right]
  | .member _ left right => [left, right]
  | .between operand low high => [operand, low, high]
  | .like operand text mode ignoreCase =>
    [operand, .literal { value := .string (Like.pattern d text mode ignoreCase) }]
  | .junction _ children => Filter.allOperands d children
  | .not child => Filter.operands d child
  | .rows _ query => [query]

/-- The operands of several filters. -/
def Filter.allOperands (d : Dialect) : List Filter → List Expression
  | [] => []
  | f :: rest => Filter.operands d f ++ Filter.allOperands d rest

end

mutual

/-- The expressions that a sort orders by. -/
def SortOrder.operands : SortOrder → List Expression
  | .term expr _ => [expr]
  | .composite terms => SortOrder.allOperands terms

/-- The expressions that several sorts order by. -/
def SortOrder.allOperands : List SortOrder → List Expression
  | [] => []
  | o :: rest => SortOrder.operands o ++ SortOrder.allOperands rest

end

/-- The operands of an expression that are resolved in its own scope. A query has
none of these, and targets are not resolved as operands of anything. -/
def Expression.operands (d : Dialect) : Expression → List Expression
  | .filter f => f.operands d
  | .sort o => o.operands
  | .function f => f.args
  | _ => []

/-- The conditions of joins. -/
def Join.conditions (joins : List Join) : List Expression :=
  joins.filterMap fun j => j.on.map Expression.filter

/-- The expressions that a projection selects, if there is one. -/
def projectedExpressions : Option Projection → List Expression
  | some p => p.selections.map Selection.expr
  | none => []

/-- The operands of a query over a source with some joins, in the order in which
they are resolved. -/
def SelectQuery.operands (q : SelectQuery) (joins : List Join) : List Expression :=
  Join.conditions joins ++ projectedExpressions q.projection ++
    (q.filter.map Expression.filter).toList ++ (q.sort.map Expression.sort).toList

/-- The target that an expression stands for in a data model. -/
def Expression.target? (model : Option DataModel) : Expression → Option RelationalTarget
  | .target t => some t
  | .dataTarget t => some (DataTarget.mapped model t)
  | _ => none

theorem target?_of_source? {e : Expression} {source : Source}
    (h : e.source? model = some source) : e.target? model = some source.target := by
  cases e with
  | target t =>
    cases h
    rw [RelationalTarget.target_toSource]
    rfl
  | dataTarget t =>
    cases h
    rw [DataTarget.target_toSource]
    rfl
  | _ => cases h

/-- The conditions of a source are those of its joins. -/
theorem conditions_of_source? {e : Expression} {source : Source}
    (h : e.source? model = some source) :
    source.conditions = source.target.joins.map (Join.toCondition) := by
  cases e with
  | target t =>
    obtain ⟨schema, table, aliasName, joins, entity⟩ := t
    cases h
    exact Join.toConditions_eq joins
  | dataTarget t =>
    obtain ⟨entity, aliasName, joins⟩ := t
    cases h
    -- mapping a join leaves its condition as it is
    show Join.toConditions joins = (joins.map (Join.mapped model)).map (Join.toCondition)
    rw [Join.toConditions_eq, List.map_map]
    refine List.map_congr_left fun j _ => ?_
    rw [Function.comp_apply, Join.toCondition_eq, Join.toCondition_eq]
    rfl
  | _ => cases h

/-! ## Containing -/

/-- Expressions contain themselves, their operands and what these contain. -/
inductive Contains (d : Dialect) (model : Option DataModel) : List Expression → Expression → Prop
  | here {e : Expression} {rest : List Expression} : Contains d model (e :: rest) e
  | later {e x : Expression} {rest : List Expression} :
      Contains d model rest x → Contains d model (e :: rest) x
  | operand {e x : Expression} {rest : List Expression} :
      Contains d model (e.operands d) x → Contains d model (e :: rest) x
  | query {q : SelectQuery} {target : RelationalTarget} {x : Expression} {rest : List Expression} :
      q.source.target? model = some target → Contains d model (q.operands target.joins) x →
        Contains d model (.query q :: rest) x

theorem Contains.of_mem {es : List Expression} {e x : Expression} (he : e ∈ es)
    (h : Contains d model [e] x) : Contains d model es x := by
  induction es with
  | nil => cases he
  | cons e' rest ih =>
    rcases List.mem_cons.mp he with rfl | he
    · cases h with
      | here => exact .here
      | later h => cases h
      | operand h => exact .operand h
      | query htarget h => exact .query htarget h
    · exact .later (ih he)

theorem contains_nil {x : Expression} : Contains d model [] x ↔ False :=
  iff_false_intro fun h => by cases h

theorem contains_cons {e x : Expression} {rest : List Expression} :
    Contains d model (e :: rest) x ↔ x = e ∨ Contains d model (e.operands d) x ∨
      (∃ q target, e = .query q ∧ q.source.target? model = some target ∧
        Contains d model (q.operands target.joins) x) ∨ Contains d model rest x := by
  constructor
  · intro h
    cases h with
    | here => exact .inl rfl
    | later h => exact .inr (.inr (.inr h))
    | operand h => exact .inr (.inl h)
    | query htarget h => exact .inr (.inr (.inl ⟨_, _, rfl, htarget, h⟩))
  · rintro (rfl | h | ⟨q, target, rfl, htarget, h⟩ | h)
    · exact .here
    · exact .operand h
    · exact .query htarget h
    · exact .later h

/-! ## Runs of operands -/

/-- Expressions are resolved one after the other. -/
inductive Runs (ctx : Context) :
    Session → List Expression → List String → Session → Prop
  | nil {s : Session} : Runs ctx s [] [] s
  | cons {s t u : Session} {e : Expression} {es : List Expression} {text : String}
      {texts : List String} :
      e.toSql.Yields ctx s text t → Runs ctx t es texts u →
        Runs ctx s (e :: es) (text :: texts) u

theorem Runs.append {es es' : List Expression} {texts texts' : List String}
    (h : Runs ctx s es texts t) (h' : Runs ctx t es' texts' u) :
    Runs ctx s (es ++ es') (texts ++ texts') u := by
  induction h with
  | nil => exact h'
  | cons hrun _ ih => exact .cons hrun (ih h')

theorem Runs.single {e : Expression} {text : String} (h : e.toSql.Yields ctx s text t) :
    Runs ctx s [e] [text] t := .cons h .nil

mutual

theorem Filter.runs_operands (f : Filter) {s t : Session} {tokens : List Token}
    (h : f.toTokens.Yields ctx s tokens t) :
    ∃ texts, Runs ctx s (f.operands ctx.dialect) texts t := by
  cases f with
  | nullTest negated operand =>
    rw [Filter.toTokens] at h
    obtain ⟨sql, _, hsql, h⟩ := yields_bind.mp h
    obtain ⟨_, rfl⟩ := yields_pure.mp h
    exact ⟨_, .single hsql⟩
  | compare op left right =>
    rw [Filter.toTokens] at h
    obtain ⟨l, _, hl, h⟩ := yields_bind.mp h
    rw [Filter.operands]
    split at h
    · rename_i hnull
      obtain ⟨_, rfl⟩ := yields_pure.mp h
      rw [if_pos hnull]
      exact ⟨_, .single hl⟩
    · rename_i hnull
      obtain ⟨r, _, hr, h⟩ := yields_bind.mp h
      obtain ⟨_, rfl⟩ := yields_pure.mp h
      rw [if_neg hnull]
      exact ⟨_, .cons hl (.single hr)⟩
  | member negated left right =>
    rw [Filter.toTokens] at h
    obtain ⟨l, _, hl, h⟩ := yields_bind.mp h
    obtain ⟨r, _, hr, h⟩ := yields_bind.mp h
    obtain ⟨_, rfl⟩ := yields_pure.mp h
    exact ⟨_, .cons hl (.single hr)⟩
  | between operand low high =>
    rw [Filter.toTokens] at h
    obtain ⟨o, _, ho, h⟩ := yields_bind.mp h
    obtain ⟨l, _, hl, h⟩ := yields_bind.mp h
    obtain ⟨r, _, hr, h⟩ := yields_bind.mp h
    obtain ⟨_, rfl⟩ := yields_pure.mp h
    exact ⟨_, .cons ho (.cons hl (.single hr))⟩
  | like operand text mode ignoreCase =>
    rw [Filter.toTokens] at h
    obtain ⟨o, _, ho, h⟩ := yields_bind.mp h
    rw [yields_dialect_bind] at h
    obtain ⟨marker, _, hmarker, h⟩ := yields_bind.mp h
    obtain ⟨_, rfl⟩ := yields_pure.mp h
    refine ⟨[o, marker], .cons ho (.single ?_)⟩
    -- the pattern of a match is resolved like a literal of its own
    rw [Expression.toSql]
    exact hmarker
  | junction op children =>
    rw [Filter.toTokens] at h
    obtain ⟨inner, _, hinner, h⟩ := yields_bind.mp h
    obtain ⟨_, rfl⟩ := yields_pure.mp h
    exact Filter.runs_allOperands children hinner
  | not child =>
    rw [Filter.toTokens] at h
    obtain ⟨inner, _, hinner, h⟩ := yields_bind.mp h
    obtain ⟨_, rfl⟩ := yields_pure.mp h
    exact Filter.runs_operands child hinner
  | rows negated query =>
    rw [Filter.toTokens] at h
    obtain ⟨sql, _, hsql, h⟩ := yields_bind.mp h
    obtain ⟨_, rfl⟩ := yields_pure.mp h
    exact ⟨_, .single hsql⟩

theorem Filter.runs_allOperands (fs : List Filter) {s t : Session} {tokenss : List (List Token)}
    (h : (Filter.allToTokens fs).Yields ctx s tokenss t) :
    ∃ texts, Runs ctx s (Filter.allOperands ctx.dialect fs) texts t := by
  cases fs with
  | nil =>
    obtain ⟨_, rfl⟩ := yields_pure.mp h
    exact ⟨_, .nil⟩
  | cons f rest =>
    rw [Filter.allToTokens] at h
    obtain ⟨tokens, _, htokens, h⟩ := yields_bind.mp h
    obtain ⟨others, _, hothers, h⟩ := yields_bind.mp h
    obtain ⟨_, rfl⟩ := yields_pure.mp h
    obtain ⟨_, hf⟩ := Filter.runs_operands f htokens
    obtain ⟨_, hrest⟩ := Filter.runs_allOperands rest hothers
    exact ⟨_, hf.append hrest⟩

end

mutual

theorem SortOrder.runs_operands (o : SortOrder) {s t : Session} {terms : List String}
    (h : o.toTerms.Yields ctx s terms t) : ∃ texts, Runs ctx s o.operands texts t := by
  cases o with
  | term expr direction =>
    rw [SortOrder.toTerms] at h
    obtain ⟨sql, _, hsql, h⟩ := yields_bind.mp h
    obtain ⟨_, rfl⟩ := yields_pure.mp h
    exact ⟨_, .single hsql⟩
  | composite terms =>
    rw [SortOrder.toTerms] at h
    exact SortOrder.runs_allOperands terms h

theorem SortOrder.runs_allOperands (os : List SortOrder) {s t : Session} {terms : List String}
    (h : (SortOrder.allToTerms os).Yields ctx s terms t) :
    ∃ texts, Runs ctx s (SortOrder.allOperands os) texts t := by
  cases os with
  | nil =>
    obtain ⟨_, rfl⟩ := yields_pure.mp h
    exact ⟨_, .nil⟩
  | cons o rest =>
    rw [SortOrder.allToTerms] at h
    obtain ⟨terms, _, hterms, h⟩ := yields_bind.mp h
    obtain ⟨others, _, hothers, h⟩ := yields_bind.mp h
    obtain ⟨_, rfl⟩ := yields_pure.mp h
    obtain ⟨_, ho⟩ := SortOrder.runs_operands o hterms
    obtain ⟨_, hrest⟩ := SortOrder.runs_allOperands rest hothers
    exact ⟨_, ho.append hrest⟩

end

theorem Expression.runs_all (es : List Expression) {s t : Session} {texts : List String}
    (h : (Expression.allToSql es).Yields ctx s texts t) : Runs ctx s es texts t := by
  induction es generalizing s texts with
  | nil =>
    obtain ⟨rfl, rfl⟩ := yields_pure.mp h
    exact .nil
  | cons e rest ih =>
    rw [Expression.allToSql] at h
    obtain ⟨sql, _, hsql, h⟩ := yields_bind.mp h
    obtain ⟨others, _, hothers, h⟩ := yields_bind.mp h
    obtain ⟨rfl, rfl⟩ := yields_pure.mp h
    exact .cons hsql (ih hothers)

theorem FunctionCall.runs_args {f : FunctionCall} {text : String}
    (h : (FunctionCall.toSql f).Yields ctx s text t) : ∃ texts, Runs ctx s f.args texts t := by
  obtain ⟨kind, args, distinct⟩ := f
  rw [FunctionCall.toSql] at h
  obtain ⟨texts, _, hargs, h⟩ := yields_bind.mp h
  rw [yields_dialect_bind] at h
  obtain ⟨_, rfl⟩ := yields_pure.mp h
  exact ⟨texts, Expression.runs_all args hargs⟩

/-- An expression is put together from operands in its own scope. -/
def Expression.isCompound : Expression → Bool
  | .filter _ => true
  | .sort _ => true
  | .function _ => true
  | _ => false

theorem Expression.operands_eq_nil {e : Expression} (h : e.isCompound = false) :
    e.operands d = [] := by
  cases e <;> first | rfl | cases h

/-- To resolve such an expression is to resolve its operands. -/
theorem Expression.runs_operands (hplain : ctx.registry.IsPlain) {e : Expression} {text : String}
    (he : e.isCompound = true) (h : e.toSql.Yields ctx s text t) :
    ∃ texts, Runs ctx s (e.operands ctx.dialect) texts t := by
  cases e with
  | filter f =>
    rw [Expression.toSql] at h
    obtain ⟨_, _, h, _⟩ := (yields_resolveText hplain).mp h
    obtain ⟨tokens, _, htokens, h⟩ := yields_bind.mp h
    obtain ⟨_, rfl⟩ := yields_write.mp h
    exact Filter.runs_operands f htokens
  | sort o =>
    rw [Expression.toSql] at h
    obtain ⟨_, _, h, _⟩ := (yields_resolveText hplain).mp h
    obtain ⟨terms, _, hterms, h⟩ := yields_bind.mp h
    obtain ⟨_, rfl⟩ := yields_write.mp h
    exact SortOrder.runs_operands o hterms
  | function f =>
    rw [Expression.toSql] at h
    obtain ⟨_, _, h, _⟩ := (yields_resolveText hplain).mp h
    exact FunctionCall.runs_args h
  | _ => cases he

/-! ## Keeping the scope -/

/-- A computation leaves the current scope as it is. -/
def Compose.Keeps (ctx : Context) (x : Compose α) : Prop :=
  ∀ ⦃s : Session⦄ ⦃a : α⦄ ⦃t : Session⦄, x.Yields ctx s a t → t.scope = s.scope

namespace Compose.Keeps

theorem pure (a : α) : (Pure.pure a : Compose α).Keeps ctx := by
  intro s b t h
  obtain ⟨_, rfl⟩ := yields_pure.mp h
  rfl

theorem bind {x : Compose α} {f : α → Compose β} (hx : x.Keeps ctx) (hf : ∀ a, (f a).Keeps ctx) :
    (x >>= f).Keeps ctx := by
  intro s b u h
  obtain ⟨a, t, ha, hb⟩ := yields_bind.mp h
  exact (hf a hb).trans (hx ha)

theorem throw (e : SqlError) : (MonadExcept.throw e : Compose α).Keeps ctx :=
  fun _ _ _ h => absurd h yields_throw

theorem addParameter (p : Parameter) : (Compose.addParameter p).Keeps ctx := by
  intro s name t h
  obtain ⟨_, _, rfl⟩ := yields_addParameter.mp h
  rfl

theorem mapM {f : α → Compose β} {items : List α} (h : ∀ a, (f a).Keeps ctx) :
    (items.mapM f).Keeps ctx := by
  induction items with
  | nil => exact pure []
  | cons a rest ih =>
    rw [List.mapM_cons]
    exact bind (h a) fun b => bind ih fun bs => pure (b :: bs)

theorem path (p : Path) : p.sql.Keeps ctx := by
  intro s text t h
  unfold Path.sql at h
  cases hparent : p.parent with
  | none =>
    simp only [hparent, yields_lookup_bind, yields_column_bind] at h
    split at h <;> exact congrArg Session.scope (yields_pure.mp h).2
  | some parent =>
    simp only [hparent, yields_aliasMode_bind, yields_lookup_bind, yields_column_bind] at h
    exact congrArg Session.scope (yields_pure.mp h).2

theorem placeholder (hplain : ctx.registry.IsPlain) (l : Literal) :
    l.placeholder.Keeps ctx := by
  refine bind ?_ addParameter
  intro s p t h
  obtain ⟨_, _, rfl⟩ := (yields_resolveParameter hplain).mp h
  rfl

theorem literal (hplain : ctx.registry.IsPlain) (l : Literal) : (l.sql).Keeps ctx := by
  unfold Literal.sql
  split
  · exact bind (mapM fun item => placeholder hplain _) fun names => pure _
  · exact placeholder hplain l

theorem fill (raw : RawSql) (quoted : Bool) (values : List Value) (cs : List Char) :
    (raw.fill quoted values cs).Keeps ctx := by
  induction cs generalizing quoted values with
  | nil =>
    cases values with
    | nil => exact pure []
    | cons v rest => exact throw _
  | cons c rest ih =>
    cases values with
    | nil =>
      rw [RawSql.fill]
      split
      · exact throw _
      · exact bind (ih _ _) fun out => pure _
    | cons v others =>
      rw [RawSql.fill]
      split
      · exact bind (addParameter _) fun name => bind (ih _ _) fun out => pure _
      · exact bind (ih _ _) fun out => pure _

theorem resolveText (hplain : ctx.registry.IsPlain) {e : Expression}
    {standard : Compose String} (h : standard.Keeps ctx) :
    (SqlCompose.resolveText e standard).Keeps ctx := by
  intro s text t hrun
  obtain ⟨_, _, hrun, _⟩ := (yields_resolveText hplain).mp hrun
  exact h hrun

end Compose.Keeps

/-- An expression is a target. -/
def Expression.isTarget : Expression → Bool
  | .target _ => true
  | .dataTarget _ => true
  | _ => false

theorem Runs.keeps {es : List Expression} {texts : List String}
    (h : ∀ e ∈ es, e.toSql.Keeps ctx) (hruns : Runs ctx s es texts t) :
    t.scope = s.scope := by
  induction hruns with
  | nil => rfl
  | cons hrun _ ih =>
    have hrest := ih fun e he => h e (List.mem_cons_of_mem _ he)
    exact hrest.trans (h _ List.mem_cons_self hrun)

/-! The operands of an expression are smaller than the expression, apart from the
patterns of matches, which are literals. -/

/-- A literal, or an expression of less than some size. -/
def Expression.IsBelow (n : Nat) (e : Expression) : Prop := (∃ l, e = .literal l) ∨ sizeOf e < n

theorem Expression.IsBelow.mono {m n : Nat} {e : Expression} (h : e.IsBelow m) (hmn : m ≤ n) :
    e.IsBelow n := h.imp_right fun h => Nat.lt_of_lt_of_le h hmn

mutual

theorem Filter.operands_below (f : Filter) : ∀ e ∈ f.operands d, e.IsBelow (sizeOf f) := by
  intro e he
  cases f with
  | nullTest negated operand =>
    -- every operand is part of the filter, but for the pattern of a match, which is a literal
    obtain rfl := List.mem_singleton.mp he
    exact .inr (by simp)
  | compare op left right =>
    rw [Filter.operands] at he
    have he : e = left ∨ e = right := by
      split at he
      · exact .inl (List.mem_singleton.mp he)
      · simpa using he
    rcases he with rfl | rfl <;> exact .inr (by simp only [Filter.compare.sizeOf_spec]; omega)
  | member negated left right =>
    have he : e = left ∨ e = right := by simpa [Filter.operands] using he
    rcases he with rfl | rfl <;> exact .inr (by simp only [Filter.member.sizeOf_spec]; omega)
  | between operand low high =>
    have he : e = operand ∨ e = low ∨ e = high := by simpa [Filter.operands] using he
    rcases he with rfl | rfl | rfl <;> exact .inr (by simp only [Filter.between.sizeOf_spec]; omega)
  | like operand text mode ignoreCase =>
    rw [Filter.operands, List.mem_cons, List.mem_singleton] at he
    rcases he with rfl | rfl
    · exact .inr (by simp only [Filter.like.sizeOf_spec]; omega)
    · exact .inl ⟨_, rfl⟩
  | junction op children =>
    exact (Filter.allOperands_below children e he).mono (by simp)
  | not child => exact (Filter.operands_below child e he).mono (by simp)
  | rows negated query =>
    obtain rfl := List.mem_singleton.mp he
    exact .inr (by simp)

theorem Filter.allOperands_below (fs : List Filter) :
    ∀ e ∈ Filter.allOperands d fs, e.IsBelow (sizeOf fs) := by
  intro e he
  cases fs with
  | nil => cases he
  | cons f rest =>
    rcases List.mem_append.mp he with he | he
    · exact (Filter.operands_below f e he).mono (by simp only [List.cons.sizeOf_spec]; omega)
    · exact (Filter.allOperands_below rest e he).mono (by simp)

end

mutual

theorem SortOrder.operands_below (o : SortOrder) : ∀ e ∈ o.operands, e.IsBelow (sizeOf o) := by
  intro e he
  cases o with
  | term expr direction =>
    obtain rfl := List.mem_singleton.mp he
    exact .inr (by simp only [SortOrder.term.sizeOf_spec]; omega)
  | composite terms => exact (SortOrder.allOperands_below terms e he).mono (by simp)

theorem SortOrder.allOperands_below (os : List SortOrder) :
    ∀ e ∈ SortOrder.allOperands os, e.IsBelow (sizeOf os) := by
  intro e he
  cases os with
  | nil => cases he
  | cons o rest =>
    rcases List.mem_append.mp he with he | he
    · exact (SortOrder.operands_below o e he).mono (by simp only [List.cons.sizeOf_spec]; omega)
    · exact (SortOrder.allOperands_below rest e he).mono (by simp)

end

theorem Expression.operands_below (e : Expression) : ∀ x ∈ e.operands d, x.IsBelow (sizeOf e) := by
  intro x hx
  cases e with
  | filter f => exact (Filter.operands_below f x hx).mono (by simp)
  | sort o => exact (SortOrder.operands_below o x hx).mono (by simp)
  | function f =>
    obtain ⟨kind, args, distinct⟩ := f
    have hlt := List.sizeOf_lt_of_mem (show x ∈ args from hx)
    exact .inr (by simp only [Expression.function.sizeOf_spec, FunctionCall.mk.sizeOf_spec]; omega)
  | _ => cases hx

/-- Without targets inside it an expression leaves the scope as it is. A query does
so in any case, because it binds its source in a scope of its own. -/
theorem Expression.keeps (hplain : ctx.registry.IsPlain) (e : Expression)
    (h : ∀ x, Contains ctx.dialect model [e] x → x.isTarget = false) : e.toSql.Keeps ctx := by
  have hoperands : ∀ x ∈ e.operands ctx.dialect, x.toSql.Keeps ctx := by
    intro x hx
    rcases Expression.operands_below e x hx with ⟨l, rfl⟩ | hsize
    · rw [Expression.toSql]
      exact .resolveText hplain (.literal hplain l)
    · exact Expression.keeps hplain x fun y hy => h y (.operand (hy.of_mem hx))
  -- compound expressions keep what their operands keep, and the operands are smaller
  have hcompound : e.isCompound = true → e.toSql.Keeps ctx := by
    intro he s text t hrun
    obtain ⟨_, hruns⟩ := Expression.runs_operands hplain he hrun
    exact hruns.keeps hoperands
  cases e with
  | path p =>
    rw [Expression.toSql]
    exact .resolveText hplain (.path p)
  | dataTarget target => cases h _ .here
  | target target => cases h _ .here
  | filter f => exact hcompound rfl
  | sort o => exact hcompound rfl
  | function f => exact hcompound rfl
  | literal l =>
    rw [Expression.toSql]
    exact .resolveText hplain (.literal hplain l)
  | parameter p =>
    rw [Expression.toSql]
    exact .resolveText hplain (.addParameter p)
  | sql r =>
    rw [Expression.toSql]
    exact .resolveText hplain (.bind (.fill r _ _ _) fun out => .pure _)
  | query q =>
    intro s text t hrun
    obtain ⟨_, _, _, _, _, _, _, _, rfl, _⟩ := (yields_query hplain).mp hrun
    rfl
termination_by sizeOf e

end SqlCompose
