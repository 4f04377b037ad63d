import SqlCompose.Proofs.BindForms
import SqlCompose.Proofs.Priorities

/-!
# SqlCompose.Proofs.FirstAnswer -- the first answer counts

The resolvers of a list are asked in order. One that declines passes the expression on,
together with what it changed in the session; the first one that does not decline ends
the search, with its error or with its answer. What stands behind it has no say. Every
expression is resolved in this way, into every form.
-/

namespace SqlCompose

open Compose

variable {ctx : Context} {s t u : Session}

/-! ## Asking in order -/

/-- An answer in SQL that says nothing. -/
def Resolved.isBlank : Resolved → Bool
  | .sql text => Text.allBlank text
  | _ => false

/-- What asking the resolvers of a list in order comes to. -/
inductive ComesTo (ask : Resolver → Compose (Option Resolved)) (ctx : Context)
    (kind : ExpressionKind) (form : Form) :
    List Resolver → Session → Except SqlError Resolved × Session → Prop where
  /-- There is no resolver left. -/
  | unresolved (s : Session) : ComesTo ask ctx kind form [] s (.error (.unresolved kind form), s)
  | declined {r : Resolver} {rest : List Resolver} {s t : Session}
      {outcome : Except SqlError Resolved × Session} (h : (ask r).Yields ctx s none t)
      (hrest : ComesTo ask ctx kind form rest t outcome) :
      ComesTo ask ctx kind form (r :: rest) s outcome
  | failed {r : Resolver} {rest : List Resolver} {s t : Session} {e : SqlError}
      (h : (ask r).outcome ctx s = (.error e, t)) :
      ComesTo ask ctx kind form (r :: rest) s (.error e, t)
  | wrongForm {r : Resolver} {rest : List Resolver} {s t : Session} {a : Resolved}
      (h : (ask r).Yields ctx s (some a) t) (hform : a.form ≠ form) :
      ComesTo ask ctx kind form (r :: rest) s (.error (.invalid (.wrongForm a.form form)), t)
  | blank {r : Resolver} {rest : List Resolver} {s t : Session} {a : Resolved}
      (h : (ask r).Yields ctx s (some a) t) (hform : a.form = form) (hblank : a.isBlank = true) :
      ComesTo ask ctx kind form (r :: rest) s (.error (.invalid .blankSql), t)
  | answered {r : Resolver} {rest : List Resolver} {s t : Session} {a : Resolved}
      (h : (ask r).Yields ctx s (some a) t) (hform : a.form = form) (hblank : a.isBlank = false) :
      ComesTo ask ctx kind form (r :: rest) s (.ok a, t)

namespace Resolved

theorem check_of_form_ne {a : Resolved} {form : Form} (h : a.form ≠ form) :
    a.check form = .error (.invalid (.wrongForm a.form form)) := if_pos (bne_iff_ne.mpr h)

theorem check_of_isBlank {a : Resolved} (h : a.isBlank = true) :
    a.check a.form = .error (.invalid .blankSql) := by
  unfold check
  rw [if_neg (by simp)]
  cases a with
  | sql text => exact if_pos h
  | _ => cases h

theorem check_of_not_isBlank {a : Resolved} (h : a.isBlank = false) : a.check a.form = .ok () := by
  unfold check
  rw [if_neg (by simp)]
  cases a with
  | sql text => exact if_neg (Bool.eq_false_iff.mp h)
  | _ => rfl

theorem form_of_check {a : Resolved} {form : Form} (h : a.check form = .ok ()) : a.form = form := by
  apply Decidable.byContradiction
  intro hform
  rw [check_of_form_ne hform] at h
  cases h

end Resolved

namespace Request

/-- The first answer of several resolvers, if it can be accepted. -/
def accepted (q : Request) (rs : List Resolver) : Compose Resolved := do
  match ← firstAnswer q rs with
  | none => throw (.unresolved q.expr.kind q.form)
  | some (_, resolved) =>
    ofResult (resolved.check q.form)
    pure resolved

theorem outcome_accepted_nil (q : Request) :
    (q.accepted []).outcome ctx s = (.error (.unresolved q.expr.kind q.form), s) := rfl

/-- The first resolver is asked, and the others if it declines. -/
theorem outcome_accepted_cons (q : Request) (r : Resolver) (rest : List Resolver) :
    (q.accepted (r :: rest)).outcome ctx s =
      match (r.ask q).outcome ctx s with
      | (.error e, t) => (.error e, t)
      | (.ok none, t) => (q.accepted rest).outcome ctx t
      | (.ok (some a), t) => ((a.check q.form).map fun _ => a, t) := by
  unfold accepted
  rw [firstAnswer, bind_assoc, outcome_bind]
  rcases (r.ask q).outcome ctx s with ⟨e | a, t⟩
  · rfl
  cases a with
  | none => rfl
  | some a =>
    show ((ofResult (a.check q.form) >>= fun _ => pure a) : Compose Resolved).outcome ctx t =
      ((a.check q.form).map fun _ => a, t)
    cases a.check q.form <;> rfl

/-- The resolvers come to their first answer, and to nothing else. -/
theorem comesTo_iff (q : Request) (rs : List Resolver)
    (outcome : Except SqlError Resolved × Session) :
    ComesTo (fun r => r.ask q) ctx q.expr.kind q.form rs s outcome ↔
      outcome = (q.accepted rs).outcome ctx s := by
  constructor
  · intro h
    induction h with
    | unresolved s => exact (outcome_accepted_nil q).symm
    | declined h _ ih => rw [outcome_accepted_cons, h, ih]
    | failed h => rw [outcome_accepted_cons, h]
    | wrongForm h hform =>
      rw [outcome_accepted_cons, h]
      simp only [Resolved.check_of_form_ne hform]
      rfl
    | blank h hform hblank =>
      rw [outcome_accepted_cons, h, ← hform]
      simp only [Resolved.check_of_isBlank hblank]
      rfl
    | answered h hform hblank =>
      rw [outcome_accepted_cons, h, ← hform]
      simp only [Resolved.check_of_not_isBlank hblank]
      rfl
  · rintro rfl
    -- what a resolver leaves in the session is where the next one starts
    induction rs generalizing s with
    | nil => exact .unresolved s
    | cons r rest ih =>
      rw [outcome_accepted_cons]
      rcases h : (r.ask q).outcome ctx s with ⟨e | a, t⟩
      · exact .failed h
      cases a with
      | none => exact .declined h ih
      | some a =>
        by_cases hform : a.form = q.form
        · cases hblank : a.isBlank with
          | true =>
            simp only [← hform, Resolved.check_of_isBlank hblank]
            exact .blank h rfl hblank
          | false =>
            simp only [← hform, Resolved.check_of_not_isBlank hblank]
            exact .answered h rfl hblank
        · simp only [Resolved.check_of_form_ne hform]
          exact .wrongForm h hform

/-- A valid request has the answer that is accepted. -/
theorem outcome_resolve {q : Request} (hvalid : q.expr.validate = .ok ()) :
    (q.resolve >>= fun answer => pure answer.2 : Compose Resolved).outcome ctx s =
      (q.accepted (ctx.registry.resolversFor q.expr.kind q.form)).outcome ctx s := by
  unfold resolve accepted
  rw [hvalid]
  simp only [bind_assoc]
  show ((firstAnswer q _ >>= _) : Compose Resolved).outcome ctx s = _
  rw [outcome_bind, outcome_bind]
  rcases (firstAnswer q (ctx.registry.resolversFor q.expr.kind q.form)).outcome ctx s with ⟨e | o, t⟩
  · rfl
  cases o with
  | none => rfl
  | some answer =>
    obtain ⟨r, a⟩ := answer
    simp only [bind_assoc, pure_bind]

/-- What is done with an answer does not matter as long as it gives every accepted one back. -/
theorem outcome_resolve_bind {q : Request} {f : Resolver × Resolved → Compose Resolved}
    (h : ∀ r a s t, q.resolve.Yields ctx s (r, a) t → ∀ u, (f (r, a)).Yields ctx u a u) :
    (q.resolve >>= f).outcome ctx s =
      (q.resolve >>= fun answer => pure answer.2 : Compose Resolved).outcome ctx s := by
  rw [outcome_bind, outcome_bind]
  rcases hresolve : q.resolve.outcome ctx s with ⟨e | ⟨r, a⟩, t⟩
  · rfl
  · exact h r a s t hresolve t

/-- It is enough to give the answers of the form that was asked for back. -/
theorem outcome_resolve_form {q : Request} {f : Resolver × Resolved → Compose Resolved}
    (h : ∀ r a, a.form = q.form → f (r, a) = pure a) :
    (q.resolve >>= f).outcome ctx s =
      (q.resolve >>= fun answer => pure answer.2 : Compose Resolved).outcome ctx s := by
  apply outcome_resolve_bind
  intro r a s t hresolve u
  rw [h r a (Resolved.form_of_check (ask_of_resolve hresolve).2.2)]
  exact yields_pure.mpr ⟨rfl, rfl⟩

end Request

/-! ## Expressions as requests -/

/-- What the library itself writes for an expression. -/
def Expression.ownText : Expression → Compose String
  | .path p => p.sql
  | .dataTarget t =>
    Source.sqlOf (Source.resolve (.dataTarget t) (some (DataTarget.toSource t)))
  | .target t => (RelationalTarget.toSource t).text
  | .filter f => Compose.written (Filter.toTokens f)
  | .sort o => ordered (SortOrder.toTerms o)
  | .function f => FunctionCall.toSql f
  | .literal l => l.sql
  | .parameter p => Compose.addParameter p
  | .sql r => r.sql
  | .query q => subselect (SelectQuery.toSource q) (SelectQuery.renderFrom q)

/-- The source that the library itself finds for an expression in a data model. -/
def Expression.ownSource : Expression → Option (Option DataModel → Source)
  | .dataTarget t => some (DataTarget.toSource t)
  | .target t => some fun _ => RelationalTarget.toSource t
  | _ => none

/-- The request to resolve an expression into a form. -/
def Expression.request (model : Option DataModel) (e : Expression) : Form → Request
  | .sql =>
    { expr := e, form := .sql
      standard := do
        let text ← e.ownText
        pure (some (.sql text)) }
  | .relational =>
    { expr := e, form := .relational
      standard := pure ((e.ownSource.map fun source => source model).map fun source =>
        .relational source.target) }
  | .parameter =>
    { expr := e, form := .parameter
      standard := match e with
        | .literal l => do
          let d ← Compose.dialect
          pure (if l.value.isList then none else some (.parameter (l.parameter d)))
        | _ => pure none }
  | .bindable =>
    { expr := e, form := .bindable
      standard := match e with
        | .parameter p => pure (some (.bindable p.bound))
        | _ => pure none
      bind := match e with
        | .parameter p => p.bindBy
        | _ => fun _ => pure none }

theorem Expression.expr_request (model : Option DataModel) (e : Expression) (form : Form) :
    (e.request model form).expr = e := by
  cases form <;> rfl

theorem Expression.form_request (model : Option DataModel) (e : Expression) (form : Form) :
    (e.request model form).form = form := by
  cases form <;> rfl

theorem Expression.toSql_eq (e : Expression) :
    e.toSql = resolveText e e.ownText := by
  cases e <;> rw [Expression.toSql] <;> rfl

theorem Expression.toSource_eq (e : Expression) :
    e.toSource = Source.resolve e e.ownSource := by
  cases e <;> simp only [Expression.toSource, Expression.ownSource]

theorem outcome_resolve_sql (e : Expression) :
    (Compose.resolve e .sql).outcome ctx s =
      ((e.request ctx.model .sql).resolve >>=
        fun answer => pure answer.2 : Compose Resolved).outcome ctx s := by
  have hresolve : (Compose.resolve e .sql).outcome ctx s =
      ((e.request ctx.model .sql).resolve >>=
        fun answer => ofResult answer.2.intoSql >>= fun text => pure (.sql text) :
          Compose Resolved).outcome ctx s := by
    unfold Compose.resolve resolveSql
    rw [Expression.toSql_eq]
    unfold resolveText
    rw [bind_assoc]
    rfl
  rw [hresolve]
  refine Request.outcome_resolve_form fun r a hform => ?_
  cases a with
  | sql text => rfl
  | _ => cases hform

/-- The source of an answer: the library's own one, unless an application answered. -/
def Source.ofAnswer (g : Registry) (own : Option Source) (answer : Resolver × Resolved) :
    Compose Source := do
  let target ← ofResult answer.2.intoRelational
  match own, answer.1.isCustom with
  | some source, false => pure source
  | _, _ => pure (Source.foreign g target)

/-- Whatever the source of an answer is, its table is the one that was answered. -/
theorem target_ofAnswer {g : Registry} {own : Option Source} {r : Resolver} {t : RelationalTarget}
    (h : r.isCustom = false → own.map (·.target) = some t) :
    (Source.ofAnswer g own (r, .relational t) >>= fun source =>
      pure (.relational source.target) : Compose Resolved).Yields ctx s (.relational t) s := by
  unfold Source.ofAnswer
  cases own with
  | none => rfl
  | some source =>
    cases hcustom : r.isCustom with
    | true => rfl
    | false =>
      cases h hcustom
      rfl

theorem outcome_resolve_relational (e : Expression) :
    (Compose.resolve e .relational).outcome ctx s =
      ((e.request ctx.model .relational).resolve >>=
        fun answer => pure answer.2 : Compose Resolved).outcome ctx s := by
  have hresolve : (Compose.resolve e .relational).outcome ctx s =
      ((e.request ctx.model .relational).resolve >>=
        fun answer => Source.ofAnswer ctx.registry
          (e.ownSource.map fun source => source ctx.model) answer >>=
            fun source => pure (.relational source.target) : Compose Resolved).outcome ctx s := by
    unfold Compose.resolve resolveSource
    rw [Expression.toSource_eq, ← bind_assoc]
    rfl
  rw [hresolve]
  apply Request.outcome_resolve_bind
  intro r a s t h u
  obtain ⟨_, ⟨v, w, hask⟩, hcheck⟩ := ask_of_resolve h
  have hform := Resolved.form_of_check hcheck
  cases a with
  | relational target =>
    apply target_ofAnswer
    intro hcustom
    -- what no application answered is the answer of the library
    unfold Resolver.ask at hask
    cases haction : r.action with
    | standard =>
      rw [haction] at hask
      have hown := (yields_pure.mp hask).1
      cases hsource : e.ownSource.map fun source => source ctx.model with
      | none =>
        rw [hsource] at hown
        cases hown
      | some source =>
        rw [hsource] at hown
        cases hown
        rfl
    | bind rule =>
      rw [haction] at hask
      cases (yields_pure.mp hask).1
    | custom action =>
      rw [Resolver.isCustom, haction] at hcustom
      cases hcustom
  | _ => cases hform

theorem outcome_resolve_parameter (e : Expression) :
    (Compose.resolve e .parameter).outcome ctx s =
      ((e.request ctx.model .parameter).resolve >>=
        fun answer => pure answer.2 : Compose Resolved).outcome ctx s := by
  have hresolve : (Compose.resolve e .parameter).outcome ctx s =
      ((e.request ctx.model .parameter).resolve >>=
        fun answer => ofResult answer.2.intoParameter >>= fun p => pure (.parameter p) :
          Compose Resolved).outcome ctx s := by
    unfold Compose.resolve resolveParameter
    cases e with
    | literal l =>
      simp only [Literal.resolveParameter, bind_assoc]
      rfl
    | _ =>
      simp only [bind_assoc]
      rfl
  rw [hresolve]
  refine Request.outcome_resolve_form fun r a hform => ?_
  cases a with
  | parameter p => rfl
  | _ => cases hform

theorem outcome_resolve_bindable (e : Expression) :
    (Compose.resolve e .bindable).outcome ctx s =
      ((e.request ctx.model .bindable).resolve >>=
        fun answer => pure answer.2 : Compose Resolved).outcome ctx s := by
  have hresolve : (Compose.resolve e .bindable).outcome ctx s =
      ((e.request ctx.model .bindable).resolve >>=
        fun answer => ofResult answer.2.intoBindable >>= fun bound => pure (.bindable bound) :
          Compose Resolved).outcome ctx s := by
    unfold Compose.resolve Compose.resolveBound
    cases e with
    | parameter p =>
      simp only [Parameter.resolveBound, bind_assoc]
      rfl
    | _ =>
      simp only [bind_assoc]
      rfl
  rw [hresolve]
  refine Request.outcome_resolve_form fun r a hform => ?_
  cases a with
  | bindable bound => rfl
  | _ => cases hform

/-- Resolving an expression is answering its request. -/
theorem outcome_resolve_expression (e : Expression) (form : Form) :
    (Compose.resolve e form).outcome ctx s =
      ((e.request ctx.model form).resolve >>=
        fun answer => pure answer.2 : Compose Resolved).outcome ctx s := by
  cases form with
  | sql => exact outcome_resolve_sql e
  | relational => exact outcome_resolve_relational e
  | parameter => exact outcome_resolve_parameter e
  | bindable => exact outcome_resolve_bindable e

/-- Whatever was registered, the resolvers from a kind to a form are those that were registered for
them, stably sorted by descending priority. Resolving a valid expression comes to what asking them
in order comes to, and to nothing else. -/
theorem Registry.first_answer_counts (history : List Registry.Addition) (ctx : Context)
    (hregistry : ctx.registry.resolvers = (Registry.after history).resolvers) :
    (∀ kind form, ctx.registry.resolversFor kind form =
      ((Registry.registered history).filter fun r => r.kind == kind && r.form == form).mergeSort
        Resolver.ranks) ∧
    ∀ (e : Expression) (form : Form) (s : Session) (outcome : Except SqlError Resolved × Session),
      e.validate = .ok () →
        (ComesTo (fun r => r.ask (e.request ctx.model form)) ctx e.kind form
            (ctx.registry.resolversFor e.kind form) s outcome ↔
          outcome = (Compose.resolve e form).outcome ctx s) := by
  constructor
  · intro kind form
    rw [← Registry.resolversFor_after history kind form]
    unfold Registry.resolversFor
    rw [hregistry]
  · intro e form s outcome hvalid
    have hrequest : (e.request ctx.model form).expr.validate = .ok () := by
      rw [e.expr_request]
      exact hvalid
    rw [outcome_resolve_expression, Request.outcome_resolve hrequest, ← Request.comesTo_iff,
      e.expr_request, e.form_request]

/-- A resolver that was registered last is asked first. It draws an alias from the scope and
declines, and of two of one priority the one that was registered first answers. -/
theorem Registry.first_answer_counts_layered :
    let first : Resolver :=
      { name := "first", kind := .path, form := .sql
        action := .custom fun e => pure (some (.sql e.kind.shown)) }
    let second : Resolver :=
      { name := "second", kind := .path, form := .sql
        action := .custom fun _ => throw (.config .unreadable) }
    let drawn (s : Session) : Session := { s with scope := (s.scope.generateAlias "y").2 }
    let urgent : Resolver :=
      { name := "urgent", kind := .path, form := .sql, priority := 10
        action := .custom fun _ => do
          modify drawn
          pure none }
    let history : List Registry.Addition := [.one first, .several [second, urgent]]
    let ctx : Context :=
      { dialect := Dialect.new .ansi, aliasMode := .explicitOnly, model := none
        registry := Registry.after history }
    let e : Expression := .path (.root "y" none)
    let s : Session := { scope := Scope.root }
    [urgent, first, second] =
        ((Registry.registered history).filter fun r => r.kind == .path && r.form == .sql).mergeSort
          Resolver.ranks ∧
      ComesTo (fun r => r.ask (e.request ctx.model .sql)) ctx .path .sql
        (ctx.registry.resolversFor .path .sql) s (.ok (.sql "Path"), drawn s) := by
  intro first second drawn urgent history ctx e s
  obtain ⟨horder, hanswer⟩ := Registry.first_answer_counts history ctx rfl
  exact ⟨horder .path .sql, (hanswer e .sql s _ rfl).mpr rfl⟩

end SqlCompose
