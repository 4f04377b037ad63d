import SqlCompose.Proofs.Yields
import SqlCompose.Resolution.Leaf
import SqlCompose.Resolution.Source

/-!
# SqlCompose.Proofs.Registry -- registries without resolvers of an application

In a plain registry only the library and the dialect answer. A request then has
the answer of the library, or none; `own` is the resolver that gives it. What
expressions inside the answers of an application come to is never asked for.
-/

namespace SqlCompose

/-! ## Plain registries -/

/-- A resolver that does what the library does. -/
def Resolver.isStandard (r : Resolver) : Bool :=
  match r.action with
  | .standard => true
  | _ => false

namespace Registry

/-- No resolver was added by an application. -/
def IsPlain (g : Registry) : Prop := ∀ r ∈ g.resolvers, r.isCustom = false

/-- No resolver from a kind to a form was added by an application. -/
def IsPlainFor (g : Registry) (kind : ExpressionKind) (form : Form) : Prop :=
  ∀ r ∈ g.resolversFor kind form, r.isCustom = false

/-- The library's resolver from a kind to a form. -/
def own (g : Registry) (kind : ExpressionKind) (form : Form) : Option Resolver :=
  (g.resolversFor kind form).find? Resolver.isStandard

/-- The library answers requests for a kind and a form. -/
def Answers (g : Registry) (kind : ExpressionKind) (form : Form) : Prop :=
  (g.own kind form).isSome

/-- The library answers requests for a kind and a form, and no application has a say. -/
structure IsOwnFor (g : Registry) (kind : ExpressionKind) (form : Form) : Prop where
  plain : g.IsPlainFor kind form
  answers : g.Answers kind form

theorem mem_insertByPriority {r s : Resolver} {rs : List Resolver} :
    r ∈ insertByPriority s rs ↔ r = s ∨ r ∈ rs := by
  induction rs with
  | nil => simp [insertByPriority]
  | cons x rest ih =>
    unfold insertByPriority
    split
    · simp
    · simp only [List.mem_cons, ih]
      exact or_left_comm

theorem mem_extended {r : Resolver} (g : Registry) (rs : List Resolver) :
    r ∈ (g.extended rs).resolvers ↔ r ∈ rs ∨ r ∈ g.resolvers := by
  induction rs generalizing g with
  | nil => simp [extended]
  | cons x rest ih =>
    have h := ih (g.register x)
    simp only [extended, List.foldl_cons] at h ⊢
    rw [h]
    simp only [register, mem_insertByPriority, List.mem_cons]
    constructor
    · rintro (h | h | h)
      · exact .inl (.inr h)
      · exact .inl (.inl h)
      · exact .inr h
    · rintro ((h | h) | h)
      · exact .inr (.inl h)
      · exact .inl h
      · exact .inr (.inr h)

theorem mem_standard {r : Resolver} : r ∈ standard.resolvers ↔ r ∈ standardResolvers := by
  simp [standard, mem_extended]

theorem standardResolvers_isStandard {r : Resolver} (h : r ∈ standardResolvers) :
    r.isStandard = true := by
  simp only [standardResolvers, List.mem_cons, List.not_mem_nil, or_false] at h
  rcases h with h | h | h | h | h | h | h | h | h | h | h | h | h | h <;> subst h <;> rfl

end Registry

theorem Resolver.isCustom_of_isStandard {r : Resolver} (h : r.isStandard = true) :
    r.isCustom = false := by
  unfold Resolver.isStandard at h
  unfold Resolver.isCustom
  split at h <;> simp_all

/-- What holds of the answers of the library and of the bind rules holds of whatever a resolver that
no application has added is asked for. -/
theorem Resolver.ask_of_plain {C : Compose (Option Resolved) → Prop} {q : Request}
    (hstandard : C q.standard) (hbind : ∀ rule, C (q.bind rule)) {r : Resolver}
    (hplain : r.isCustom = false) : C (r.ask q) := by
  unfold isCustom at hplain
  unfold ask
  cases haction : r.action with
  | standard => exact hstandard
  | bind rule => exact hbind rule
  | custom action => simp [haction] at hplain

/-- A dialect puts nothing but the library and its own bind rules into its registry. -/
theorem Dialect.registry_isPlain (d : Dialect) : d.registry.IsPlain := by
  intro r hr
  rw [Dialect.registry, Registry.mem_extended, Registry.mem_standard] at hr
  rcases hr with hr | hr
  · obtain ⟨rule, _, rfl⟩ := List.mem_map.mp hr
    rfl
  · exact Resolver.isCustom_of_isStandard (Registry.standardResolvers_isStandard hr)

/-- What the library answers it answers under every dialect. -/
theorem Dialect.registry_answers (d : Dialect) {r : Resolver} (h : r ∈ Registry.standardResolvers) :
    d.registry.Answers r.kind r.form := by
  unfold Registry.Answers Registry.own
  rw [List.find?_isSome]
  refine ⟨r, ?_, Registry.standardResolvers_isStandard h⟩
  unfold Registry.resolversFor
  rw [List.mem_filter]
  refine ⟨?_, by simp⟩
  rw [Dialect.registry, Registry.mem_extended, Registry.mem_standard]
  exact .inr h

theorem Dialect.registry_isOwnFor (d : Dialect) {r : Resolver} (h : r ∈ Registry.standardResolvers) :
    d.registry.IsOwnFor r.kind r.form where
  plain := fun r' hr => d.registry_isPlain r' (List.mem_filter.mp hr).1
  answers := d.registry_answers h

/-! ## The first answer -/

section Requests

open Compose

variable {α : Type} {ctx : Context} {s t : Session}

/-- Among resolvers of the library and the dialect the first one of the library answers. -/
theorem firstAnswer_eq {q : Request} {x : Compose Resolved} {rs : List Resolver}
    (hplain : ∀ r ∈ rs, r.isCustom = false) (hbind : ∀ rule, q.bind rule = pure none)
    (hstandard : q.standard = x >>= fun a => pure (some a)) :
    firstAnswer q rs =
      match rs.find? Resolver.isStandard with
      | some r => x >>= fun a => pure (some (r, a))
      | none => pure none := by
  induction rs with
  | nil => rfl
  | cons r rest ih =>
    have ih := ih fun r' h => hplain r' (List.mem_cons_of_mem r h)
    have hr := hplain r List.mem_cons_self
    unfold firstAnswer Resolver.ask
    cases h : r.action with
    | standard => simp [Resolver.isStandard, h, hstandard]
    | bind rule => simp [Resolver.isStandard, h, hbind, ih]
    | custom x => simp [Resolver.isCustom, h] at hr

theorem resolversFor_plain {g : Registry} (h : g.IsPlain) (kind : ExpressionKind) (form : Form) :
    g.IsPlainFor kind form := by
  intro r hr
  exact h r (List.mem_filter.mp hr).1

/-- A request is answered by the library, with an answer of the wanted form. -/
theorem yields_resolve {q : Request} (hplain : ctx.registry.IsPlainFor q.expr.kind q.form)
    {x : Compose Resolved} (hbind : ∀ rule, q.bind rule = pure none)
    (hstandard : q.standard = x >>= fun a => pure (some a)) {r : Resolver} {a : Resolved} :
    q.resolve.Yields ctx s (r, a) t ↔
      q.expr.validate = .ok () ∧ ctx.registry.own q.expr.kind q.form = some r ∧ x.Yields ctx s a t ∧
        a.check q.form = .ok () := by
  have hfirst := firstAnswer_eq hplain hbind hstandard
  unfold Request.resolve Registry.own
  simp only [yields_ofResult_bind, yields_read_bind, hfirst]
  constructor
  · rintro ⟨_, hvalid, h⟩
    cases hown : (ctx.registry.resolversFor q.expr.kind q.form).find? Resolver.isStandard with
    | none => simp [hown] at h
    | some r' =>
      simp only [hown, bind_assoc, pure_bind, yields_bind, yields_ofResult, yields_pure,
        Prod.mk.injEq] at h
      obtain ⟨a', t', ha, _, _, ⟨hcheck, rfl⟩, ⟨rfl, rfl⟩, rfl⟩ := h
      exact ⟨hvalid, rfl, ha, hcheck⟩
  · rintro ⟨hvalid, hown, h, hcheck⟩
    refine ⟨(), hvalid, ?_⟩
    simp only [hown, bind_assoc, pure_bind, yields_bind, yields_ofResult, yields_pure]
    exact ⟨a, t, h, (), t, ⟨hcheck, rfl⟩, rfl, rfl⟩

/-- The first answer of several resolvers is what one of them gives when it is asked. -/
theorem ask_of_firstAnswer {q : Request} {rs : List Resolver} {r : Resolver} {a : Resolved}
    (h : (firstAnswer q rs).Yields ctx s (some (r, a)) t) :
    r ∈ rs ∧ ∃ u v, (r.ask q).Yields ctx u (some a) v := by
  induction rs generalizing s with
  | nil => exact absurd (yields_pure.mp h).1 (Option.some_ne_none _)
  | cons x rest ih =>
    obtain ⟨o, u, hask, h⟩ := yields_bind.mp h
    cases o with
    | none =>
      obtain ⟨hr, hgiven⟩ := ih h
      exact ⟨List.mem_cons_of_mem x hr, hgiven⟩
    | some answer =>
      cases (yields_pure.mp h).1
      exact ⟨List.mem_cons_self, s, u, hask⟩

/-- An answer to a request was given by the resolver that is named with it, and is accepted. -/
theorem ask_of_resolve {q : Request} {r : Resolver} {a : Resolved}
    (h : q.resolve.Yields ctx s (r, a) t) :
    r ∈ ctx.registry.resolversFor q.expr.kind q.form ∧
      (∃ u v, (r.ask q).Yields ctx u (some a) v) ∧ a.check q.form = .ok () := by
  unfold Request.resolve at h
  simp only [yields_ofResult_bind, yields_read_bind] at h
  obtain ⟨_, _, h⟩ := h
  obtain ⟨o, u, hfirst, h⟩ := yields_bind.mp h
  cases o with
  | none => exact absurd h yields_throw
  | some answer =>
    obtain ⟨_, hcheck, h⟩ := yields_ofResult_bind.mp h
    cases (yields_pure.mp h).1
    obtain ⟨hr, hask⟩ := ask_of_firstAnswer hfirst
    exact ⟨hr, hask, hcheck⟩

/-- Every answer to a request satisfies what the answers of the library and of the
bind rules satisfy. -/
theorem resolve_invariant {P : Resolved → Prop} {q : Request}
    (hplain : ctx.registry.IsPlainFor q.expr.kind q.form)
    (hstandard : ∀ s a t, q.standard.Yields ctx s (some a) t → P a)
    (hbind : ∀ rule s a t, (q.bind rule).Yields ctx s (some a) t → P a) {r : Resolver}
    {a : Resolved} (h : q.resolve.Yields ctx s (r, a) t) : P a := by
  obtain ⟨hr, ⟨u, v, hask⟩, _⟩ := ask_of_resolve h
  exact Resolver.ask_of_plain (C := fun x => ∀ s a t, x.Yields ctx s (some a) t → P a)
    hstandard hbind (hplain r hr) u a v hask

/-- What the library declines no resolver answers. -/
theorem not_yields_resolve {q : Request} (hplain : ctx.registry.IsPlainFor q.expr.kind q.form)
    (hbind : ∀ rule, q.bind rule = pure none)
    (hstandard : ∀ s o t, q.standard.Yields ctx s o t → o = none) {r : Resolver} {a : Resolved} :
    ¬ q.resolve.Yields ctx s (r, a) t := by
  refine resolve_invariant (P := fun _ => False) hplain ?_ ?_
  · intro s a t h
    exact absurd (hstandard _ _ _ h) (Option.some_ne_none a)
  · intro rule s a t h
    rw [hbind] at h
    exact absurd (yields_pure.mp h).1 (Option.some_ne_none a)

/-- A text is what the library writes, if the library answers, the expression is
valid and the text is not blank. -/
theorem yields_resolveText_of_isPlainFor {e : Expression}
    (hplain : ctx.registry.IsPlainFor e.kind .sql) {standard : Compose String} {text : String} :
    (resolveText e standard).Yields ctx s text t ↔
      e.validate = .ok () ∧ ctx.registry.Answers e.kind .sql ∧ standard.Yields ctx s text t ∧
        checkSqlText text = .ok () := by
  have hresolve := fun (r : Resolver) (a : Resolved) (u : Session) =>
    yields_resolve (s := s) (t := u)
      (q := { expr := e, form := .sql
              standard := standard >>= fun text => pure (some (.sql text)) })
      hplain
      (x := standard >>= fun text => pure (.sql text)) (fun _ => rfl)
      (by simp) (r := r) (a := a)
  unfold resolveText Registry.Answers
  rw [yields_bind, Option.isSome_iff_exists]
  constructor
  · rintro ⟨⟨r, a⟩, u, h, hsql⟩
    obtain ⟨hvalid, hown, hanswer, hcheck⟩ := (hresolve r a u).mp h
    obtain ⟨text', v, hstandard, hpure⟩ := yields_bind.mp hanswer
    obtain ⟨rfl, rfl⟩ := yields_pure.mp hpure
    obtain ⟨hsql, rfl⟩ := yields_ofResult.mp hsql
    cases hsql
    exact ⟨hvalid, ⟨r, hown⟩, hstandard, hcheck⟩
  · rintro ⟨hvalid, ⟨r, hown⟩, hstandard, hcheck⟩
    refine ⟨(r, .sql text), t, (hresolve r (.sql text) t).mpr ⟨hvalid, hown, ?_, hcheck⟩, ?_⟩
    · exact yields_bind.mpr ⟨text, t, hstandard, yields_pure.mpr ⟨rfl, rfl⟩⟩
    · exact yields_ofResult.mpr ⟨rfl, rfl⟩

theorem yields_resolveText (hplain : ctx.registry.IsPlain) {e : Expression}
    {standard : Compose String} {text : String} :
    (resolveText e standard).Yields ctx s text t ↔
      e.validate = .ok () ∧ ctx.registry.Answers e.kind .sql ∧ standard.Yields ctx s text t ∧
        checkSqlText text = .ok () :=
  yields_resolveText_of_isPlainFor (resolversFor_plain hplain e.kind .sql)

/-- The parameter of a literal is the one that the library makes of it. A list has none. -/
theorem yields_resolveParameter_of_isPlainFor
    (hplain : ctx.registry.IsPlainFor .literal .parameter) {l : Literal} {p : Parameter} :
    l.resolveParameter.Yields ctx s p t ↔
      (l.validate = .ok () ∧ ctx.registry.Answers .literal .parameter ∧ l.value.isList = false) ∧
        p = l.parameter ctx.dialect ∧ t = s := by
  unfold Literal.resolveParameter Registry.Answers
  rw [yields_bind, Option.isSome_iff_exists]
  cases hlist : l.value.isList with
  | true =>
    constructor
    · rintro ⟨_, _, h, _⟩
      refine absurd h (not_yields_resolve hplain (fun _ => rfl) ?_)
      intro s o t h
      simp only [if_true, yields_dialect_bind] at h
      exact (yields_pure.mp h).1
    · simp
  | false =>
    -- of anything but a list the library makes a parameter, whoever else is registered
    have hresolve := fun (r : Resolver) (a : Resolved) (u : Session) =>
      yields_resolve (s := s) (t := u)
        (q := { expr := .literal l, form := .parameter
                standard := dialect >>= fun d => pure (some (.parameter (l.parameter d))) })
        hplain
        (x := dialect >>= fun d => pure (.parameter (l.parameter d))) (fun _ => rfl)
        (by simp) (r := r) (a := a)
    simp only [Bool.false_eq_true, if_false]
    constructor
    · rintro ⟨⟨r, a⟩, u, h, hp⟩
      obtain ⟨hvalid, hown, hanswer, _⟩ := (hresolve r a u).mp h
      rw [yields_dialect_bind] at hanswer
      obtain ⟨rfl, rfl⟩ := yields_pure.mp hanswer
      obtain ⟨hp, rfl⟩ := yields_ofResult.mp hp
      cases hp
      exact ⟨⟨hvalid, ⟨r, hown⟩, trivial⟩, rfl, rfl⟩
    · rintro ⟨⟨hvalid, ⟨r, hown⟩, _⟩, rfl, rfl⟩
      refine ⟨(r, .parameter (l.parameter ctx.dialect)), t, ?_, yields_ofResult.mpr ⟨rfl, rfl⟩⟩
      exact (hresolve r _ t).mpr ⟨hvalid, hown, yields_dialect_bind.mpr (yields_pure.mpr ⟨rfl, rfl⟩), rfl⟩

theorem yields_resolveParameter (hplain : ctx.registry.IsPlain) {l : Literal} {p : Parameter} :
    l.resolveParameter.Yields ctx s p t ↔
      (l.validate = .ok () ∧ ctx.registry.Answers .literal .parameter ∧ l.value.isList = false) ∧
        p = l.parameter ctx.dialect ∧ t = s :=
  yields_resolveParameter_of_isPlainFor (resolversFor_plain hplain .literal .parameter)

/-- A source is the one that the library finds for the expression in the data model. -/
theorem yields_source (hplain : ctx.registry.IsPlain) {e : Expression}
    {standard : Option DataModel → Source} {source : Source} :
    (Source.resolve e (some standard)).Yields ctx s source t ↔
      (e.validate = .ok () ∧ ctx.registry.Answers e.kind .relational) ∧
        source = standard ctx.model ∧ t = s := by
  have hresolve := fun (r : Resolver) (a : Resolved) (u : Session) =>
    yields_resolve (s := s) (t := u)
      (q := { expr := e, form := .relational
              standard := pure (some (.relational (standard ctx.model).target)) })
      (resolversFor_plain hplain e.kind .relational)
      (x := pure (.relational (standard ctx.model).target)) (fun _ => rfl)
      (by simp) (r := r) (a := a)
  unfold Source.resolve Registry.Answers
  simp only [yields_read_bind, Option.map_some]
  rw [yields_bind, Option.isSome_iff_exists]
  -- the source is kept as it is only if no application answered for it
  have hcustom : ∀ r, ctx.registry.own e.kind .relational = some r → r.isCustom = false := by
    intro r hr
    exact Resolver.isCustom_of_isStandard (List.find?_some hr)
  constructor
  · rintro ⟨⟨r, a⟩, u, h, hrest⟩
    obtain ⟨hvalid, hown, hanswer, _⟩ := (hresolve r a u).mp h
    obtain ⟨rfl, rfl⟩ := yields_pure.mp hanswer
    simp only [yields_ofResult_bind, hcustom r hown, yields_pure] at hrest
    obtain ⟨_, _, rfl, rfl⟩ := hrest
    exact ⟨⟨hvalid, ⟨r, hown⟩⟩, rfl, rfl⟩
  · rintro ⟨⟨hvalid, ⟨r, hown⟩⟩, rfl, rfl⟩
    refine ⟨(r, .relational (standard ctx.model).target), t, ?_, ?_⟩
    · exact (hresolve r _ t).mpr ⟨hvalid, hown, by simp, rfl⟩
    · simp only [yields_ofResult_bind, hcustom r hown, yields_pure]
      exact ⟨_, rfl, trivial, trivial⟩

/-- Nothing but a target is a source for the library. -/
theorem not_yields_source (hplain : ctx.registry.IsPlain) {e : Expression} {source : Source} :
    ¬ (Source.resolve e none).Yields ctx s source t := by
  unfold Source.resolve
  rw [yields_read_bind, yields_bind]
  rintro ⟨_, _, h, _⟩
  refine not_yields_resolve (resolversFor_plain hplain e.kind .relational) ?_ ?_ h
  · intro _
    rfl
  · intro s o t ho
    exact (yields_pure.mp ho).1

end Requests

end SqlCompose
