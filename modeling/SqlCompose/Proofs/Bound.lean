import SqlCompose.Proofs.Registry
import SqlCompose.Resolution.Prepare

/-!
# SqlCompose.Proofs.Bound -- binding parameters and filling in their markers

Binding a parameter looks at the registry and the streams alone, and keeps its
marker. So the text of a prepared statement does not depend on any value, and
its parameters are what binding gives for the placeholders in order.
-/

namespace SqlCompose

open Compose

variable {α β : Type} {ctx : Context} {s t : Session} {g : Registry}
  {ρ : StreamStore → StreamStore → Prop}

/-! ## Computations on streams -/

/-- A computation sees the registry and the streams only, changes the streams
only, and goes the same way from streams that are alike. -/
def Compose.OnStreams (g : Registry) (ρ : StreamStore → StreamStore → Prop) (x : Compose α) : Prop :=
  ∀ ⦃ctx ctx' : Context⦄ ⦃s s' : Session⦄ ⦃a : α⦄ ⦃t : Session⦄,
    ctx.registry = g → ctx'.registry = g → ρ s.streams s'.streams → x.Yields ctx s a t →
      t = { s with streams := t.streams } ∧
        ∃ streams, ρ t.streams streams ∧ x.Yields ctx' s' a { s' with streams := streams }

theorem onStreams_pure (a : α) : (pure a : Compose α).OnStreams g ρ := by
  intro ctx ctx' s s' b t _ _ hρ h
  obtain ⟨rfl, rfl⟩ := yields_pure.mp h
  exact ⟨rfl, s'.streams, hρ, yields_pure.mpr ⟨rfl, rfl⟩⟩

theorem onStreams_throw (e : SqlError) : (throw e : Compose α).OnStreams g ρ := by
  intro ctx ctx' s s' a t _ _ _ h
  exact absurd h yields_throw

theorem onStreams_ofResult (x : Except SqlError α) : (ofResult x).OnStreams g ρ := by
  intro ctx ctx' s s' a t _ _ hρ h
  obtain ⟨rfl, rfl⟩ := yields_ofResult.mp h
  exact ⟨rfl, s'.streams, hρ, yields_ofResult.mpr ⟨rfl, rfl⟩⟩

theorem onStreams_bind {x : Compose α} {f : α → Compose β} (hx : x.OnStreams g ρ)
    (hf : ∀ a, (f a).OnStreams g ρ) : (x >>= f).OnStreams g ρ := by
  intro ctx ctx' s s' b u hg hg' hρ h
  obtain ⟨a, t, ha, hb⟩ := yields_bind.mp h
  obtain ⟨ht, streams, hρ, ha'⟩ := hx hg hg' hρ ha
  have hρ : ρ t.streams ({ s' with streams := streams } : Session).streams := hρ
  obtain ⟨hu, streams', hρ, hb'⟩ := hf a hg hg' hρ hb
  refine ⟨?_, streams', hρ, yields_bind.mpr ⟨a, _, ha', hb'⟩⟩
  rw [hu, ht]

/-- Reading goes the same way from the same streams. -/
theorem onStreams_ofStreaming (x : Streaming α) : (ofStreaming x).OnStreams g Eq := by
  intro ctx ctx' s s' a t _ _ hρ h
  obtain ⟨streams, hx, rfl⟩ := yields_ofStreaming.mp h
  refine ⟨rfl, streams, rfl, yields_ofStreaming.mpr ⟨streams, ?_, rfl⟩⟩
  rw [← hρ]
  exact hx

theorem onStreams_read {f : Registry → Compose α} (hf : (f g).OnStreams g ρ) :
    (read >>= fun ctx => f ctx.registry : Compose α).OnStreams g ρ := by
  intro ctx ctx' s s' a t hg hg' hρ h
  simp only [yields_read_bind, hg, hg'] at h ⊢
  exact hf hg hg' hρ h

theorem onStreams_mapM {f : α → Compose β} (items : List α) (hf : ∀ a ∈ items, (f a).OnStreams g ρ) :
    (items.mapM f).OnStreams g ρ := by
  induction items with
  | nil => exact onStreams_pure []
  | cons a rest ih =>
    rw [List.mapM_cons]
    refine onStreams_bind (hf a List.mem_cons_self) fun b => ?_
    refine onStreams_bind (ih fun a' h => hf a' (List.mem_cons_of_mem a h)) fun bs => ?_
    exact onStreams_pure _

/-! ## Binding one parameter -/

/-- The value is a stream of characters, which is read when it is bound. -/
def Value.IsCharStream (v : Value) : Prop := ∃ handle, v = .charStream handle

theorem onStreams_bindBy (rule : BindRule) (p : Parameter) (hρ : p.value.IsCharStream → ρ = Eq) :
    (p.bindBy rule).OnStreams g ρ := by
  refine onStreams_bind ?_ fun text => onStreams_pure _
  cases rule with
  | temporalText => exact onStreams_pure _
  | characterStream =>
    cases hv : p.value with
    | charStream handle =>
      obtain rfl := hρ ⟨handle, hv⟩
      exact onStreams_bind (onStreams_ofStreaming _) fun text => onStreams_pure _
    | _ => exact onStreams_pure _

theorem onStreams_firstAnswer {q : Request} {rs : List Resolver}
    (hplain : ∀ r ∈ rs, r.isCustom = false) (hstandard : q.standard.OnStreams g ρ)
    (hbind : ∀ rule, (q.bind rule).OnStreams g ρ) : (firstAnswer q rs).OnStreams g ρ := by
  induction rs with
  | nil => exact onStreams_pure none
  | cons r rest ih =>
    have ih := ih fun r' h => hplain r' (List.mem_cons_of_mem r h)
    refine onStreams_bind ?_ fun o => ?_
    · exact Resolver.ask_of_plain (C := fun x => x.OnStreams g ρ) hstandard hbind
        (hplain r List.mem_cons_self)
    · cases o with
      | some resolved => exact onStreams_pure _
      | none => exact ih

theorem onStreams_resolve {q : Request} (hplain : g.IsPlainFor q.expr.kind q.form)
    (hstandard : q.standard.OnStreams g ρ) (hbind : ∀ rule, (q.bind rule).OnStreams g ρ) :
    q.resolve.OnStreams g ρ := by
  refine onStreams_bind (onStreams_ofResult _) fun _ => ?_
  refine onStreams_read (f := fun g => firstAnswer q (g.resolversFor q.expr.kind q.form) >>= _) ?_
  refine onStreams_bind ?_ fun o => ?_
  · exact onStreams_firstAnswer hplain hstandard hbind
  · cases o with
    | none => exact onStreams_throw _
    | some answer => exact onStreams_bind (onStreams_ofResult _) fun _ => onStreams_pure _

/-- Binding a parameter looks at the registry, and at the streams if it has to read one. -/
theorem onStreams_resolveBound (hplain : g.IsPlainFor .parameter .bindable) (p : Parameter)
    (hρ : p.value.IsCharStream → ρ = Eq) : (resolveBound (.parameter p)).OnStreams g ρ := by
  refine onStreams_bind ?_ fun answer => onStreams_ofResult _
  exact onStreams_resolve hplain (onStreams_pure _) fun rule => onStreams_bindBy rule p hρ

/-- However a parameter is bound, its marker stands for it. -/
theorem resolveBound_marker (hplain : ctx.registry.IsPlainFor .parameter .bindable)
    {p : Parameter} {b : BoundParameter} (h : (resolveBound (.parameter p)).Yields ctx s b t) :
    b.marker = p.marker := by
  obtain ⟨⟨r, a⟩, u, h, hb⟩ := yields_bind.mp h
  obtain ⟨hb, rfl⟩ := yields_ofResult.mp hb
  -- which resolver answered is not known: the marker is kept by every one that may have
  have hmarker : ∀ b, a = .bindable b → b.marker = p.marker := by
    refine resolve_invariant (P := fun a => ∀ b, a = .bindable b → b.marker = p.marker)
      hplain ?_ ?_ h
    · intro s a t h b hb
      cases (yields_pure.mp h).1
      cases hb
      rfl
    · intro rule s a t h b hb
      obtain ⟨text, u, _, h⟩ := yields_bind.mp h
      cases text with
      | none => simp at h
      | some text =>
        obtain ⟨ha, _⟩ := yields_pure.mp h
        cases ha
        cases hb
        rfl
  cases a with
  | bindable b' =>
    cases hb
    exact hmarker _ rfl
  | _ => simp [Resolved.intoBindable, SqlCompose.refuse] at hb

/-! ## Filling in markers -/

namespace TextPiece

/-- What a piece becomes: a placeholder becomes the marker of the parameter it names. -/
def filled (acc : Accumulator) : TextPiece → List Char
  | .char c => [c]
  | .placeholder number => ((acc.numbered? number).map fun p => p.marker.toList).getD []

/-- The number of a placeholder. -/
def number? : TextPiece → Option Nat
  | .char _ => none
  | .placeholder number => some number

end TextPiece

namespace Accumulator

/-- A text with the markers of its placeholders in their places. -/
def fill (acc : Accumulator) (cs : List Char) : List Char :=
  (TextPiece.scan 0 cs).flatMap (TextPiece.filled acc)

/-- The parameters that the placeholders of a text name, in order. -/
def named? (acc : Accumulator) (cs : List Char) : Option (List Parameter) :=
  ((TextPiece.scan 0 cs).filterMap TextPiece.number?).mapM acc.numbered?

end Accumulator

/-- Bind several parameters in order. -/
def Compose.bindAll (ps : List Parameter) : Compose (List BoundParameter) :=
  ps.mapM fun p => resolveBound (.parameter p)

theorem bindAll_cons (p : Parameter) (ps : List Parameter) :
    bindAll (p :: ps) =
      resolveBound (.parameter p) >>= fun b => bindAll ps >>= fun bs => pure (b :: bs) :=
  List.mapM_cons

theorem onStreams_bindAll (hplain : g.IsPlain) (ps : List Parameter)
    (hρ : ∀ p ∈ ps, p.value.IsCharStream → ρ = Eq) : (bindAll ps).OnStreams g ρ :=
  onStreams_mapM ps fun p hp =>
    onStreams_resolveBound (resolversFor_plain hplain _ _) p (hρ p hp)

theorem yields_bindNumbered {number : Nat} {b : BoundParameter} :
    (bindNumbered number).Yields ctx s b t ↔
      ∃ p, s.parameters.numbered? number = some p ∧
        (resolveBound (.parameter p)).Yields ctx s b t := by
  unfold bindNumbered
  rw [yields_get_bind]
  cases s.parameters.numbered? number with
  | none => simp
  | some p => simp

theorem yields_bindPieces (hplain : ctx.registry.IsPlainFor .parameter .bindable)
    {pieces : List TextPiece} {result : List Char × List Parameter} :
    (bindPieces pieces).Yields ctx s result t ↔
      ∃ ps bs, (pieces.filterMap TextPiece.number?).mapM s.parameters.numbered? = some ps ∧
        (bindAll ps).Yields ctx s bs t ∧
        result = (pieces.flatMap (TextPiece.filled s.parameters), bs.map (·.parameter)) := by
  induction pieces generalizing s t result with
  | nil =>
    simp only [bindPieces, yields_pure]
    constructor
    · rintro ⟨rfl, rfl⟩
      exact ⟨[], [], rfl, yields_pure.mpr ⟨rfl, rfl⟩, rfl⟩
    · rintro ⟨ps, bs, hps, hbs, rfl⟩
      cases hps
      obtain ⟨rfl, rfl⟩ := yields_pure.mp hbs
      exact ⟨rfl, rfl⟩
  | cons piece rest ih =>
    cases piece with
    | char c =>
      simp only [bindPieces, yields_bind, ih, yields_pure]
      constructor
      · rintro ⟨_, _, ⟨ps, bs, hps, hbs, rfl⟩, rfl, rfl⟩
        exact ⟨ps, bs, hps, hbs, rfl⟩
      · rintro ⟨ps, bs, hps, hbs, rfl⟩
        exact ⟨_, _, ⟨ps, bs, hps, hbs, rfl⟩, rfl, rfl⟩
    | placeholder number =>
      -- the numbers further on are looked up after this binding, among the same parameters
      have hbound : ∀ {p b u}, (resolveBound (.parameter p)).Yields ctx s b u →
          u.parameters = s.parameters := by
        intro p b u hb
        rw [(onStreams_resolveBound hplain p (ρ := Eq) (fun _ => rfl) rfl rfl rfl hb).1]
      simp only [bindPieces, yields_bind, yields_bindNumbered, yields_pure, ih]
      constructor
      · rintro ⟨b, u, ⟨p, hp, hb⟩, _, _, ⟨ps, bs, hps, hbs, rfl⟩, rfl, rfl⟩
        rw [hbound hb] at hps ⊢
        refine ⟨p :: ps, b :: bs, by simp [TextPiece.number?, hp, hps], ?_, ?_⟩
        · rw [bindAll_cons, yields_bind]
          exact ⟨b, u, hb, yields_bind.mpr ⟨bs, _, hbs, yields_pure.mpr ⟨rfl, rfl⟩⟩⟩
        · simp [TextPiece.filled, hp, resolveBound_marker hplain hb]
      · rintro ⟨ps, bs, hps, hbs, rfl⟩
        simp only [List.filterMap_cons, TextPiece.number?, List.mapM_cons, Option.bind_eq_bind,
          Option.bind_eq_some_iff, Option.pure_def, Option.some.injEq] at hps
        obtain ⟨p, hp, ps', hps', rfl⟩ := hps
        simp only [bindAll_cons, yields_bind, yields_pure] at hbs
        obtain ⟨b, u, hb, bs', _, hbs', rfl, rfl⟩ := hbs
        refine ⟨b, u, ⟨p, hp, hb⟩, _, _, ⟨ps', bs', ?_, hbs', rfl⟩, ?_, rfl⟩
        · rw [hbound hb]
          exact hps'
        · simp [TextPiece.filled, hp, resolveBound_marker hplain hb, hbound hb]

/-- A prepared statement has the markers of the parameters in the places of their
placeholders, and its parameters are what binding gives for them in order. No resolver
of an application may bind any of them. -/
theorem yields_prepare_of_isPlainFor (hplain : ctx.registry.IsPlainFor .parameter .bindable)
    {sql : String} {statement : SqlStatement} :
    (prepare sql).Yields ctx s statement t ↔
      ∃ ps bs, s.parameters.named? sql.toList = some ps ∧ (bindAll ps).Yields ctx s bs t ∧
        statement = ⟨String.ofList (s.parameters.fill sql.toList), bs.map (·.parameter)⟩ := by
  simp only [prepare, yields_bind, yields_bindPieces hplain, yields_pure]
  constructor
  · rintro ⟨_, _, ⟨ps, bs, hps, hbs, rfl⟩, rfl, rfl⟩
    exact ⟨ps, bs, hps, hbs, rfl⟩
  · rintro ⟨ps, bs, hps, hbs, rfl⟩
    exact ⟨_, _, ⟨ps, bs, hps, hbs, rfl⟩, rfl, rfl⟩

theorem yields_prepare (hplain : ctx.registry.IsPlain) {sql : String} {statement : SqlStatement} :
    (prepare sql).Yields ctx s statement t ↔
      ∃ ps bs, s.parameters.named? sql.toList = some ps ∧ (bindAll ps).Yields ctx s bs t ∧
        statement = ⟨String.ofList (s.parameters.fill sql.toList), bs.map (·.parameter)⟩ :=
  yields_prepare_of_isPlainFor (resolversFor_plain hplain _ _)

end SqlCompose
