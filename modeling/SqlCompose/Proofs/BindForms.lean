import Mathlib.Data.List.Forall2
import SqlCompose.Proofs.Bound
import SqlCompose.Proofs.Encoding

/-!
# SqlCompose.Proofs.BindForms -- what a dialect binds in the place of a parameter

Where an application has no say a parameter is bound as it is, unless one of the
rules of the dialect is for its value. Of the rules only the one for streams looks
at anything but the parameter: it reads the stream, which can be read only once. So
a parameter has one bind form, and what can be bound later could have been bound
before in the same form. Parameters that can be bound each by itself can be bound
one after another exactly if no two of them read the same stream.
-/

namespace SqlCompose

open Compose

/-! ## Streams that are read -/

namespace StreamStore

/-- What stands behind a handle stays there, or has been read. -/
def Spends (a b : StreamStore) : Prop :=
  ∀ handle, b.source handle = a.source handle ∨ b.source handle = .consumed

theorem Spends.refl (a : StreamStore) : a.Spends a := fun _ => .inl rfl

/-- What can be read later could have been read before. -/
theorem Spends.content {a b : StreamStore} (hab : a.Spends b) {handle : StreamHandle}
    {bytes : List UInt8} (h : b.source handle = .content bytes) :
    a.source handle = .content bytes := by
  rcases hab handle with heq | hconsumed
  · rw [← heq, h]
  · rw [h] at hconsumed
    cases hconsumed

theorem read_snd (a : StreamStore) (handle : StreamHandle) :
    (a.read handle).2 = ⟨a.sources.set handle.index .consumed⟩ := by
  unfold read
  split <;> rfl

/-- Reading one stream leaves the others as they are. -/
theorem source_read_of_ne (a : StreamStore) {handle other : StreamHandle} (h : handle ≠ other) :
    (a.read handle).2.source other = a.source other := by
  have hindex : handle.index ≠ other.index := by
    intro heq
    apply h
    cases handle
    cases other
    exact congrArg StreamHandle.mk heq
  rw [read_snd]
  simp only [source, List.getD_eq_getElem?_getD, List.getElem?_set_ne hindex]

theorem source_read_self (a : StreamStore) (handle : StreamHandle) :
    (a.read handle).2.source handle = .consumed := by
  rw [read_snd]
  simp only [source, List.getD_eq_getElem?_getD, List.getElem?_set_self']
  cases a.sources[handle.index]? <;> rfl

theorem spends_read (a : StreamStore) (handle : StreamHandle) : a.Spends (a.read handle).2 := by
  intro other
  by_cases h : handle = other
  · subst h
    exact .inr (a.source_read_self handle)
  · exact .inl (a.source_read_of_ne h)

/-- Only content can be read. -/
theorem read_fst_eq_ok {a : StreamStore} {handle : StreamHandle} {bytes : List UInt8} :
    (a.read handle).1 = .ok bytes ↔ a.source handle = .content bytes := by
  unfold read
  split <;> rename_i hsource <;> rw [hsource] <;> simp

end StreamStore

/-! ## The rules of a dialect -/

/-- A parameter by rules: the first one that is for the value makes a text of it. Where there is
none the parameter is bound as it is. -/
def Parameter.boundBy (p : Parameter) : List BindRule → Compose BoundParameter
  | [] => pure p.bound
  | rule :: rest => do
    match ← rule.text? p.value with
    | some text => pure (p.withValue (.string text) (some .string)).bound
    | none => p.boundBy rest

/-- The stream that binding a parameter by rules reads, if there is a rule that reads one. -/
def Parameter.streamRead? (rules : List BindRule) (p : Parameter) : Option StreamHandle :=
  match p.value with
  | .charStream handle => if .characterStream ∈ rules then some handle else none
  | _ => none

/-- A registry asks for these rules before the library itself binds a parameter. -/
def Registry.BindsBy (g : Registry) (rules : List BindRule) : Prop :=
  ∃ asked own rest, g.resolversFor .parameter .bindable = asked ++ own :: rest ∧
    asked.map (·.action) = rules.map .bind ∧ own.action = .standard

/-- Parameters are bound by the rules of the dialect, in their order. -/
theorem Dialect.registry_bindsBy (d : Dialect) : d.registry.BindsBy d.vendor.bindRules := by
  let own : Resolver := { name := "parameter-bindable", kind := .parameter, form := .bindable }
  have hresolvers : d.registry.resolversFor .parameter .bindable =
      d.vendor.bindRules.map Registry.bindResolver ++ [own] := by
    obtain ⟨kind, known⟩ := d
    cases kind <;> rfl
  refine ⟨_, own, [], hresolvers, ?_, rfl⟩
  rw [List.map_map]
  rfl

/-- Where no application has a say and the library answers, there are such rules. -/
theorem Registry.exists_bindsBy {g : Registry} (h : g.IsOwnFor .parameter .bindable) :
    ∃ rules, g.BindsBy rules := by
  obtain ⟨hplain, hanswers⟩ := h
  unfold IsPlainFor at hplain
  unfold Answers own at hanswers
  unfold BindsBy
  generalize g.resolversFor .parameter .bindable = rs at hplain hanswers ⊢
  induction rs with
  | nil => cases hanswers
  | cons r rest ih =>
    have hr := hplain r List.mem_cons_self
    cases haction : r.action with
    | standard => exact ⟨[], [], r, rest, rfl, rfl, haction⟩
    | custom action => simp [Resolver.isCustom, haction] at hr
    | bind rule =>
      have hstandard : r.isStandard = false := by rw [Resolver.isStandard, haction]
      rw [List.find?_cons_of_neg (by simp [hstandard])] at hanswers
      obtain ⟨rules, asked, own, others, hrest, hactions, hown⟩ :=
        ih (fun r' h => hplain r' (List.mem_cons_of_mem r h)) hanswers
      refine ⟨rule :: rules, r :: asked, own, others, by rw [hrest]; rfl, ?_, hown⟩
      rw [List.map_cons, List.map_cons, haction, hactions]

/-- The first answer about a parameter is what the rules make of it. -/
theorem firstAnswer_bindable {q : Request} {p : Parameter} {own : Resolver}
    {k : Option (Resolver × Resolved) → Compose BoundParameter} (hown : own.action = .standard)
    (hstandard : q.standard = pure (some (.bindable p.bound))) (hbind : q.bind = p.bindBy)
    (hk : ∀ r b, k (some (r, .bindable b)) = pure b) (rest : List Resolver)
    {asked : List Resolver} {rules : List BindRule}
    (hasked : asked.map (·.action) = rules.map .bind) :
    (firstAnswer q (asked ++ own :: rest) >>= k) = p.boundBy rules := by
  induction asked generalizing rules with
  | nil =>
    obtain rfl := List.map_eq_nil_iff.mp hasked.symm
    show (own.ask q >>= _) >>= k = _
    simp only [Resolver.ask, hown, hstandard, pure_bind, hk, Parameter.boundBy]
  | cons r asked ih =>
    obtain ⟨rule, others, rfl, hr, hothers⟩ := List.map_eq_cons_iff.mp hasked.symm
    show ((r.ask q >>= _) >>= k) = _
    simp only [Resolver.ask, ← hr, hbind, Parameter.bindBy, Parameter.boundBy, bind_assoc,
      pure_bind]
    congr 1
    funext text
    cases text with
    | some text => simp only [Option.map_some, pure_bind, hk]
    | none => exact ih hothers.symm

theorem Parameter.value_of_streamRead? {p : Parameter} {rules : List BindRule}
    {handle : StreamHandle} (h : p.streamRead? rules = some handle) :
    p.value = .charStream handle := by
  unfold streamRead? at h
  split at h
  · split at h
    · rwa [← Option.some.inj h]
    · cases h
  · cases h

/-- A value that has a text of its own is no stream. -/
theorem Parameter.streamRead?_of_isoText? {p : Parameter} {text : String}
    (h : p.value.isoText? = some text) (rules : List BindRule) : p.streamRead? rules = none := by
  cases hread : p.streamRead? rules with
  | none => rfl
  | some handle =>
    rw [value_of_streamRead? hread] at h
    cases h

/-- By rules a parameter is bound without a look at anything else, or as the text of its stream. -/
theorem Parameter.boundBy_cases (p : Parameter) (rules : List BindRule) :
    (p.streamRead? rules = none ∧ ∃ b, p.boundBy rules = pure b) ∨
      ∃ handle, p.streamRead? rules = some handle ∧
        p.boundBy rules = ofStreaming (Streaming.readText handle) >>= fun text =>
          pure (p.withValue (.string text) (some .string)).bound := by
  induction rules with
  | nil => exact .inl ⟨by unfold streamRead?; split <;> rfl, p.bound, rfl⟩
  | cons rule rest ih =>
    unfold Parameter.boundBy
    cases rule with
    | temporalText =>
      have hsame : p.streamRead? (.temporalText :: rest) = p.streamRead? rest := by
        simp [streamRead?]
      simp only [BindRule.text?, pure_bind]
      cases htext : p.value.isoText? with
      | some text => exact .inl ⟨streamRead?_of_isoText? htext _, _, rfl⟩
      | none =>
        rw [hsame]
        exact ih
    | characterStream =>
      cases hv : p.value with
      | charStream handle =>
        right
        refine ⟨handle, by simp [streamRead?, hv], ?_⟩
        simp only [BindRule.text?, bind_assoc, pure_bind]
      -- the rule is for no other value
      | _ =>
        have hnone : ∀ rules, p.streamRead? rules = none := fun _ => by rw [streamRead?, hv]
        simp only [BindRule.text?, pure_bind, hnone] at ih ⊢
        exact ih

section

variable {ctx : Context} {rules : List BindRule} {s t u : Session} {p : Parameter}

/-- A valid parameter is bound by the rules. -/
theorem outcome_resolveBound (hrules : ctx.registry.BindsBy rules) (p : Parameter) (s : Session) :
    (resolveBound (.parameter p)).outcome ctx s =
      (ofResult p.validate >>= fun _ => p.boundBy rules).outcome ctx s := by
  obtain ⟨asked, own, rest, hresolvers, hasked, hown⟩ := hrules
  show p.resolveBound.outcome ctx s = _
  unfold Parameter.resolveBound Request.resolve
  have hexpr : (Expression.parameter p).validate = p.validate := rfl
  simp only [hexpr]
  cases hvalid : p.validate with
  | error e => rfl
  | ok _ =>
    simp only [bind_assoc]
    show (firstAnswer _ (ctx.registry.resolversFor .parameter .bindable) >>= _).outcome ctx s = _
    rw [hresolvers, firstAnswer_bindable hown rfl rfl _ rest hasked]
    · rfl
    · intro r b
      rfl

/-- A parameter comes to the same in every session, or to what is read from its stream. -/
theorem outcome_resolveBound_cases (hrules : ctx.registry.BindsBy rules)
    (p : Parameter) :
    (∃ r, (∀ b, r = .ok b → p.streamRead? rules = none) ∧
      ∀ s, (resolveBound (.parameter p)).outcome ctx s = (r, s)) ∨
    ∃ handle, p.streamRead? rules = some handle ∧
      ∃ form : List UInt8 → Except SqlError BoundParameter,
        ∀ s, (resolveBound (.parameter p)).outcome ctx s =
          ((s.streams.read handle).1.bind form,
            { s with streams := (s.streams.read handle).2 }) := by
  simp only [outcome_resolveBound hrules]
  cases p.validate with
  | error e => exact .inl ⟨.error e, (fun _ h => nomatch h), fun _ => rfl⟩
  | ok _ =>
    -- a parameter is bound by what it says itself, or by the text of the stream in it
    rcases p.boundBy_cases rules with ⟨hnone, b, hb⟩ | ⟨handle, hread, hb⟩
    · rw [hb]
      exact .inl ⟨.ok b, fun _ _ => hnone, fun _ => rfl⟩
    · rw [hb]
      right
      refine ⟨handle, hread, fun bytes => (Streaming.textOf bytes).map fun text =>
        (p.withValue (.string text) (some .string)).bound, ?_⟩
      intro s
      have hread : (ofStreaming (Streaming.readText handle)).outcome ctx s =
          ((s.streams.read handle).1.bind Streaming.textOf,
            { s with streams := (s.streams.read handle).2 }) := by
        show ((Streaming.readText handle s.streams : Except SqlError String × StreamStore).1,
          { s with streams :=
            (Streaming.readText handle s.streams : Except SqlError String × StreamStore).2 }) = _
        rw [Streaming.readText_eq]
      show (ofStreaming (Streaming.readText handle) >>= _).outcome ctx s = _
      rw [outcome_bind, hread]
      cases (s.streams.read handle).1 with
      | error e => rfl
      | ok bytes =>
        simp only [Except.bind]
        cases Streaming.textOf bytes <;> rfl

/-! ## One bind form -/

/-- Binding a parameter changes nothing but the stream that it reads. -/
theorem session_resolveBound (hrules : ctx.registry.BindsBy rules) (p : Parameter)
    (s : Session) : ∃ r streams, (resolveBound (.parameter p)).outcome ctx s =
      (r, { s with streams := streams }) ∧ s.streams.Spends streams := by
  rcases outcome_resolveBound_cases hrules p with ⟨r, _, h⟩ | ⟨handle, _, form, h⟩
  · exact ⟨r, s.streams, h s, .refl _⟩
  · exact ⟨_, _, h s, s.streams.spends_read handle⟩

/-- What can be bound later could have been bound before in the same form. -/
theorem resolveBound_earlier (hrules : ctx.registry.BindsBy rules)
    (hspends : s.streams.Spends t.streams) {b : BoundParameter}
    (h : (resolveBound (.parameter p)).Yields ctx t b u) :
    ∃ v, (resolveBound (.parameter p)).Yields ctx s b v := by
  unfold Yields at *
  rcases outcome_resolveBound_cases hrules p with ⟨r, _, hr⟩ | ⟨handle, _, form, hr⟩
  · rw [hr] at h
    obtain ⟨rfl, -⟩ := Prod.mk.injEq .. ▸ h
    exact ⟨s, hr s⟩
  · rw [hr] at h
    simp only [hr]
    obtain ⟨hresult, -⟩ := Prod.mk.injEq .. ▸ h
    cases hread : (t.streams.read handle).1 with
    | error e =>
      rw [hread] at hresult
      cases hresult
    | ok bytes =>
      have hbefore := hspends.content (StreamStore.read_fst_eq_ok.mp hread)
      rw [hread] at hresult
      rw [StreamStore.read_fst_eq_ok.mpr hbefore]
      exact ⟨_, Prod.ext hresult rfl⟩

/-- A stream that is read to bind a parameter is there before, and not afterwards. -/
theorem source_of_resolveBound (hrules : ctx.registry.BindsBy rules) {b : BoundParameter}
    (h : (resolveBound (.parameter p)).Yields ctx s b t) {handle : StreamHandle}
    (hread : p.streamRead? rules = some handle) :
    s.streams.source handle ≠ .consumed ∧ t.streams.source handle = .consumed := by
  unfold Yields at h
  rcases outcome_resolveBound_cases hrules p with ⟨r, hnone, hr⟩ | ⟨other, hother, form, hr⟩
  · rw [hr] at h
    obtain ⟨hr, -⟩ := Prod.mk.injEq .. ▸ h
    rw [hnone b hr] at hread
    cases hread
  · obtain rfl : other = handle := Option.some.inj (hother.symm.trans hread)
    rw [hr] at h
    obtain ⟨hresult, rfl⟩ := Prod.mk.injEq .. ▸ h
    refine ⟨?_, s.streams.source_read_self other⟩
    intro hconsumed
    have hfailed : (s.streams.read other).1 = .error (.conversion .streamConsumed) := by
      rw [StreamStore.read, hconsumed]
    rw [hfailed] at hresult
    cases hresult

/-! ## Several parameters -/

/-- A parameter can be bound in a session, in a form. -/
def Compose.BindsAs (ctx : Context) (s : Session) (p : Parameter) (b : BoundParameter) : Prop :=
  ∃ t, (resolveBound (.parameter p)).Yields ctx s b t

theorem Compose.BindsAs.unique {b b' : BoundParameter} (h : BindsAs ctx s p b)
    (h' : BindsAs ctx s p b') : b = b' := by
  obtain ⟨_, h⟩ := h
  obtain ⟨_, h'⟩ := h'
  exact (h.unique h').1

/-- Parameters that are bound one after another get the forms that each of them has at first. -/
theorem bindsAs_of_bindAll (hrules : ctx.registry.BindsBy rules) {ps : List Parameter}
    {bs : List BoundParameter} (h : (bindAll ps).Yields ctx s bs t) :
    List.Forall₂ (BindsAs ctx s) ps bs := by
  induction ps generalizing s bs with
  | nil =>
    obtain ⟨rfl, _⟩ := yields_pure.mp h
    exact .nil
  | cons p rest ih =>
    simp only [bindAll_cons, yields_bind, yields_pure] at h
    obtain ⟨b, u, hb, bs', _, hrest, rfl, rfl⟩ := h
    obtain ⟨r, streams, hrun, hspends⟩ := session_resolveBound hrules p s
    obtain ⟨-, rfl⟩ := Prod.mk.injEq .. ▸ hrun.symm.trans hb
    refine .cons ⟨_, hb⟩ ((ih hrest).imp ?_)
    rintro q b' ⟨v, hq⟩
    exact resolveBound_earlier hrules hspends hq

/-- What can be bound can also be bound later as long as its stream has not been read. -/
theorem resolveBound_later (hrules : ctx.registry.BindsBy rules) {b : BoundParameter}
    (h : BindsAs ctx s p b)
    (hsource : ∀ handle, p.streamRead? rules = some handle →
      t.streams.source handle = s.streams.source handle) :
    ∃ u, (resolveBound (.parameter p)).Yields ctx t b u ∧
      ∀ other, p.streamRead? rules ≠ some other →
        u.streams.source other = t.streams.source other := by
  obtain ⟨v, h⟩ := h
  unfold Yields at *
  -- all that a binding reads in a session is the source of its own stream
  rcases outcome_resolveBound_cases hrules p with ⟨r, _, hr⟩ | ⟨handle, hstream, form, hr⟩
  · rw [hr] at h
    obtain ⟨rfl, -⟩ := Prod.mk.injEq .. ▸ h
    exact ⟨t, hr t, fun _ _ => rfl⟩
  · rw [hr] at h
    obtain ⟨hresult, -⟩ := Prod.mk.injEq .. ▸ h
    cases hread : (s.streams.read handle).1 with
    | error e =>
      rw [hread] at hresult
      cases hresult
    | ok bytes =>
      have hlater := StreamStore.read_fst_eq_ok.mp hread
      rw [← hsource handle hstream] at hlater
      rw [hread] at hresult
      rw [hr, StreamStore.read_fst_eq_ok.mpr hlater]
      refine ⟨_, Prod.ext hresult rfl, ?_⟩
      intro other hother
      refine t.streams.source_read_of_ne ?_
      rintro rfl
      exact hother hstream

/-- Of parameters that are bound one after another no two read the same stream, and none reads
one that had been read before. -/
theorem streams_of_bindAll (hrules : ctx.registry.BindsBy rules) {ps : List Parameter}
    {bs : List BoundParameter} (h : (bindAll ps).Yields ctx s bs t) :
    (ps.filterMap (Parameter.streamRead? rules)).Nodup ∧
      ∀ handle ∈ ps.filterMap (Parameter.streamRead? rules),
        s.streams.source handle ≠ .consumed := by
  induction ps generalizing s bs with
  | nil => exact ⟨.nil, fun _ h => by cases h⟩
  | cons p rest ih =>
    simp only [bindAll_cons, yields_bind, yields_pure] at h
    obtain ⟨b, u, hb, bs', _, hrest, rfl, rfl⟩ := h
    obtain ⟨hnodup, hlater⟩ := ih hrest
    obtain ⟨r, streams, hrun, hspends⟩ := session_resolveBound hrules p s
    obtain ⟨-, rfl⟩ := Prod.mk.injEq .. ▸ hrun.symm.trans hb
    have hothers : ∀ handle ∈ rest.filterMap (Parameter.streamRead? rules),
        s.streams.source handle ≠ .consumed := by
      intro handle hmem
      rcases hspends handle with heq | hconsumed
      · rw [← heq]
        exact hlater handle hmem
      · exact absurd hconsumed (hlater handle hmem)
    cases hread : p.streamRead? rules with
    | none =>
      rw [List.filterMap_cons_none hread]
      exact ⟨hnodup, hothers⟩
    | some handle =>
      obtain ⟨hbefore, hafter⟩ := source_of_resolveBound hrules hb hread
      rw [List.filterMap_cons_some hread, List.nodup_cons, List.forall_mem_cons]
      exact ⟨⟨fun hmem => hlater handle hmem hafter, hnodup⟩, hbefore, hothers⟩

/-- Parameters that can be bound each by itself can be bound one after another, if no two of them
read the same stream. -/
theorem bindAll_of_bindsAs (hrules : ctx.registry.BindsBy rules) {ps : List Parameter}
    {bs : List BoundParameter} (h : List.Forall₂ (BindsAs ctx s) ps bs)
    (hstreams : (ps.filterMap (Parameter.streamRead? rules)).Nodup)
    (hsource : ∀ p ∈ ps, ∀ handle, p.streamRead? rules = some handle →
      t.streams.source handle = s.streams.source handle) :
    ∃ u, (bindAll ps).Yields ctx t bs u := by
  induction h generalizing t with
  | nil => exact ⟨t, yields_pure.mpr ⟨rfl, rfl⟩⟩
  | @cons p b rest bs hb _ ih =>
    obtain ⟨u, hu, hothers⟩ := resolveBound_later hrules hb (hsource p List.mem_cons_self)
    -- the first parameter leaves the streams of the others alone
    have hrest : ∀ q ∈ rest, ∀ handle, q.streamRead? rules = some handle →
        u.streams.source handle = s.streams.source handle := by
      intro q hq handle hstream
      rw [hothers handle, hsource q (List.mem_cons_of_mem p hq) handle hstream]
      intro hp
      rw [List.filterMap_cons_some hp, List.nodup_cons] at hstreams
      exact hstreams.1 (List.mem_filterMap.mpr ⟨q, hq, hstream⟩)
    have hnodup : (rest.filterMap (Parameter.streamRead? rules)).Nodup :=
      hstreams.sublist ((List.sublist_cons_self p rest).filterMap _)
    obtain ⟨v, hv⟩ := ih hnodup hrest
    refine ⟨v, ?_⟩
    simp only [bindAll_cons, yields_bind, yields_pure]
    exact ⟨b, u, hu, bs, v, hv, rfl, rfl⟩

end

end SqlCompose
