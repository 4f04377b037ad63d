import SqlCompose.Proofs.Identifiers
import SqlCompose.Proofs.RawMarkers

/-!
# SqlCompose.Proofs.Adds -- computations that only add parameters

In a scope that stays as it is, `x.Adds ctx scope k P` says that a run of a computation
that succeeds adds `k` parameters and is as `P` says, and that there is such a run
where there are placeholders left for `k` parameters.
-/

namespace SqlCompose

open Compose

variable {α β : Type} {ctx : Context} {scope : Scope}

/-- A computation adds so many parameters in a scope and does what is said about it, and it succeeds
where there is room for them. -/
structure Compose.Adds (ctx : Context) (scope : Scope) (x : Compose α) (k : Nat)
    (P : Session → α → Session → Prop) : Prop where
  gives : ∀ {s : Session} {a : α} {t : Session}, s.scope = scope → x.Yields ctx s a t →
    t.scope = scope ∧ t.parameters.size = s.parameters.size + k ∧ P s a t
  succeeds : ∀ {s : Session}, s.scope = scope →
    s.parameters.size + k ≤ Placeholder.maxNumber → ∃ a t, x.Yields ctx s a t

namespace Compose.Adds

variable {x : Compose α} {f : α → Compose β} {k m : Nat} {P R : Session → α → Session → Prop}
  {Q : α → Session → β → Session → Prop}

theorem mono (hx : x.Adds ctx scope k P)
    (h : ∀ s a t, x.Yields ctx s a t → P s a t → R s a t) : x.Adds ctx scope k R where
  gives := by
    intro s a t hscope hrun
    obtain ⟨hscope', hsize, hP⟩ := hx.gives hscope hrun
    exact ⟨hscope', hsize, h s a t hrun hP⟩
  succeeds := hx.succeeds

theorem pure (a : α) : (Pure.pure a : Compose α).Adds ctx scope 0 fun s b t => b = a ∧ t = s where
  gives := by
    intro s b t hscope hrun
    obtain ⟨rfl, rfl⟩ := yields_pure.mp hrun
    exact ⟨hscope, rfl, rfl, rfl⟩
  succeeds := fun _ _ => ⟨a, _, yields_pure.mpr ⟨rfl, rfl⟩⟩

/-- The second computation may rely on what the first one gave. -/
theorem bind (hx : x.Adds ctx scope k P)
    (hf : ∀ a, (∃ s t, P s a t) → (f a).Adds ctx scope m (Q a)) :
    (x >>= f).Adds ctx scope (k + m) fun s b u => ∃ a t, P s a t ∧ Q a t b u where
  gives := by
    intro s b u hscope hrun
    obtain ⟨a, t, ha, hb⟩ := yields_bind.mp hrun
    obtain ⟨hscope', hsize, hP⟩ := hx.gives hscope ha
    obtain ⟨hscope'', hsize', hQ⟩ := (hf a ⟨s, t, hP⟩).gives hscope' hb
    exact ⟨hscope'', by omega, a, t, hP, hQ⟩
  succeeds := by
    intro s hscope hroom
    obtain ⟨a, t, ha⟩ := hx.succeeds hscope (by omega)
    obtain ⟨hscope', hsize, hP⟩ := hx.gives hscope ha
    obtain ⟨b, u, hb⟩ := (hf a ⟨s, t, hP⟩).succeeds hscope' (by omega)
    exact ⟨b, u, yields_bind.mpr ⟨a, t, ha, hb⟩⟩

section Results

variable {P : α → Prop} {Q : β → Prop}

/-- Both computations tell about their results only. -/
theorem step (hx : x.Adds ctx scope k fun _ a _ => P a)
    (hf : ∀ a, P a → (f a).Adds ctx scope m fun _ b _ => Q b) :
    (x >>= f).Adds ctx scope (k + m) fun _ b _ => Q b :=
  (bind hx fun a ⟨_, _, ha⟩ => hf a ha).mono fun _ _ _ _ ⟨_, _, _, hb⟩ => hb

theorem done {a : α} (h : P a) : (Pure.pure a : Compose α).Adds ctx scope 0 fun _ b _ => P b :=
  (pure a).mono fun _ _ _ _ hb => hb.1 ▸ h

/-- A computation that leaves the session as it is. -/
theorem reads (h : ∀ s : Session, s.scope = scope → ∃ a, P a ∧ x.Yields ctx s a s) :
    x.Adds ctx scope 0 fun _ a _ => P a where
  gives := by
    intro s a t hscope hrun
    obtain ⟨b, hb, hrun'⟩ := h s hscope
    obtain ⟨rfl, rfl⟩ := hrun.unique hrun'
    exact ⟨hscope, rfl, hb⟩
  succeeds := by
    intro s hscope _
    obtain ⟨a, _, hrun⟩ := h s hscope
    exact ⟨a, s, hrun⟩

theorem dialect : Compose.dialect.Adds ctx scope 0 fun _ d _ => d = ctx.dialect :=
  reads fun _ _ => ⟨_, rfl, yields_dialect.mpr ⟨rfl, rfl⟩⟩

theorem mapM {f : α → Compose β} {items : List α}
    (h : ∀ a ∈ items, (f a).Adds ctx scope 1 fun _ b _ => Q b) :
    (items.mapM f).Adds ctx scope items.length fun _ bs _ =>
      bs.length = items.length ∧ ∀ b ∈ bs, Q b := by
  induction items with
  | nil => exact done ⟨rfl, fun b hb => by cases hb⟩
  | cons a rest ih =>
    have hrest := ih fun a' ha => h a' (List.mem_cons_of_mem a ha)
    have hcount : 1 + (rest.length + 0) = (a :: rest).length := Nat.add_comm 1 rest.length
    rw [List.mapM_cons, ← hcount]
    refine step (h a List.mem_cons_self) fun b hb => step hrest fun bs ⟨hlength, hbs⟩ => ?_
    refine done ⟨?_, List.forall_mem_cons.mpr ⟨hb, hbs⟩⟩
    rw [List.length_cons, hlength, hcount, List.length_cons]

end Results

theorem addParameter (p : Parameter) :
    (Compose.addParameter p).Adds ctx scope 1 fun _ name _ => IsOperand name.toList where
  gives := by
    intro s name t hscope hrun
    obtain ⟨_, rfl, rfl⟩ := yields_addParameter.mp hrun
    exact ⟨hscope, Array.size_push p, isOperand_placeholder _⟩
  succeeds := by
    intro s _ hroom
    exact ⟨_, _, yields_addParameter.mpr ⟨by omega, rfl, rfl⟩⟩

theorem resolveText {e : Expression} (hown : ctx.registry.IsOwnFor e.kind .sql)
    (hvalid : e.validate = .ok ()) {standard : Compose String}
    {P : String → Prop} (h : standard.Adds ctx scope k fun _ text _ => P text)
    (hblank : ∀ text, P text → Text.allBlank text = false) :
    (resolveText e standard).Adds ctx scope k fun _ text _ => P text where
  gives := by
    intro s text t hscope hrun
    obtain ⟨_, _, hrun, _⟩ := (yields_resolveText_of_isPlainFor hown.plain).mp hrun
    exact h.gives hscope hrun
  succeeds := by
    intro s hscope hroom
    obtain ⟨text, t, hrun⟩ := h.succeeds hscope hroom
    have hcheck := checkSqlText_of_not_blank (hblank text (h.gives hscope hrun).2.2)
    exact ⟨text, t, (yields_resolveText_of_isPlainFor hown.plain).mpr
      ⟨hvalid, hown.answers, hrun, hcheck⟩⟩

end Compose.Adds

end SqlCompose
