import SqlCompose.Proofs.Registry
import SqlCompose.Proofs.Shows

/-!
# SqlCompose.Proofs.Emits -- what a computation adds to a statement

A computation that puts a statement together adds parameters at the end of those
it finds, reads no stream, and upholds what holds of the scopes, such as that the
names in them are plain. What its result means is said of the parameters as they
are in the end, because later computations add more of them but change none.
-/

namespace SqlCompose

open Compose

/-! ## Growing parameters -/

namespace Accumulator

/-- The parameters are the first ones of others. -/
def Extends (a b : Accumulator) : Prop := a.entries.toList <+: b.entries.toList

theorem Extends.refl (a : Accumulator) : a.Extends a := List.prefix_refl _

theorem Extends.trans {a b c : Accumulator} (hab : a.Extends b) (hbc : b.Extends c) :
    a.Extends c := List.IsPrefix.trans hab hbc

theorem extends_push (a : Accumulator) (p : Parameter) : a.Extends ⟨a.entries.push p⟩ := by
  simp [Extends]

theorem Extends.numbered? {a b : Accumulator} (h : a.Extends b) {number : Nat} {p : Parameter}
    (hp : a.numbered? number = some p) : b.numbered? number = some p := by
  cases number with
  | zero => simp [Accumulator.numbered?] at hp
  | succ n =>
    obtain ⟨more, hmore⟩ := h
    simp only [Accumulator.numbered?, ← Array.getElem?_toList] at hp ⊢
    rw [← hmore]
    rw [List.getElem?_append_left]
    · exact hp
    · exact (List.getElem?_eq_some_iff.mp hp).1

theorem numbered?_push (a : Accumulator) (p : Parameter) :
    (⟨a.entries.push p⟩ : Accumulator).numbered? (a.size + 1) = some p := by
  simp [Accumulator.numbered?, size]

/-- A text is the placeholder of a parameter. -/
def Writes (a : Accumulator) (v : List Char) (p : Parameter) : Prop :=
  ∃ number ≤ Placeholder.maxNumber, a.numbered? number = some p ∧
    v = (Placeholder.name number).toList

end Accumulator

/-! ## Emitting -/

variable {α β : Type} {base : Context} {plain : Char → Prop}

/-- The same context with other scopes around the current one. -/
abbrev Context.within (base : Context) (chain : List Scope) : Context :=
  { base with enclosing := chain }

/-- A successful run in a context with the same dialect, alias mode, model and
registry upholds what holds of all scopes, leaves the streams alone and only adds
parameters. `P` tells about the result once all parameters are known. -/
def Compose.Upholds (base : Context) (inv : Scope → Prop) (x : Compose α)
    (P : Accumulator → α → Prop) : Prop :=
  ∀ ⦃chain : List Scope⦄ ⦃s : Session⦄ ⦃a : α⦄ ⦃t : Session⦄,
    inv s.scope → (∀ o ∈ chain, inv o) →
      x.Yields (base.within chain) s a t →
        inv t.scope ∧ t.streams = s.streams ∧ s.parameters.Extends t.parameters ∧
          ∀ acc, t.parameters.Extends acc → P acc a

namespace Compose.Upholds

variable {inv : Scope → Prop}

theorem pure {P : Accumulator → α → Prop} {a : α} (h : ∀ acc, P acc a) :
    (Pure.pure a : Compose α).Upholds base inv P := by
  intro chain s b t hscope _ hrun
  obtain ⟨rfl, rfl⟩ := yields_pure.mp hrun
  exact ⟨hscope, rfl, .refl _, fun acc _ => h acc⟩

theorem mono {P Q : Accumulator → α → Prop} {x : Compose α} (hx : x.Upholds base inv P)
    (h : ∀ acc a, P acc a → Q acc a) : x.Upholds base inv Q := by
  intro chain s a t hscope hchain hrun
  obtain ⟨hscope, hstreams, hgrow, hP⟩ := hx hscope hchain hrun
  exact ⟨hscope, hstreams, hgrow, fun acc hacc => h acc a (hP acc hacc)⟩

/-- The second computation may rely on what the first one gave. -/
theorem bind {P : Accumulator → α → Prop} {Q : Accumulator → β → Prop} {x : Compose α}
    {f : α → Compose β} (hx : x.Upholds base inv P)
    (hf : ∀ a, (∃ acc, P acc a) → (f a).Upholds base inv fun acc b => P acc a → Q acc b) :
    (x >>= f).Upholds base inv Q := by
  intro chain s b u hscope hchain hrun
  obtain ⟨a, t, ha, hb⟩ := yields_bind.mp hrun
  obtain ⟨hscope, hstreams, hgrow, hP⟩ := hx hscope hchain ha
  obtain ⟨hscope, hstreams', hgrow', hQ⟩ := hf a ⟨_, hP _ (.refl _)⟩ hscope hchain hb
  refine ⟨hscope, hstreams'.trans hstreams, hgrow.trans hgrow', fun acc hacc => ?_⟩
  exact hQ acc hacc (hP acc (hgrow'.trans hacc))

theorem ofResult {P : Accumulator → α → Prop} {x : Except SqlError α}
    (h : ∀ a, x = .ok a → ∀ acc, P acc a) : (Compose.ofResult x).Upholds base inv P := by
  intro chain s a t hscope _ hrun
  obtain ⟨hx, rfl⟩ := yields_ofResult.mp hrun
  exact ⟨hscope, rfl, .refl _, fun acc _ => h a hx acc⟩

theorem throw {P : Accumulator → α → Prop} (e : SqlError) :
    (MonadExcept.throw e : Compose α).Upholds base inv P := by
  intro chain s a t _ _ hrun
  exact absurd hrun yields_throw

theorem refuse {P : Accumulator → α → Prop} (defect : Defect) :
    (Compose.refuse defect : Compose α).Upholds base inv P := by
  intro chain s a t _ _ hrun
  exact absurd hrun yields_refuse

theorem dialect : Compose.dialect.Upholds base inv fun _ d => d = base.dialect := by
  intro chain s d t hscope _ hrun
  obtain ⟨rfl, rfl⟩ := yields_dialect.mp hrun
  exact ⟨hscope, rfl, .refl _, fun _ _ => rfl⟩

theorem aliasMode : Compose.aliasMode.Upholds base inv fun _ m => m = base.aliasMode := by
  intro chain s m t hscope _ hrun
  obtain ⟨rfl, rfl⟩ := yields_aliasMode.mp hrun
  exact ⟨hscope, rfl, .refl _, fun _ _ => rfl⟩

theorem sequence : Compose.sequence.Upholds base inv fun _ _ => True := by
  intro chain s n t hscope _ hrun
  obtain ⟨_, rfl⟩ := yields_sequence.mp hrun
  exact ⟨hscope, rfl, .refl _, fun _ _ => trivial⟩

theorem write {P : Accumulator → String → Prop} {tokens : List Token}
    (h : ∀ acc, P acc (sqlText base.dialect tokens)) :
    (Compose.write tokens).Upholds base inv P := by
  intro chain s a t hscope _ hrun
  obtain ⟨rfl, rfl⟩ := yields_write.mp hrun
  exact ⟨hscope, rfl, .refl _, fun acc _ => h acc⟩

/-- What is found in scopes is what such scopes have. -/
theorem lookup {P : α → Prop} {find : List Scope → α}
    (h : ∀ chain, (∀ o ∈ chain, inv o) → P (find chain)) :
    (Compose.lookup find).Upholds base inv fun _ a => P a := by
  intro chain s a t hscope hchain hrun
  obtain ⟨rfl, rfl⟩ := yields_lookup.mp hrun
  refine ⟨hscope, rfl, .refl _, fun _ _ => h _ ?_⟩
  intro o ho
  rcases List.mem_cons.mp ho with rfl | ho
  · exact hscope
  · exact hchain o ho

theorem updateScope {change : AliasMode → Scope → Scope}
    (h : ∀ s, inv s → inv (change base.aliasMode s)) :
    (Compose.updateScope change).Upholds base inv fun _ _ => True := by
  intro chain s a t hscope _ hrun
  obtain rfl := yields_updateScope.mp hrun
  exact ⟨h _ hscope, rfl, .refl _, fun _ _ => trivial⟩

/-- The placeholder of an added parameter names it from then on. -/
theorem addParameter (p : Parameter) :
    (Compose.addParameter p).Upholds base inv fun acc name => acc.Writes name.toList p := by
  intro chain s name t hscope _ hrun
  obtain ⟨hroom, rfl, rfl⟩ := yields_addParameter.mp hrun
  refine ⟨hscope, rfl, Accumulator.extends_push _ p, fun acc hacc => ?_⟩
  exact ⟨_, hroom, hacc.numbered? (Accumulator.numbered?_push _ p), rfl⟩

/-- A statement scope of its own starts with its target. -/
theorem inStatement {target : RelationalTarget}
    (hseed : ∀ chain, inv ((Scope.inside chain .statement).seed base.aliasMode target))
    {P : Accumulator → α → Prop} {body : Compose α} (hbody : body.Upholds base inv P) :
    (Compose.inStatement target body).Upholds base inv P := by
  intro chain s a t hscope hchain hrun
  obtain ⟨u, hinside, rfl⟩ := yields_inStatement.mp hrun
  have hchain : ∀ o ∈ s.scope :: chain, inv o := by
    intro o ho
    rcases List.mem_cons.mp ho with rfl | ho
    · exact hscope
    · exact hchain o ho
  obtain ⟨_, hstreams, hgrow, hP⟩ := @hbody (s.scope :: chain) { s with scope := _ } _ _
    (hseed _) hchain hinside
  exact ⟨hscope, hstreams, hgrow, hP⟩

theorem mapM {f : α → Compose β} {P : α → Accumulator → β → Prop} {items : List α}
    (h : ∀ a ∈ items, (f a).Upholds base inv (P a)) :
    (items.mapM f).Upholds base inv fun acc bs =>
      List.Forall₂ (fun a b => P a acc b) items bs := by
  induction items with
  | nil => exact pure fun _ => .nil
  | cons a rest ih =>
    rw [List.mapM_cons]
    refine bind (h a List.mem_cons_self) fun b _ => ?_
    refine bind (ih fun a' ha => h a' (List.mem_cons_of_mem a ha)) fun bs _ => ?_
    exact pure fun _ hbs hb => .cons hb hbs

/-- What the library writes is emitted as it is. -/
theorem resolveText (hregistry : base.registry.IsPlain) {e : Expression}
    {standard : Compose String} {P : Accumulator → String → Prop}
    (h : e.validate = .ok () → standard.Upholds base inv P) :
    (SqlCompose.resolveText e standard).Upholds base inv P := by
  intro chain s a t hscope hchain hrun
  have hregistry : (base.within chain).registry.IsPlain := hregistry
  obtain ⟨hvalid, _, hrun, _⟩ := (yields_resolveText hregistry).mp hrun
  exact h hvalid hscope hchain hrun

theorem resolveParameter (hregistry : base.registry.IsPlain) (l : Literal) :
    l.resolveParameter.Upholds base inv fun _ p => p = l.parameter base.dialect := by
  intro chain s p t hscope _ hrun
  have hregistry : (base.within chain).registry.IsPlain := hregistry
  obtain ⟨_, rfl, rfl⟩ := (yields_resolveParameter hregistry).mp hrun
  exact ⟨hscope, rfl, .refl _, fun _ _ => rfl⟩

theorem source (hregistry : base.registry.IsPlain) {e : Expression}
    {standard : Option DataModel → Source} :
    (Source.resolve e (some standard)).Upholds base inv fun _ s =>
      s = standard base.model := by
  intro chain s source t hscope _ hrun
  have hregistry : (base.within chain).registry.IsPlain := hregistry
  obtain ⟨_, rfl, rfl⟩ := (yields_source hregistry).mp hrun
  exact ⟨hscope, rfl, .refl _, fun _ _ => rfl⟩

theorem no_source (hregistry : base.registry.IsPlain) {e : Expression}
    {P : Accumulator → Source → Prop} :
    (Source.resolve e none).Upholds base inv P := by
  intro chain s source t _ _ hrun
  have hregistry : (base.within chain).registry.IsPlain := hregistry
  exact absurd hrun (not_yields_source hregistry)

/-- The column of a property, as the model maps it. -/
theorem column (b : Option Binding) (property : String) :
    (Compose.column b property).Upholds base inv fun _ column =>
      column = mappedColumn base.model b property := by
  intro chain s column t hscope _ hrun
  obtain ⟨rfl, rfl⟩ := yields_column.mp hrun
  exact ⟨hscope, rfl, .refl _, fun _ _ => rfl⟩

end Compose.Upholds

/-- A successful run in a context with the same dialect, alias mode, model and
registry keeps the scopes plain, leaves the streams alone and only adds
parameters. `P` tells about the result once all parameters are known. -/
def Compose.Emits (base : Context) (plain : Char → Prop) (x : Compose α)
    (P : Accumulator → α → Prop) : Prop :=
  ∀ ⦃chain : List Scope⦄ ⦃s : Session⦄ ⦃a : α⦄ ⦃t : Session⦄,
    s.scope.IsPlain plain → (∀ o ∈ chain, o.IsPlain plain) →
      x.Yields (base.within chain) s a t →
        t.scope.IsPlain plain ∧ t.streams = s.streams ∧ s.parameters.Extends t.parameters ∧
          ∀ acc, t.parameters.Extends acc → P acc a

/-- The column of a property is one that the model maps to, or the property itself. -/
theorem mappedColumn_eq_or_mem (model : Option DataModel) (b : Option Binding) (property : String) :
    mappedColumn model b property = property ∨
      mappedColumn model b property ∈ modelNames model := by
  rcases model with _ | m
  · exact .inl rfl
  rcases b with _ | ⟨schema, table, aliasName, _ | entity⟩
  · exact .inl rfl
  · exact .inl rfl
  show (m.column? entity property).getD property = property ∨
    (m.column? entity property).getD property ∈ modelNames (some m)
  cases h : m.column? entity property with
  | none => exact .inl rfl
  | some column => exact .inr ⟨m, rfl, .inr ⟨entity, property, h⟩⟩

theorem plain_mappedColumn {model : Option DataModel} (hmodel : ∀ s ∈ modelNames model, Plain plain s)
    (b : Option Binding) {property : String} (hproperty : Plain plain property) :
    Plain plain (mappedColumn model b property) := by
  rcases mappedColumn_eq_or_mem model b property with heq | hmem
  · rwa [heq]
  · exact hmodel _ hmem

/-! ## Plain names

What is emitted in plain scopes is upheld with plain scopes.
-/

namespace Compose.Emits

theorem pure {P : Accumulator → α → Prop} {a : α} (h : ∀ acc, P acc a) :
    (Pure.pure a : Compose α).Emits base plain P := Upholds.pure h

theorem mono {P Q : Accumulator → α → Prop} {x : Compose α} (hx : x.Emits base plain P)
    (h : ∀ acc a, P acc a → Q acc a) : x.Emits base plain Q := Upholds.mono hx h

/-- The second computation may rely on what the first one gave. -/
theorem bind {P : Accumulator → α → Prop} {Q : Accumulator → β → Prop} {x : Compose α}
    {f : α → Compose β} (hx : x.Emits base plain P)
    (hf : ∀ a, (∃ acc, P acc a) → (f a).Emits base plain fun acc b => P acc a → Q acc b) :
    (x >>= f).Emits base plain Q := Upholds.bind hx hf

theorem ofResult {P : Accumulator → α → Prop} {x : Except SqlError α}
    (h : ∀ a, x = .ok a → ∀ acc, P acc a) : (Compose.ofResult x).Emits base plain P :=
  Upholds.ofResult h

theorem throw {P : Accumulator → α → Prop} (e : SqlError) :
    (MonadExcept.throw e : Compose α).Emits base plain P := Upholds.throw e

theorem refuse {P : Accumulator → α → Prop} (defect : Defect) :
    (Compose.refuse defect : Compose α).Emits base plain P := Upholds.refuse defect

theorem dialect : Compose.dialect.Emits base plain fun _ d => d = base.dialect := Upholds.dialect

theorem aliasMode : Compose.aliasMode.Emits base plain fun _ m => m = base.aliasMode :=
  Upholds.aliasMode

theorem sequence : Compose.sequence.Emits base plain fun _ _ => True := Upholds.sequence

theorem write {P : Accumulator → String → Prop} {tokens : List Token}
    (h : ∀ acc, P acc (sqlText base.dialect tokens)) :
    (Compose.write tokens).Emits base plain P := Upholds.write h

/-- What is found in plain scopes is what plain scopes have. -/
theorem lookup {P : α → Prop} {find : List Scope → α}
    (h : ∀ chain, (∀ o ∈ chain, o.IsPlain plain) → P (find chain)) :
    (Compose.lookup find).Emits base plain fun _ a => P a := Upholds.lookup h

theorem updateScope {change : AliasMode → Scope → Scope}
    (h : ∀ s, s.IsPlain plain → (change base.aliasMode s).IsPlain plain) :
    (Compose.updateScope change).Emits base plain fun _ _ => True := Upholds.updateScope h

/-- The placeholder of an added parameter names it from then on. -/
theorem addParameter (p : Parameter) :
    (Compose.addParameter p).Emits base plain fun acc name => acc.Writes name.toList p :=
  Upholds.addParameter p

/-- A statement scope of its own is plain if what it writes of its target is. -/
theorem inStatement (hplain : Writable plain) {target : RelationalTarget}
    (htarget : target.IsPlain plain) {P : Accumulator → α → Prop} {body : Compose α}
    (hbody : body.Emits base plain P) : (Compose.inStatement target body).Emits base plain P :=
  Upholds.inStatement
    (fun chain => (Scope.isPlain_inside chain .statement).seed hplain htarget) hbody

theorem mapM {f : α → Compose β} {P : α → Accumulator → β → Prop} {items : List α}
    (h : ∀ a ∈ items, (f a).Emits base plain (P a)) :
    (items.mapM f).Emits base plain fun acc bs => List.Forall₂ (fun a b => P a acc b) items bs :=
  Upholds.mapM h

/-- What the library writes is emitted as it is. -/
theorem resolveText (hregistry : base.registry.IsPlain) {e : Expression}
    {standard : Compose String} {P : Accumulator → String → Prop}
    (h : e.validate = .ok () → standard.Emits base plain P) :
    (SqlCompose.resolveText e standard).Emits base plain P :=
  Upholds.resolveText hregistry h

theorem resolveParameter (hregistry : base.registry.IsPlain) (l : Literal) :
    l.resolveParameter.Emits base plain fun _ p => p = l.parameter base.dialect :=
  Upholds.resolveParameter hregistry l

theorem source (hregistry : base.registry.IsPlain) {e : Expression}
    {standard : Option DataModel → Source} :
    (Source.resolve e (some standard)).Emits base plain fun _ s =>
      s = standard base.model := Upholds.source hregistry

theorem no_source (hregistry : base.registry.IsPlain) {e : Expression}
    {P : Accumulator → Source → Prop} :
    (Source.resolve e none).Emits base plain P := Upholds.no_source hregistry

/-- The column of a property is one of the model, or the property itself. -/
theorem column (hmodel : ∀ s ∈ modelNames base.model, Plain plain s) {b : Option Binding}
    {property : String} (hproperty : Plain plain property) :
    (Compose.column b property).Emits base plain fun _ column => Plain plain column :=
  Upholds.mono (Upholds.column b property)
    fun _ _ hcolumn => hcolumn ▸ plain_mappedColumn hmodel b hproperty

end Compose.Emits

end SqlCompose
