import SqlCompose.Proofs.Mirrors
import SqlCompose.Proofs.Scopes
import SqlCompose.Resolution.Prepare

/-!
# SqlCompose.Proofs.Mapping -- what a data model is asked about

A data model is asked for the table of an entity, and for the column of a property of one.
The entities and the properties are names of the statement, and the entities may be those
that the scopes around it were mapped from. Two models that agree on these names are as
good as each other, so all that matters of a model is what it gives for them.
-/

namespace SqlCompose

open Compose

/-! ## The names that a model gives -/

/-- The names of tables and columns that a model gives for entities and properties of some
names. -/
def DataModel.given (m : DataModel) (names : List String) : List String :=
  names.flatMap fun entity =>
    ((m.table? entity).toList.flatMap fun t => t.schema.toList ++ [t.table]) ++
      names.filterMap (m.column? entity)

/-- The names that a model, if there is one, gives for some names. -/
def mappedNames (model : Option DataModel) (names : List String) : List String :=
  model.toList.flatMap fun m => m.given names

/-- A model that knows nothing beyond some names. -/
def DataModel.restricted (m : DataModel) (names : List String) : DataModel where
  table? entity := if entity ∈ names then m.table? entity else none
  column? entity property :=
    if entity ∈ names ∧ property ∈ names then m.column? entity property else none

/-- What a restricted model maps to are the names that the model gives. -/
theorem modelNames_restricted {model : Option DataModel} {names : List String} {name : String}
    (h : name ∈ modelNames (model.map fun m => m.restricted names)) :
    name ∈ mappedNames model names := by
  obtain ⟨_, hm, h⟩ := h
  obtain ⟨m, hmodel, rfl⟩ := Option.map_eq_some_iff.mp hm
  obtain rfl : model = some m := hmodel
  refine List.mem_flatMap.mpr ⟨m, List.mem_singleton_self m, ?_⟩
  rcases h with ⟨entity, t, ht, hname⟩ | ⟨entity, property, hname⟩
  · by_cases hentity : entity ∈ names
    · have ht : m.table? entity = some t := (if_pos hentity).symm.trans ht
      refine List.mem_flatMap.mpr ⟨entity, hentity, List.mem_append_left _ ?_⟩
      simpa [ht, or_comm] using hname
    · exact absurd ((if_neg hentity).symm.trans ht) (Option.some_ne_none t).symm
  · by_cases hboth : entity ∈ names ∧ property ∈ names
    · have hname : m.column? entity property = some name := (if_pos hboth).symm.trans hname
      refine List.mem_flatMap.mpr ⟨entity, hboth.1, List.mem_append_right _ ?_⟩
      exact List.mem_filterMap.mpr ⟨property, hboth.2, hname⟩
    · exact absurd ((if_neg hboth).symm.trans hname) (Option.some_ne_none name).symm

/-! ## Models that agree -/

theorem mappedColumn_none (model : Option DataModel) (property : String) :
    mappedColumn model none property = property := by
  cases model <;> rfl

/-- Two models give the same for entities and properties of some names. -/
structure Agree (names : List String) (model model' : Option DataModel) : Prop where
  table : ∀ entity ∈ names, mappedTable model' entity = mappedTable model entity
  column : ∀ b : Binding, (∀ entity ∈ b.entity, entity ∈ names) → ∀ property ∈ names,
    mappedColumn model' (some b) property = mappedColumn model (some b) property

theorem Agree.refl (names : List String) (model : Option DataModel) : Agree names model model :=
  ⟨fun _ _ => rfl, fun _ _ _ _ => rfl⟩

theorem agree_restricted (model : Option DataModel) (names : List String) :
    Agree names model (model.map fun m => m.restricted names) where
  table := by
    intro entity hentity
    cases model with
    | none => rfl
    | some m => simp [mappedTable, DataModel.restricted, hentity]
  column := by
    rintro ⟨schema, table, aliasName, entity⟩ hb property hproperty
    cases model with
    | none => rfl
    | some m =>
      cases entity with
      | none => rfl
      | some entity =>
        have hentity : entity ∈ names := hb entity rfl
        simp [mappedColumn, DataModel.restricted, hentity, hproperty]

/-- A column is called what the property is, or what the model gives. -/
theorem mappedColumn_eq_or_mem_mappedNames (model : Option DataModel) {names : List String}
    {b : Option Binding} (hb : ∀ b' ∈ b, ∀ entity ∈ b'.entity, entity ∈ names) {property : String}
    (hproperty : property ∈ names) :
    mappedColumn model b property = property ∨
      mappedColumn model b property ∈ mappedNames model names := by
  cases b with
  | none => exact .inl (mappedColumn_none model property)
  | some b =>
    rw [← (agree_restricted model names).column b (hb b rfl) property hproperty]
    exact (mappedColumn_eq_or_mem _ _ _).imp_right modelNames_restricted

theorem Join.source_mem_names (j : Join) : j.source ∈ j.names := by
  obtain ⟨kind, name, source, aliasName, on, entity⟩ := j
  cases on <;> simp [Join.names]

theorem Join.mem_names_of_entity {j : Join} {entity : String} (h : entity ∈ j.entity) :
    entity ∈ j.names := by
  obtain ⟨kind, name, source, aliasName, on, entity'⟩ := j
  obtain rfl : entity' = some entity := h
  cases on <;> simp [Join.names]

theorem Join.names_subset {joins : List Join} {j : Join} (h : j ∈ joins) :
    j.names ⊆ Join.allNames joins := by
  induction joins with
  | nil => cases h
  | cons j' rest ih =>
    rw [Join.allNames]
    rcases List.mem_cons.mp h with rfl | h
    · exact List.subset_append_left _ _
    · exact List.Subset.trans (ih h) (List.subset_append_right _ _)

/-- The tables of a data target are the same in models that agree on its names. -/
theorem Agree.mapped {names : List String} {model model' : Option DataModel}
    (h : Agree names model model') {t : DataTarget} (ht : t.names ⊆ names) :
    DataTarget.mapped model' t = DataTarget.mapped model t := by
  obtain ⟨entity, aliasName, joins⟩ := t
  simp only [DataTarget.names, List.cons_append, List.cons_subset, List.append_subset] at ht
  have hjoins : ∀ j ∈ joins, j.mapped model' = j.mapped model := by
    intro j hj
    rw [Join.mapped, Join.mapped, h.table _ (ht.2.2 (Join.names_subset hj j.source_mem_names))]
  rw [DataTarget.mapped, DataTarget.mapped, h.table entity ht.1, List.map_congr_left hjoins]

/-! ## Scopes that were mapped from entities -/

/-- The entities that the tables of a scope were mapped from. -/
def Scope.entities (o : Scope) : List String := o.bindings.filterMap fun entry => entry.2.entity

/-- The entities that a scope was mapped from are among some names. -/
def Scope.Knows (names : List String) (o : Scope) : Prop :=
  ∀ entry ∈ o.bindings, ∀ entity ∈ entry.2.entity, entity ∈ names

/-- The entities of a target and of its joins are among some names. -/
structure RelationalTarget.IsKnown (names : List String) (t : RelationalTarget) : Prop where
  entity : ∀ entity ∈ t.entity, entity ∈ names
  joins : ∀ j ∈ t.joins, ∀ entity ∈ j.entity, entity ∈ names

theorem RelationalTarget.isKnown_of_names {names : List String} {t : RelationalTarget}
    (h : t.names ⊆ names) : t.IsKnown names := by
  obtain ⟨schema, table, aliasName, joins, entity⟩ := t
  simp only [RelationalTarget.names, List.cons_append, List.cons_subset, List.append_subset] at h
  obtain ⟨_, ⟨_, hentity⟩, hjoins⟩ := h
  refine ⟨fun e he => hentity (Option.mem_toList.mpr he), fun j hj e he => ?_⟩
  exact hjoins (Join.names_subset hj (Join.mem_names_of_entity he))

/-- A data target is mapped from its entity, and its joins from their sources. -/
theorem DataTarget.isKnown_mapped {names : List String} (model : Option DataModel)
    {t : DataTarget} (h : t.names ⊆ names) : (DataTarget.mapped model t).IsKnown names := by
  obtain ⟨entity, aliasName, joins⟩ := t
  simp only [DataTarget.names, List.cons_append, List.cons_subset, List.append_subset] at h
  constructor
  · intro e he
    obtain rfl : entity = e := Option.some.inj he
    exact h.1
  · intro j hj e he
    obtain ⟨j', hj', rfl⟩ := List.mem_map.mp hj
    obtain rfl : j'.source = e := Option.some.inj he
    exact h.2.2 (Join.names_subset hj' j'.source_mem_names)

section Scopes

variable {names : List String} {o : Scope} {mode : AliasMode} {t : RelationalTarget}

theorem Scope.knows_of_entities (h : o.entities ⊆ names) : o.Knows names :=
  fun entry hentry _ hentity => h (List.mem_filterMap.mpr ⟨entry, hentry, hentity⟩)

theorem Scope.knows_of_chain {scopes : List Scope} (h : scopes.flatMap Scope.entities ⊆ names) :
    ∀ o ∈ scopes, o.Knows names := fun _ ho => Scope.knows_of_entities fun _ hentity =>
  h (List.mem_flatMap.mpr ⟨_, ho, hentity⟩)

theorem Scope.knows_root : Scope.root.Knows names := nofun

theorem Scope.knows_inside (chain : List Scope) (kind : ScopeKind) :
    (Scope.inside chain kind).Knows names := nofun

theorem Scope.Knows.bind (h : o.Knows names) (key : String) {b : Binding}
    (hb : ∀ entity ∈ b.entity, entity ∈ names) : (o.bind key b).Knows names := by
  intro entry hentry
  rcases List.mem_cons.mp hentry with rfl | hentry
  · exact hb
  · exact h entry (List.mem_filter.mp hentry).1

theorem Scope.Knows.bindJoin (h : o.Knows names) {j : Join}
    (hj : ∀ entity ∈ j.entity, entity ∈ names) : (o.bindJoin mode j).Knows names := by
  have hdrawn : (o.tableAlias mode j.aliasName j.name).2.Knows names := by
    intro entry hentry
    rw [bindings_tableAlias] at hentry
    exact h entry hentry
  rw [bindJoin_eq]
  refine Scope.Knows.bind ?_ j.name hj
  split
  · exact hdrawn.bind _ hj
  · exact hdrawn

theorem Scope.Knows.bindTarget (h : o.Knows names) (ht : t.IsKnown names)
    (aliasName : Option String) : (o.bindTarget mode t aliasName).Knows names := by
  have hjoins : ∀ (joins : List Join) (o : Scope), o.Knows names →
      (∀ j ∈ joins, ∀ entity ∈ j.entity, entity ∈ names) →
        (joins.foldl (fun s j => s.bindJoin mode j) o).Knows names := by
    intro joins
    induction joins with
    | nil => exact fun _ h _ => h
    | cons j rest ih =>
      intro o h hall
      exact ih _ (h.bindJoin (hall j List.mem_cons_self))
        fun j' hj => hall j' (List.mem_cons_of_mem j hj)
  obtain ⟨schema, table, given, joins, entity⟩ := t
  unfold Scope.bindTarget
  refine hjoins joins _ (Scope.Knows.bind ?_ _ ht.entity) ht.joins
  cases entity with
  | none => exact (h.bind _ ht.entity).bind _ ht.entity
  | some entity => exact ((h.bind _ ht.entity).bind _ ht.entity).bind _ ht.entity

theorem Scope.Knows.seed (h : o.Knows names) (ht : t.IsKnown names) :
    (o.seed mode t).Knows names := by
  rw [Scope.seed_eq]
  split
  · exact h
  · refine Scope.Knows.bindTarget ?_ ht _
    intro entry hentry
    rw [bindings_tableAlias] at hentry
    exact h entry hentry

theorem Scope.Knows.seedUnaliased (h : o.Knows names) (ht : t.IsKnown names) :
    (o.seedUnaliased mode t).Knows names := h.bindTarget ht none

end Scopes

/-! ## Asking about some names -/

variable {α β : Type} {base : Context} {names : List String} {P Q : α → Prop}

/-- A computation asks the data model about some names only. Inside scopes that were mapped from
entities among them it comes to the same under any other model that agrees on the names, and
leaves such a scope. `P` tells about its result. -/
def Compose.AsksFor (base : Context) (names : List String) (x : Compose α) (P : α → Prop) : Prop :=
  ∀ ⦃model : Option DataModel⦄, Agree names base.model model →
    ∀ ⦃chain : List Scope⦄ ⦃s : Session⦄, s.scope.Knows names → (∀ o ∈ chain, o.Knows names) →
      ∃ r t, x.outcome (base.within chain) s = (r, t) ∧
        x.outcome ({ base with model := model }.within chain) s = (r, t) ∧
          t.scope.Knows names ∧ ∀ a, r = .ok a → P a

/-- A computation asks about some names, whatever its result is. -/
abbrev Compose.Asks (base : Context) (names : List String) (x : Compose α) : Prop :=
  x.AsksFor base names fun _ => True

/-- A source whose joins were mapped from entities among some names, and whose conditions ask
about them only. -/
structure Source.Asks (base : Context) (names : List String) (s : Source) : Prop where
  known : s.target.IsKnown names
  conditions : ∀ c ∈ s.conditions, ∀ x ∈ c, x.Asks base names

namespace Compose.AsksFor

/-- A computation that leaves the session as it is, and comes to the same under every model. -/
theorem reads {x : Compose α} (r : List Scope → Session → Except SqlError α)
    (hx : ∀ model chain s, x.outcome ({ base with model := model }.within chain) s = (r chain s, s))
    (hP : ∀ chain s a, s.scope.Knows names → (∀ o ∈ chain, o.Knows names) → r chain s = .ok a → P a) :
    x.AsksFor base names P :=
  fun model _ chain s hs hchain =>
    ⟨_, s, hx base.model chain s, hx model chain s, hs, fun a ha => hP chain s a hs hchain ha⟩

theorem pure {a : α} (h : P a) : (Pure.pure a : Compose α).AsksFor base names P :=
  reads (fun _ _ => .ok a) (fun _ _ _ => rfl) fun _ _ _ _ _ ha => Except.ok.inj ha ▸ h

theorem mono {x : Compose α} (hx : x.AsksFor base names P) (h : ∀ a, P a → Q a) :
    x.AsksFor base names Q := by
  intro model hagree chain s hs hchain
  obtain ⟨r, t, hleft, hright, ht, hr⟩ := hx hagree hs hchain
  exact ⟨r, t, hleft, hright, ht, fun a ha => h a (hr a ha)⟩

/-- Of a result is known whatever every successful run shows. -/
theorem of_yields {x : Compose α} (hx : x.AsksFor base names P)
    (h : ∀ chain s a t, x.Yields (base.within chain) s a t → Q a) : x.AsksFor base names Q := by
  intro model hagree chain s hs hchain
  obtain ⟨r, t, hleft, hright, ht, _⟩ := hx hagree hs hchain
  refine ⟨r, t, hleft, hright, ht, ?_⟩
  rintro a rfl
  exact h chain s a t hleft

/-- A run succeeds under every model that agrees if it does under one of them. -/
theorem yields_iff {x : Compose α} (hx : x.AsksFor base names P) {model : Option DataModel}
    (hagree : Agree names base.model model) {chain : List Scope} {s t : Session} {a : α}
    (hs : s.scope.Knows names) (hchain : ∀ o ∈ chain, o.Knows names) :
    x.Yields ({ base with model := model }.within chain) s a t ↔
      x.Yields (base.within chain) s a t := by
  obtain ⟨r, u, hleft, hright, _⟩ := hx hagree hs hchain
  exact Eq.congr_left (hright.trans hleft.symm)

theorem knows_of_yields {x : Compose α} (hx : x.AsksFor base names P) {chain : List Scope}
    {s t : Session} {a : α} (hs : s.scope.Knows names) (hchain : ∀ o ∈ chain, o.Knows names)
    (h : x.Yields (base.within chain) s a t) : t.scope.Knows names := by
  obtain ⟨r, u, hleft, _, hu, _⟩ := hx (.refl _ _) hs hchain
  obtain ⟨rfl, rfl⟩ := Prod.mk.inj (hleft.symm.trans h)
  exact hu

/-- The second computation may rely on what the first one gave. -/
theorem bind {x : Compose α} {f : α → Compose β} {P : α → Prop} {Q : β → Prop}
    (hx : x.AsksFor base names P) (hf : ∀ a, P a → (f a).AsksFor base names Q) :
    (x >>= f).AsksFor base names Q := by
  intro model hagree chain s hs hchain
  obtain ⟨r, t, hleft, hright, ht, hr⟩ := hx hagree hs hchain
  rw [outcome_bind, outcome_bind, hleft, hright]
  cases r with
  | error e => exact ⟨.error e, t, rfl, rfl, ht, nofun⟩
  | ok a => exact hf a (hr a rfl) hagree ht hchain

theorem ofResult (x : Except SqlError α) : (Compose.ofResult x).Asks base names :=
  reads (fun _ _ => x) (fun _ _ _ => rfl) fun _ _ _ _ _ _ => trivial

theorem throw (e : SqlError) : (MonadExcept.throw e : Compose α).AsksFor base names P :=
  reads (fun _ _ => .error e) (fun _ _ _ => rfl) fun _ _ _ _ _ ha => by cases ha

theorem refuse (defect : Defect) : (Compose.refuse defect : Compose α).AsksFor base names P :=
  throw (.invalid defect)

theorem get : (MonadState.get : Compose Session).Asks base names :=
  reads (fun _ s => .ok s) (fun _ _ _ => rfl) fun _ _ _ _ _ _ => trivial

theorem dialect : Compose.dialect.AsksFor base names fun d => d = base.dialect :=
  reads (fun _ _ => .ok base.dialect) (fun _ _ _ => rfl) fun _ _ _ _ _ h => (Except.ok.inj h).symm

theorem aliasMode : Compose.aliasMode.Asks base names :=
  reads (fun _ _ => .ok base.aliasMode) (fun _ _ _ => rfl) fun _ _ _ _ _ _ => trivial

theorem sequence : Compose.sequence.Asks base names :=
  reads (fun _ s => .ok s.scope.sequence) (fun _ _ _ => rfl) fun _ _ _ _ _ _ => trivial

theorem write (tokens : List Token) : (Compose.write tokens).Asks base names :=
  reads (fun _ _ => .ok (sqlText base.dialect tokens)) (fun _ _ _ => rfl) fun _ _ _ _ _ _ => trivial

theorem lookup {find : List Scope → α} : (Compose.lookup find).Asks base names :=
  reads (fun chain s => .ok (find (s.scope :: chain))) (fun _ _ _ => rfl) fun _ _ _ _ _ _ => trivial

/-- A table that is found was mapped from an entity among the names, if from any. -/
theorem findBinding (key : String) (useParent : Bool) :
    (Compose.lookup (SqlCompose.findBinding key useParent)).AsksFor base names fun b =>
      ∀ b' ∈ b, ∀ entity ∈ b'.entity, entity ∈ names := by
  refine reads (fun chain s => .ok (SqlCompose.findBinding key useParent (s.scope :: chain)))
    (fun _ _ _ => rfl) fun chain s a hs hchain ha b hb => ?_
  obtain rfl := Except.ok.inj ha
  obtain ⟨o, ho, hmem⟩ := exists_of_findBinding hb
  exact List.forall_mem_cons.mpr ⟨hs, hchain⟩ o ho _ hmem

/-- The one computation that asks a model about properties. -/
theorem column {b : Option Binding} (hb : ∀ b' ∈ b, ∀ entity ∈ b'.entity, entity ∈ names)
    {property : String} (hproperty : property ∈ names) :
    (Compose.column b property).Asks base names := by
  intro model hagree chain s hs _
  have hcolumn : mappedColumn model b property = mappedColumn base.model b property := by
    cases b with
    | none => rw [mappedColumn_none, mappedColumn_none]
    | some b => exact hagree.column b (hb b rfl) property hproperty
  refine ⟨.ok (mappedColumn base.model b property), s, yields_column.mpr ⟨rfl, rfl⟩, ?_, hs,
    fun _ _ => trivial⟩
  exact yields_column.mpr ⟨hcolumn.symm, rfl⟩

/-- A computation that looks at nothing in the context but what models that agree share. -/
theorem read_bind {f : Context → Compose α}
    (hf : ∀ model, Agree names base.model model →
      ∀ chain, f ({ base with model := model }.within chain) = f base)
    (h : (f base).AsksFor base names P) :
    ((read : Compose Context) >>= f).AsksFor base names P := by
  intro model hagree chain s hs hchain
  obtain ⟨r, t, hleft, hright, ht, hr⟩ := h hagree hs hchain
  refine ⟨r, t, ?_, ?_, ht, hr⟩
  · rw [← hf base.model (.refl _ _) chain] at hleft
    exact hleft
  · rw [← hf model hagree chain] at hright
    exact hright

theorem ofStreaming (x : Streaming α) : (Compose.ofStreaming x).Asks base names :=
  fun _ _ _ _ hs _ => ⟨_, _, rfl, rfl, hs, fun _ _ => trivial⟩

theorem addParameter (p : Parameter) : (Compose.addParameter p).Asks base names := by
  intro model _ chain s hs _
  unfold outcome Compose.addParameter
  cases s.parameters.add p with
  | error e => exact ⟨.error e, s, rfl, rfl, hs, fun _ _ => trivial⟩
  | ok added =>
    exact ⟨.ok added.1, { s with parameters := added.2 }, rfl, rfl, hs, fun _ _ => trivial⟩

theorem seed {t : RelationalTarget} (ht : t.IsKnown names) : (Compose.seed t).Asks base names :=
  fun _ _ _ _ hs _ => ⟨_, _, rfl, rfl, hs.seed ht, fun _ _ => trivial⟩

theorem seedUnaliased {t : RelationalTarget} (ht : t.IsKnown names) :
    (Compose.seedUnaliased t).Asks base names :=
  fun _ _ _ _ hs _ => ⟨_, _, rfl, rfl, hs.seedUnaliased ht, fun _ _ => trivial⟩

/-- A new statement scope knows no more than the target that is bound in it. -/
theorem inStatement {target : RelationalTarget} (ht : target.IsKnown names) {body : Compose α}
    (h : body.AsksFor base names P) : (Compose.inStatement target body).AsksFor base names P := by
  intro model hagree chain s hs hchain
  obtain ⟨r, t, hleft, hright, _, hr⟩ := h hagree
    (s := ⟨(Scope.inside (s.scope :: chain) .statement).seed base.aliasMode target,
      s.parameters, s.streams⟩)
    ((Scope.knows_inside _ _).seed ht) (List.forall_mem_cons.mpr ⟨hs, hchain⟩)
  refine ⟨r, { t with scope := s.scope }, ?_, ?_, hs, hr⟩
  · rw [outcome_inStatement]
    show (_, { (body.outcome (base.within (s.scope :: chain)) _).2 with scope := s.scope }) = _
    rw [hleft]
  · rw [outcome_inStatement]
    show (_, { (body.outcome ({ base with model := model }.within (s.scope :: chain)) _).2 with
      scope := s.scope }) = _
    rw [hright]

theorem mapM {f : α → Compose β} {items : List α} (h : ∀ a ∈ items, (f a).Asks base names) :
    (items.mapM f).Asks base names := by
  induction items with
  | nil => exact pure trivial
  | cons a rest ih =>
    rw [List.mapM_cons]
    refine bind (h a List.mem_cons_self) fun b _ => ?_
    exact bind (ih fun a' ha => h a' (List.mem_cons_of_mem a ha)) fun bs _ => pure trivial

/-! ### Requests -/

/-- The library and the dialect answer the same. -/
theorem resolve (hplain : base.registry.IsPlain) {q : Request} (hstandard : q.standard.Asks base names)
    (hbind : ∀ rule, (q.bind rule).Asks base names) : q.resolve.Asks base names := by
  have hfirst : ∀ rs : List Resolver, (∀ r ∈ rs, r.isCustom = false) →
      (firstAnswer q rs).Asks base names := by
    intro rs
    induction rs with
    | nil => exact fun _ => pure trivial
    | cons r rest ih =>
      intro hrs
      refine bind (P := fun _ => True) ?_ fun answer _ => ?_
      -- what an application answers could depend on anything
      · exact Resolver.ask_of_plain (C := fun x => x.Asks base names) hstandard hbind
          (hrs r List.mem_cons_self)
      · cases answer with
        | none => exact ih fun r' hr' => hrs r' (List.mem_cons_of_mem r hr')
        | some resolved => exact pure trivial
  refine bind (ofResult _) fun _ _ => ?_
  refine read_bind (fun _ _ _ => rfl) ?_
  refine bind (hfirst _ (resolversFor_plain hplain _ _)) fun answer _ => ?_
  cases answer with
  | none => exact throw _
  | some found => exact bind (ofResult _) fun _ _ => pure trivial

theorem resolveText (hplain : base.registry.IsPlain) {e : Expression} {standard : Compose String}
    (h : standard.Asks base names) : (SqlCompose.resolveText e standard).Asks base names := by
  refine bind (resolve hplain (bind h fun _ _ => pure trivial) fun _ => pure trivial) fun _ _ => ?_
  exact ofResult _

/-- A source that is the same under models that agree. -/
theorem source (hplain : base.registry.IsPlain) {e : Expression}
    {standard : Option DataModel → Source}
    (hsame : ∀ model, Agree names base.model model → standard model = standard base.model)
    (hasks : (standard base.model).Asks base names) :
    (Source.resolve e (some standard)).AsksFor base names fun s =>
      s = standard base.model ∧ s.Asks base names := by
  have hread : (Source.resolve e (some standard)).Asks base names := by
    refine read_bind (fun model hagree chain => ?_) ?_
    · simp only [Option.map_some, hsame model hagree]
    · refine bind (resolve hplain (pure trivial) fun _ => pure trivial) fun answer _ => ?_
      refine bind (ofResult _) fun target _ => ?_
      split <;> exact pure trivial
  refine hread.of_yields fun chain s a t h => ?_
  have hwithin : (base.within chain).registry.IsPlain := hplain
  obtain ⟨_, rfl, _⟩ := (yields_source hwithin).mp h
  exact ⟨rfl, hasks⟩

theorem no_source (hplain : base.registry.IsPlain) {e : Expression} {P : Source → Prop} :
    (Source.resolve e none).AsksFor base names P := by
  have hread : (Source.resolve e none).Asks base names := by
    refine read_bind (fun _ _ _ => rfl) ?_
    refine bind (resolve hplain (pure trivial) fun _ => pure trivial) fun answer _ => ?_
    exact bind (ofResult _) fun target _ => pure trivial
  refine hread.of_yields fun chain s a t h => ?_
  have hwithin : (base.within chain).registry.IsPlain := hplain
  exact absurd h (not_yields_source hwithin)

/-! ### Leaves -/

/-- A path asks for the column of its last name, in the table that it finds. -/
theorem path {p : Path} (h : p.name ∈ names) : p.sql.Asks base names := by
  unfold Path.sql
  cases p.parent with
  | none =>
    refine bind (findBinding Scope.rootKey false) fun b hb => bind (column hb h) fun name _ => ?_
    cases b <;> exact pure trivial
  | some parent =>
    refine bind aliasMode fun mode _ => bind (findBinding parent.key true) fun b hb => ?_
    exact bind lookup fun aliasName _ => bind (column hb h) fun name _ => pure trivial

theorem placeholder (hplain : base.registry.IsPlain) (l : Literal) :
    l.placeholder.Asks base names := by
  refine bind (bind (resolve hplain (bind dialect fun d _ => pure trivial) fun _ => pure trivial)
    fun answer _ => ofResult _) fun p _ => addParameter p

theorem literal (hplain : base.registry.IsPlain) (l : Literal) : l.resolveSql.Asks base names := by
  refine resolveText hplain ?_
  unfold Literal.sql
  split
  · exact bind (mapM fun item _ => placeholder hplain _) fun names _ => pure trivial
  · exact placeholder hplain l

theorem fill (raw : RawSql) (quoted : Bool) (values : List Value) (cs : List Char) :
    (raw.fill quoted values cs).Asks base names := by
  induction cs generalizing quoted values with
  | nil =>
    cases values with
    | nil => exact pure trivial
    | cons v rest => exact throw _
  | cons c rest ih =>
    cases values with
    | nil =>
      rw [RawSql.fill]
      split
      · exact throw _
      · exact bind (ih _ _) fun out _ => pure trivial
    | cons v others =>
      rw [RawSql.fill]
      split
      · exact bind (addParameter _) fun name _ => bind (ih _ _) fun out _ => pure trivial
      · exact bind (ih _ _) fun out _ => pure trivial

/-! ### Sources -/

theorem joinTokens {joins : List (Join × Option (Compose String))}
    (h : ∀ j ∈ joins, ∀ x ∈ j.2, x.Asks base names) :
    (SqlCompose.joinTokens joins).Asks base names := by
  induction joins with
  | nil => exact pure trivial
  | cons j rest ih =>
    obtain ⟨join, condition⟩ := j
    refine bind (findBinding join.name false) fun b _ => ?_
    cases b with
    | none => exact refuse _
    | some b =>
      refine bind (P := fun _ => True) ?_ fun on _ =>
        bind (ih fun j' hj => h j' (List.mem_cons_of_mem _ hj)) fun others _ => pure trivial
      cases condition with
      | none => exact pure trivial
      | some x => exact bind (h _ List.mem_cons_self x rfl) fun sql _ => pure trivial

theorem sourceText {s : Source} (h : s.Asks base names) : s.text.Asks base names := by
  refine bind (seed h.known) fun _ _ => bind lookup fun root _ => ?_
  refine bind (joinTokens fun j hj => ?_) fun joins _ => write _
  exact h.conditions j.2 (List.of_mem_zip hj).2

theorem sourceSql (hplain : base.registry.IsPlain) {s : Source} (h : s.Asks base names) :
    s.resolveSql.Asks base names := resolveText hplain (sourceText h)

/-! ### Prepared statements -/

theorem resolveBound (hplain : base.registry.IsPlain) (p : Parameter) :
    (Compose.resolveBound (.parameter p)).Asks base names := by
  refine bind (resolve hplain (pure trivial) fun rule => ?_) fun answer _ => ofResult _
  refine bind (P := fun _ => True) ?_ fun text _ => pure trivial
  unfold BindRule.text?
  split
  · exact bind (ofStreaming _) fun text _ => pure trivial
  · exact pure trivial
  · exact pure trivial

theorem bindNumbered (hplain : base.registry.IsPlain) (number : Nat) :
    (Compose.bindNumbered number).Asks base names := by
  refine bind get fun s _ => ?_
  cases s.parameters.numbered? number with
  | none => exact throw _
  | some p => exact resolveBound hplain p

/-- Filling in markers asks the model about nothing. -/
theorem prepare (hplain : base.registry.IsPlain) (sql : String) :
    (Compose.prepare sql).Asks base names := by
  refine bind (P := fun _ => True) ?_ fun filled _ => pure trivial
  induction TextPiece.ofText sql with
  | nil => exact pure trivial
  | cons piece rest ih =>
    cases piece with
    | char c => exact bind ih fun filled _ => pure trivial
    | placeholder number =>
      exact bind (bindNumbered hplain number) fun bound _ => bind ih fun filled _ => pure trivial

end Compose.AsksFor

end SqlCompose
