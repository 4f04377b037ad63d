import SqlCompose.Resolution.Answer

/-!
# SqlCompose.Proofs.Yields -- runs that succeed

`x.Yields ctx s a t` says that a computation succeeds: started in a context and
a session it gives a result and leaves another session. Each primitive has one
lemma that says all there is to know about its successful runs, and
`yields_bind` takes a sequence of computations apart.
-/

namespace SqlCompose

namespace Compose

variable {α β : Type} {ctx : Context} {s t u : Session}

/-- What a computation comes to in a context and a session. -/
def outcome (x : Compose α) (ctx : Context) (s : Session) : Except SqlError α × Session := x ctx s

/-- A computation succeeds with a result and leaves a session. -/
def Yields (x : Compose α) (ctx : Context) (s : Session) (a : α) (t : Session) : Prop :=
  x.outcome ctx s = (.ok a, t)

/-! ## Sequences -/

theorem outcome_bind (x : Compose α) (f : α → Compose β) (ctx : Context) (s : Session) :
    (x >>= f).outcome ctx s = match x.outcome ctx s with
      | (.ok a, t) => (f a).outcome ctx t
      | (.error e, t) => (.error e, t) := by
  show (match x.outcome ctx s with
    | (r, t) => ExceptT.bindCont (fun a => f a ctx) r t : Except SqlError β × Session) = _
  rcases x.outcome ctx s with ⟨e | a, t⟩ <;> rfl

@[simp] theorem yields_pure {a b : α} :
    (pure a : Compose α).Yields ctx s b t ↔ b = a ∧ t = s := by
  constructor
  · intro h
    cases h
    exact ⟨rfl, rfl⟩
  · rintro ⟨rfl, rfl⟩
    rfl

theorem yields_bind {x : Compose α} {f : α → Compose β} {b : β} :
    (x >>= f).Yields ctx s b u ↔ ∃ a t, x.Yields ctx s a t ∧ (f a).Yields ctx t b u := by
  unfold Yields
  rw [outcome_bind]
  rcases x.outcome ctx s with ⟨e | a, t⟩
  · simp
  · constructor
    · intro h
      exact ⟨a, t, rfl, h⟩
    · rintro ⟨a', t', ha, h⟩
      cases ha
      exact h

@[simp] theorem yields_throw {e : SqlError} {a : α} :
    ¬ (throw e : Compose α).Yields ctx s a t := by
  intro h
  cases h

/-- Two runs of one computation from one session agree. -/
theorem Yields.unique {x : Compose α} {a b : α} (ha : x.Yields ctx s a t)
    (hb : x.Yields ctx s b u) : a = b ∧ t = u := by
  have h := ha.symm.trans hb
  cases h
  exact ⟨rfl, rfl⟩

theorem Yields.mapM_append {f : α → Compose β} {as bs : List α} {xs ys : List β}
    (ha : (as.mapM f).Yields ctx s xs t) (hb : (bs.mapM f).Yields ctx t ys u) :
    ((as ++ bs).mapM f).Yields ctx s (xs ++ ys) u := by
  rw [List.mapM_append]
  exact yields_bind.mpr ⟨xs, t, ha, yields_bind.mpr ⟨ys, u, hb, yields_pure.mpr ⟨rfl, rfl⟩⟩⟩

theorem Yields.length_mapM {f : α → Compose β} {as : List α} {xs : List β}
    (h : (as.mapM f).Yields ctx s xs t) : xs.length = as.length := by
  induction as generalizing s xs with
  | nil =>
    obtain ⟨rfl, -⟩ := yields_pure.mp h
    rfl
  | cons a rest ih =>
    rw [List.mapM_cons] at h
    obtain ⟨x, _, -, h⟩ := yields_bind.mp h
    obtain ⟨others, _, hothers, h⟩ := yields_bind.mp h
    obtain ⟨rfl, rfl⟩ := yields_pure.mp h
    rw [List.length_cons, List.length_cons, ih hothers]

/-! ## Primitives -/

@[simp] theorem yields_ofResult {x : Except SqlError α} {a : α} :
    (ofResult x).Yields ctx s a t ↔ x = .ok a ∧ t = s := by
  simp [Yields, outcome, ofResult, eq_comm (a := t)]

@[simp] theorem yields_refuse {defect : Defect} {a : α} :
    ¬ (refuse defect : Compose α).Yields ctx s a t := by
  intro h
  cases h

@[simp] theorem yields_read {c : Context} :
    (read : Compose Context).Yields ctx s c t ↔ c = ctx ∧ t = s := by
  constructor
  · intro h
    cases h
    exact ⟨rfl, rfl⟩
  · rintro ⟨rfl, rfl⟩
    rfl

@[simp] theorem yields_get {v : Session} :
    (get : Compose Session).Yields ctx s v t ↔ v = s ∧ t = s := by
  constructor
  · intro h
    cases h
    exact ⟨rfl, rfl⟩
  · rintro ⟨rfl, rfl⟩
    rfl

@[simp] theorem yields_dialect {d : Dialect} :
    dialect.Yields ctx s d t ↔ d = ctx.dialect ∧ t = s := by
  simp [Yields, outcome, dialect, eq_comm]

@[simp] theorem yields_aliasMode {m : AliasMode} :
    aliasMode.Yields ctx s m t ↔ m = ctx.aliasMode ∧ t = s := by
  simp [Yields, outcome, aliasMode, eq_comm]

@[simp] theorem yields_sequence {n : Nat} :
    sequence.Yields ctx s n t ↔ n = s.scope.sequence ∧ t = s := by
  simp [Yields, outcome, sequence, eq_comm]

@[simp] theorem yields_lookup {find : List Scope → α} {a : α} :
    (lookup find).Yields ctx s a t ↔ a = find (s.scope :: ctx.enclosing) ∧ t = s := by
  simp [Yields, outcome, lookup, eq_comm]

/-- The column of a property of what a binding was mapped from, in a data model. -/
def mappedColumn (model : Option DataModel) (b : Option Binding) (property : String) : String :=
  (do (← model).column? (← (← b).entity) property).getD property

@[simp] theorem yields_column {b : Option Binding} {property column : String} :
    (Compose.column b property).Yields ctx s column t ↔
      column = mappedColumn ctx.model b property ∧ t = s := by
  have h : (Compose.column b property).outcome ctx s
      = (.ok (mappedColumn ctx.model b property), s) := by
    unfold outcome Compose.column mappedColumn
    cases ctx.model <;> rcases b with _ | ⟨_, _, _, _ | _⟩ <;> rfl
  rw [Yields, h]
  simp [eq_comm]

@[simp] theorem yields_updateScope {change : AliasMode → Scope → Scope} {a : Unit} :
    (updateScope change).Yields ctx s a t ↔
      t = { s with scope := change ctx.aliasMode s.scope } := by
  simp [Yields, outcome, updateScope, eq_comm]

@[simp] theorem yields_write {tokens : List Token} {a : String} :
    (write tokens).Yields ctx s a t ↔ a = sqlText ctx.dialect tokens ∧ t = s := by
  simp [Yields, outcome, write, eq_comm]

theorem yields_inStatement {target : RelationalTarget} {body : Compose α} {a : α} :
    (inStatement target body).Yields ctx s a t ↔
      ∃ u, body.Yields { ctx with enclosing := s.scope :: ctx.enclosing }
          { s with scope :=
              (Scope.inside (s.scope :: ctx.enclosing) .statement).seed ctx.aliasMode target } a u ∧
        t = { u with scope := s.scope } := by
  have h : (inStatement target body).outcome ctx s =
      match body.outcome { ctx with enclosing := s.scope :: ctx.enclosing }
          { s with scope :=
              (Scope.inside (s.scope :: ctx.enclosing) .statement).seed ctx.aliasMode target } with
      | (r, u) => (r, { u with scope := s.scope }) := rfl
  unfold Yields
  rw [h]
  generalize body.outcome _ _ = result
  rcases result with ⟨r, v⟩
  constructor
  · rintro h
    cases h
    exact ⟨v, rfl, rfl⟩
  · rintro ⟨u, h, rfl⟩
    cases h
    rfl

/-- Adding a parameter succeeds as long as a placeholder can number it. -/
theorem yields_addParameter {p : Parameter} {name : String} :
    (addParameter p).Yields ctx s name t ↔
      s.parameters.size < Placeholder.maxNumber ∧
        name = Placeholder.name (s.parameters.size + 1) ∧
        t = { s with parameters := ⟨s.parameters.entries.push p⟩ } := by
  unfold Yields outcome addParameter Accumulator.add
  by_cases h : s.parameters.size < Placeholder.maxNumber
  · simp [h, eq_comm]
  · simp [h]

theorem yields_ofStreaming {x : Streaming α} {a : α} :
    (ofStreaming x).Yields ctx s a t ↔
      ∃ streams, (x s.streams : Except SqlError α × StreamStore) = (.ok a, streams) ∧
        t = { s with streams := streams } := by
  have h : (ofStreaming x).outcome ctx s =
      ((x s.streams : Except SqlError α × StreamStore).1,
        { s with streams := (x s.streams : Except SqlError α × StreamStore).2 }) := rfl
  unfold Yields
  rw [h]
  rcases (x s.streams : Except SqlError α × StreamStore) with ⟨r, v⟩
  constructor
  · rintro h
    cases h
    exact ⟨v, rfl, rfl⟩
  · rintro ⟨u, h, rfl⟩
    cases h
    rfl

/-! ## A first step that leaves the session as it is -/

theorem yields_bind_of_reads {x : Compose α} {v : α} {f : α → Compose β} {b : β}
    (hx : ∀ a t, x.Yields ctx s a t ↔ a = v ∧ t = s) :
    (x >>= f).Yields ctx s b u ↔ (f v).Yields ctx s b u := by
  rw [yields_bind]
  constructor
  · rintro ⟨a, t, h, hf⟩
    obtain ⟨rfl, rfl⟩ := (hx a t).mp h
    exact hf
  · intro hf
    exact ⟨v, s, (hx v s).mpr ⟨rfl, rfl⟩, hf⟩

@[simp] theorem yields_ofResult_bind {x : Except SqlError α} {f : α → Compose β} {b : β} :
    (ofResult x >>= f).Yields ctx s b u ↔ ∃ a, x = .ok a ∧ (f a).Yields ctx s b u := by
  simp [yields_bind, and_assoc]

@[simp] theorem yields_read_bind {f : Context → Compose β} {b : β} :
    ((read : Compose Context) >>= f).Yields ctx s b u ↔ (f ctx).Yields ctx s b u :=
  yields_bind_of_reads fun _ _ => yields_read

@[simp] theorem yields_get_bind {f : Session → Compose β} {b : β} :
    ((get : Compose Session) >>= f).Yields ctx s b u ↔ (f s).Yields ctx s b u :=
  yields_bind_of_reads fun _ _ => yields_get

@[simp] theorem yields_throw_bind {e : SqlError} {f : α → Compose β} {b : β} :
    ¬ ((throw e : Compose α) >>= f).Yields ctx s b u := by
  simp [yields_bind]

@[simp] theorem yields_dialect_bind {f : Dialect → Compose β} {b : β} :
    (dialect >>= f).Yields ctx s b u ↔ (f ctx.dialect).Yields ctx s b u :=
  yields_bind_of_reads fun _ _ => yields_dialect

@[simp] theorem yields_aliasMode_bind {f : AliasMode → Compose β} {b : β} :
    (aliasMode >>= f).Yields ctx s b u ↔ (f ctx.aliasMode).Yields ctx s b u :=
  yields_bind_of_reads fun _ _ => yields_aliasMode

@[simp] theorem yields_sequence_bind {f : Nat → Compose β} {b : β} :
    (sequence >>= f).Yields ctx s b u ↔ (f s.scope.sequence).Yields ctx s b u :=
  yields_bind_of_reads fun _ _ => yields_sequence

@[simp] theorem yields_lookup_bind {find : List Scope → α} {f : α → Compose β} {b : β} :
    (lookup find >>= f).Yields ctx s b u ↔
      (f (find (s.scope :: ctx.enclosing))).Yields ctx s b u :=
  yields_bind_of_reads fun _ _ => yields_lookup

@[simp] theorem yields_column_bind {binding : Option Binding} {property : String}
    {f : String → Compose β} {b : β} :
    (Compose.column binding property >>= f).Yields ctx s b u ↔
      (f (mappedColumn ctx.model binding property)).Yields ctx s b u :=
  yields_bind_of_reads fun _ _ => yields_column

end Compose

end SqlCompose
