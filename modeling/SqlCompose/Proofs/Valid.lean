import SqlCompose.Expression.Validate
import SqlCompose.Proofs.Exchange

/-!
# SqlCompose.Proofs.Valid -- an exchange of values keeps a statement valid

Validation looks at names, kinds and numbers of parts. Of a value it asks only
whether it is null and whether it is a list, which an exchange keeps.
-/

namespace SqlCompose

/-- A sequence of checks passes if each of them does. -/
theorem ok_bind_iff {α : Type} {a : Except SqlError α} {b : α → Except SqlError Unit} :
    (a >>= b) = .ok () ↔ ∃ v, a = .ok v ∧ b v = .ok () := by
  cases a with
  | error e => simp [bind, Except.bind]
  | ok v => simp [bind, Except.bind]

theorem ok_then_iff {a b : Except SqlError Unit} :
    (a >>= fun _ => b) = .ok () ↔ a = .ok () ∧ b = .ok () := by
  rw [ok_bind_iff]
  constructor
  · rintro ⟨_, ha, hb⟩
    exact ⟨ha, hb⟩
  · rintro ⟨ha, hb⟩
    exact ⟨(), ha, hb⟩

/-- A defect is refused unless the check passes. -/
theorem ok_unless_iff {c : Prop} [Decidable c] {d : Defect} {a : Except SqlError Unit} :
    (if c then refuse d else a) = .ok () ↔ ¬ c ∧ a = .ok () := by
  by_cases hc : c <;> simp [hc, refuse]

theorem ok_if_iff {c : Prop} [Decidable c] {d : Defect} {a : Except SqlError Unit} :
    (if c then a else refuse d) = .ok () ↔ c ∧ a = .ok () := by
  by_cases hc : c <;> simp [hc, refuse]

variable {x : Exchange}

/-! ## Leaves -/

theorem Literal.valid_exchange {l : Literal} (h : l.validate = .ok ()) :
    (l.exchange x).validate = .ok () := by
  obtain ⟨value, temporal⟩ := l
  have hlist := x.isList_value value
  cases value with
  | list items =>
    have hany : (items.map x.value).any Value.isList = items.any Value.isList := by
      simp [List.any_map, Function.comp_def, x.isList_value]
    simp only [Literal.exchange, Literal.validate, x.value_list, hany]
    exact h
  | _ =>
    simp only [Literal.exchange, Literal.validate]
    split
    · rename_i heq
      rw [heq] at hlist
      cases hlist
    · rfl

/-- A query selects from a valid target, skips rows only under a limit, and its
parts are valid. -/
theorem SelectQuery.validate_iff (q : SelectQuery) :
    q.validate = .ok () ↔
      q.source.kind.isSource = true ∧ q.source.validate = .ok () ∧
        ¬ (q.offset.isSome && q.limit.isNone) = true ∧ (∀ p ∈ q.projection, p.validate = .ok ()) ∧
          (∀ f ∈ q.filter, f.validate = .ok ()) ∧ ∀ o ∈ q.sort, o.validate = .ok () := by
  obtain ⟨source, distinct, projection, filter, sort, limit, offset, lock⟩ := q
  cases projection <;> cases filter <;> cases sort <;> rw [SelectQuery.validate] <;>
    by_cases hkind : source.kind.isSource = true <;>
      by_cases hpage : (offset.isSome && limit.isNone) = true <;>
        simp only [hkind, hpage, refuse, if_true, if_false, ok_then_iff, Bool.false_eq_true,
          not_true_eq_false, not_false_eq_true, true_and, false_and, and_false, and_true,
          reduceCtorEq, Option.mem_def, Option.some.injEq, forall_eq', false_implies, implies_true]

/-! ## Every part -/

mutual

theorem Expression.valid_exchange (e : Expression) (h : e.validate = .ok ()) :
    (e.exchange x).validate = .ok () := by
  cases e with
  | path p => exact h
  | dataTarget t => exact DataTarget.valid_exchange t h
  | target t => exact RelationalTarget.valid_exchange t h
  | filter f => exact Filter.valid_exchange f h
  | sort s => exact SortOrder.valid_exchange s h
  | function f => exact FunctionCall.valid_exchange f h
  | literal l => exact Literal.valid_exchange h
  | parameter p => exact x.valid_parameter p h
  | sql r => exact h
  | query q => exact SelectQuery.valid_exchange q h

theorem Expression.valid_exchangeAll (es : List Expression) (h : validateAll es = .ok ()) :
    validateAll (Expression.exchangeAll x es) = .ok () := by
  cases es with
  | nil => rfl
  | cons e rest =>
    rw [validateAll, ok_then_iff] at h
    rw [Expression.exchangeAll, validateAll, ok_then_iff]
    exact ⟨Expression.valid_exchange e h.1, Expression.valid_exchangeAll rest h.2⟩

theorem Filter.valid_exchange (f : Filter) (h : f.validate = .ok ()) :
    (f.exchange x).validate = .ok () := by
  cases f with
  | nullTest negated operand => exact Expression.valid_exchange operand h
  | compare op left right =>
    rw [Filter.validate, ok_then_iff, ok_unless_iff] at h
    rw [Filter.exchange, Filter.validate, ok_then_iff, ok_unless_iff,
      Expression.isNullLiteral_exchange]
    exact ⟨Expression.valid_exchange left h.1, h.2.1, Expression.valid_exchange right h.2.2⟩
  | member negated left right =>
    rw [Filter.validate, ok_then_iff, ok_unless_iff] at h
    rw [Filter.exchange, Filter.validate, ok_then_iff, ok_unless_iff,
      Expression.isEmptyList_exchange]
    exact ⟨Expression.valid_exchange left h.1, h.2.1, Expression.valid_exchange right h.2.2⟩
  | between operand low high =>
    rw [Filter.validate, ok_then_iff, ok_then_iff] at h
    rw [Filter.exchange, Filter.validate, ok_then_iff, ok_then_iff]
    exact ⟨Expression.valid_exchange operand h.1, Expression.valid_exchange low h.2.1,
      Expression.valid_exchange high h.2.2⟩
  | like operand text mode ignoreCase => exact Expression.valid_exchange operand h
  | junction op children =>
    rw [Filter.validate] at h
    rw [Filter.exchange, Filter.validate]
    cases children with
    | nil => exact h
    | cons f rest => exact Filter.valid_exchangeAll (f :: rest) h
  | not child => exact Filter.valid_exchange child h
  | rows negated query =>
    rw [Filter.validate, ok_if_iff] at h
    rw [Filter.exchange, Filter.validate, ok_if_iff, Expression.kind_exchange]
    exact ⟨h.1, Expression.valid_exchange query h.2⟩

theorem Filter.valid_exchangeAll (fs : List Filter) (h : validateFilters fs = .ok ()) :
    validateFilters (Filter.exchangeAll x fs) = .ok () := by
  cases fs with
  | nil => rfl
  | cons f rest =>
    rw [validateFilters, ok_then_iff] at h
    rw [Filter.exchangeAll, validateFilters, ok_then_iff]
    exact ⟨Filter.valid_exchange f h.1, Filter.valid_exchangeAll rest h.2⟩

theorem SortOrder.valid_exchange (s : SortOrder) (h : s.validate = .ok ()) :
    (s.exchange x).validate = .ok () := by
  cases s with
  | term expr direction =>
    rw [SortOrder.validate, ok_if_iff] at h
    rw [SortOrder.exchange, SortOrder.validate, ok_if_iff, Expression.kind_exchange]
    exact ⟨h.1, Expression.valid_exchange expr h.2⟩
  | composite terms =>
    rw [SortOrder.validate] at h
    rw [SortOrder.exchange, SortOrder.validate]
    cases terms with
    | nil => exact h
    | cons s rest => exact SortOrder.valid_exchangeAll (s :: rest) h

theorem SortOrder.valid_exchangeAll (sorts : List SortOrder) (h : validateSorts sorts = .ok ()) :
    validateSorts (SortOrder.exchangeAll x sorts) = .ok () := by
  cases sorts with
  | nil => rfl
  | cons s rest =>
    rw [validateSorts, ok_then_iff] at h
    rw [SortOrder.exchangeAll, validateSorts, ok_then_iff]
    exact ⟨SortOrder.valid_exchange s h.1, SortOrder.valid_exchangeAll rest h.2⟩

theorem FunctionCall.valid_exchange (f : FunctionCall) (h : f.validate = .ok ()) :
    (f.exchange x).validate = .ok () := by
  obtain ⟨kind, args, distinct⟩ := f
  rw [FunctionCall.validate, ok_then_iff] at h
  rw [FunctionCall.exchange, FunctionCall.validate, ok_then_iff]
  refine ⟨?_, Expression.valid_exchangeAll args h.2⟩
  rw [Expression.exchangeAll_eq, List.length_map]
  exact h.1

theorem Join.valid_exchange (j : Join) (h : j.validate = .ok ()) :
    (j.exchange x).validate = .ok () := by
  obtain ⟨kind, name, source, aliasName, on, entity⟩ := j
  cases on with
  | none => exact h
  | some f =>
    rw [Join.validate, ok_unless_iff, ok_unless_iff] at h
    rw [Join.exchange, Join.validate, ok_unless_iff, ok_unless_iff]
    exact ⟨h.1, h.2.1, Filter.valid_exchange f h.2.2⟩

theorem Join.valid_exchangeAll (joins : List Join) (h : validateJoins joins = .ok ()) :
    validateJoins (Join.exchangeAll x joins) = .ok () := by
  cases joins with
  | nil => rfl
  | cons j rest =>
    rw [validateJoins, ok_then_iff] at h
    rw [Join.exchangeAll, validateJoins, ok_then_iff]
    exact ⟨Join.valid_exchange j h.1, Join.valid_exchangeAll rest h.2⟩

theorem RelationalTarget.valid_exchange (t : RelationalTarget) (h : t.validate = .ok ()) :
    (t.exchange x).validate = .ok () := by
  obtain ⟨schema, table, aliasName, joins, entity⟩ := t
  rw [RelationalTarget.validate, ok_unless_iff] at h
  rw [RelationalTarget.exchange, RelationalTarget.validate, ok_unless_iff]
  exact ⟨h.1, Join.valid_exchangeAll joins h.2⟩

theorem DataTarget.valid_exchange (t : DataTarget) (h : t.validate = .ok ()) :
    (t.exchange x).validate = .ok () := by
  obtain ⟨entity, aliasName, joins⟩ := t
  rw [DataTarget.validate, ok_unless_iff] at h
  rw [DataTarget.exchange, DataTarget.validate, ok_unless_iff]
  exact ⟨h.1, Join.valid_exchangeAll joins h.2⟩

theorem Selection.valid_exchange (s : Selection) (h : s.validate = .ok ()) :
    (s.exchange x).validate = .ok () := by
  obtain ⟨expr, aliasName⟩ := s
  rw [Selection.validate, ok_if_iff] at h
  rw [Selection.exchange, Selection.validate, ok_if_iff, Expression.kind_exchange]
  exact ⟨h.1, Expression.valid_exchange expr h.2⟩

theorem Selection.valid_exchangeAll (selections : List Selection)
    (h : validateSelections selections = .ok ()) :
    validateSelections (Selection.exchangeAll x selections) = .ok () := by
  cases selections with
  | nil => rfl
  | cons s rest =>
    rw [validateSelections, ok_then_iff] at h
    rw [Selection.exchangeAll, validateSelections, ok_then_iff]
    exact ⟨Selection.valid_exchange s h.1, Selection.valid_exchangeAll rest h.2⟩

theorem Projection.valid_exchange (p : Projection) (h : p.validate = .ok ()) :
    (p.exchange x).validate = .ok () := by
  obtain ⟨selections, aliasMode, converter⟩ := p
  rw [Projection.validate] at h
  rw [Projection.exchange, Projection.validate]
  cases selections with
  | nil => exact h
  | cons s rest => exact Selection.valid_exchangeAll (s :: rest) h

theorem SelectQuery.valid_exchange (q : SelectQuery) (h : q.validate = .ok ()) :
    (q.exchange x).validate = .ok () := by
  rw [SelectQuery.validate_iff] at h
  rw [SelectQuery.exchange_eq, SelectQuery.validate_iff]
  obtain ⟨source, distinct, projection, filter, sort, limit, offset, lock⟩ := q
  obtain ⟨hkind, hsource, hpage, hprojection, hfilter, hsort⟩ := h
  refine ⟨by simpa using hkind, Expression.valid_exchange source hsource, hpage, ?_, ?_, ?_⟩
  · cases projection with
    | none => simp
    | some p => simpa using Projection.valid_exchange p (hprojection p rfl)
  · cases filter with
    | none => simp
    | some f => simpa using Filter.valid_exchange f (hfilter f rfl)
  · cases sort with
    | none => simp
    | some o => simpa using SortOrder.valid_exchange o (hsort o rfl)

end

/-! ## Statements that change rows -/

theorem Expression.joinCount?_exchange (e : Expression) :
    (e.exchange x).joinCount? = e.joinCount? := by
  cases e with
  | dataTarget t => simp [Expression.exchange, Expression.joinCount?, DataTarget.exchange_eq]
  | target t => simp [Expression.exchange, Expression.joinCount?, RelationalTarget.exchange_eq]
  | _ => rfl

theorem validateWritten_exchange {verb : String} {target : Expression}
    (h : validateWritten verb target = .ok ()) :
    validateWritten verb (target.exchange x) = .ok () := by
  unfold validateWritten at *
  rw [Expression.joinCount?_exchange, Expression.kind_exchange]
  split at h
  · exact h
  · exact Expression.valid_exchange target h
  · exact h

theorem Assignment.valid_exchange {a : Assignment} (h : a.validate = .ok ()) :
    (a.exchange x).validate = .ok () := by
  unfold Assignment.validate at *
  rw [ok_then_iff, ok_if_iff] at h
  rw [ok_then_iff, ok_if_iff]
  refine ⟨h.1, ?_, Expression.valid_exchange a.value h.2.2⟩
  rw [Assignment.exchange, Expression.kind_exchange]
  exact h.2.1

theorem validateAssignments_exchange {assignments : List Assignment}
    (h : validateAssignments assignments = .ok ()) :
    validateAssignments (assignments.map (Assignment.exchange x)) = .ok () := by
  induction assignments with
  | nil => rfl
  | cons a rest ih =>
    rw [validateAssignments, ok_then_iff] at h
    rw [List.map_cons, validateAssignments, ok_then_iff]
    exact ⟨Assignment.valid_exchange h.1, ih h.2⟩

theorem validateCondition_exchange {condition : Option Filter}
    (h : validateCondition condition = .ok ()) :
    validateCondition (condition.map (Filter.exchange x)) = .ok () := by
  cases condition with
  | none => rfl
  | some f => exact Filter.valid_exchange f h

theorem InsertStatement.valid_exchange {s : InsertStatement} (h : s.validate = .ok ()) :
    (s.exchange x).validate = .ok () := by
  unfold InsertStatement.validate at *
  rw [ok_then_iff, ok_unless_iff] at h
  rw [ok_then_iff, ok_unless_iff]
  refine ⟨validateWritten_exchange h.1, ?_, validateAssignments_exchange h.2.2⟩
  rw [InsertStatement.exchange, List.isEmpty_map]
  exact h.2.1

theorem UpdateStatement.validate_iff {s : UpdateStatement} :
    s.validate = .ok () ↔ validateWritten "UPDATE" s.target = .ok () ∧
      ¬ s.assignments.isEmpty = true ∧ validateAssignments s.assignments = .ok () ∧
        validateCondition s.filter = .ok () := by
  unfold UpdateStatement.validate
  rw [ok_then_iff]
  by_cases hempty : s.assignments.isEmpty = true
  · simp [hempty, refuse, bind, Except.bind]
  · simp only [hempty, if_false, ok_then_iff, not_false_eq_true, true_and, Bool.false_eq_true]

theorem UpdateStatement.valid_exchange {s : UpdateStatement} (h : s.validate = .ok ()) :
    (s.exchange x).validate = .ok () := by
  rw [UpdateStatement.validate_iff] at h ⊢
  refine ⟨validateWritten_exchange h.1, ?_, validateAssignments_exchange h.2.2.1,
    validateCondition_exchange h.2.2.2⟩
  rw [UpdateStatement.exchange, List.isEmpty_map]
  exact h.2.1

theorem DeleteStatement.valid_exchange {s : DeleteStatement} (h : s.validate = .ok ()) :
    (s.exchange x).validate = .ok () := by
  unfold DeleteStatement.validate at *
  rw [ok_then_iff] at h
  rw [ok_then_iff]
  exact ⟨validateWritten_exchange h.1, validateCondition_exchange h.2⟩

end SqlCompose
