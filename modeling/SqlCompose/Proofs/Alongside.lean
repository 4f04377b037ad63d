import SqlCompose.Proofs.Lockstep
import SqlCompose.Proofs.Statements

/-!
# SqlCompose.Proofs.Alongside -- statements of every kind follow themselves

What holds of expressions holds of the statements they stand in: a statement
with other values is put together step by step like the statement itself.
-/

namespace SqlCompose

open Compose Coupling

variable {α β : Type} {base : Context} {C : Coupling base} {K : String → Prop} {n : Nat}
  {R : α → β → Prop}

theorem Item.count_flatMap {γ : Type} (f : γ → List Item) (as : List γ) :
    Item.count (as.flatMap f) = total (fun a => Item.count (f a)) as := by
  induction as with
  | nil => rfl
  | cons a rest ih => rw [List.flatMap_cons, Item.count_append, ih, total]

/-! ## Parts of statements -/

section Parts

variable (hregistry : base.registry.IsPlain) (hmodel : ∀ s ∈ modelNames base.model, Plain C.plain s)
  (hall : ∀ needs, C.MeetsAll K needs)

include hregistry hmodel hall

theorem follows_writtenTable {e : Expression} (h : AllPlain C.plain e.names) :
    C.Follows K 0 (fun t t' => t' = t ∧ Plain C.plain (t.text base.dialect)) (writtenTable e)
      (writtenTable (e.exchange C.exchange)) := by
  refine .first (Expression.follows_source hregistry hmodel e K K h
    (hall _)) fun source source' hsource => ?_
  obtain ⟨hsource, _⟩ := hsource
  rw [hsource.target]
  refine .first (.seedUnaliased hsource.names) fun _ _ _ => .pure ?_
  have htable := (RelationalTarget.isPlain_of_names hsource.names).qualified
    C.admits.writable
  rw [RelationalTarget.exchange_eq]
  exact ⟨rfl, htable⟩

omit hregistry hall in
theorem follows_assignedColumn {p : Path} (h : AllPlain C.plain p.names) :
    C.Follows K 0 C.numbering.Texts (assignedColumn p) (assignedColumn p) := by
  refine Follows.same_text ?_ (emits_assignedColumn hmodel h)
  unfold assignedColumn
  refine .first (.check fun hvalid => hvalid) fun _ _ _ => ?_
  split
  · exact .refuse
  · refine .first (Follows.lookup_own Scope.rootKey) fun root root' hroot => ?_
    obtain ⟨rfl, _⟩ := hroot
    exact .column

theorem follows_assignedValue {e : Expression} (h : AllPlain C.plain e.names) :
    C.Follows K (Item.count (e.outline base.dialect true)) C.numbering.Texts (assignedValue e)
      (assignedValue (e.exchange C.exchange)) := by
  rw [Expression.count_outline]
  refine (Expression.follows hregistry hmodel e K h (hall _)).last
    fun sql sql' hsql => .pure ?_
  rw [Expression.isQuery_exchange]
  exact .enclosed e.isQuery hsql

theorem follows_conditionClause {condition : Option Filter}
    (h : AllPlain C.plain (conditionNames condition)) :
    C.Follows K (Item.count (conditionOutline base.dialect condition))
      (C.numbering.Tokens base.dialect) (conditionClause condition)
      (conditionClause (condition.map (Filter.exchange C.exchange))) := by
  cases condition with
  | none => exact .pure .nil
  | some f =>
    refine (Filter.follows_sql hregistry
      (Filter.follows hregistry hmodel f K h (hall _))).last fun sql sql' hsql => .pure ?_
    exact .optional (by decide) hsql

theorem follows_assignment {a : Assignment} (h : AllPlain C.plain a.names) :
    C.Follows K (Item.count (a.value.outline base.dialect true)) C.numbering.Texts (assignment a)
      (assignment (a.exchange C.exchange)) := by
  rw [Assignment.names, allPlain_append] at h
  refine .first (follows_assignedColumn hmodel h.1) fun column column' hcolumn => ?_
  refine (follows_assignedValue hregistry hmodel hall h.2).last fun value value' hvalue => .write ?_
  exact .cons hcolumn (.fixed (by decide) (.fragment hvalue .nil))

/-! ## Whole statements -/

/-- An insertion follows itself. -/
theorem InsertStatement.follows {s : InsertStatement}
    (h : AllPlain C.plain (Statement.insert s).names) :
    C.Follows K (Item.count (Assignment.outlines base.dialect s.values)) C.numbering.Texts s.render
      (s.exchange C.exchange).render := by
  rw [Statement.names, allPlain_append] at h
  have hnames : ∀ a ∈ s.values,
      AllPlain C.plain a.column.names ∧ AllPlain C.plain a.value.names := by
    intro a ha
    rw [← allPlain_append]
    exact Assignment.plain_names h.2 a ha
  have hcolumns : C.Follows K (total (fun _ => 0) s.values) (List.Forall₂ C.numbering.Texts)
      (s.values.mapM fun a => assignedColumn a.column)
      ((s.values.map (Assignment.exchange C.exchange)).mapM fun a => assignedColumn a.column) :=
    .mapM (fun _ => 0) fun a ha => follows_assignedColumn hmodel (hnames a ha).1
  -- columns have no values, so all parameters of an insertion are those of its values
  have hnone : 0 = total (fun _ => 0) s.values := by rw [total_const, Nat.zero_mul]
  have hvalues : C.Follows K
      (total (fun a => Item.count (a.value.outline base.dialect true)) s.values)
      (List.Forall₂ C.numbering.Texts) (s.values.mapM fun a => assignedValue a.value)
      ((s.values.map (Assignment.exchange C.exchange)).mapM fun a => assignedValue a.value) :=
    .mapM (fun a => Item.count (a.value.outline base.dialect true))
      (g := fun a : Assignment => assignedValue a.value) fun a ha =>
        follows_assignedValue hregistry hmodel hall (hnames a ha).2
  rw [Assignment.outlines, Item.count_flatMap]
  refine .first (.check InsertStatement.valid_exchange) fun _ _ _ => ?_
  refine .first (follows_writtenTable hregistry hmodel hall h.1) fun table table' htable => ?_
  obtain ⟨rfl, htable⟩ := htable
  refine .first (hcolumns.cast hnone) fun columns columns' hcolumns => ?_
  refine hvalues.last fun values values' hvalues => .write ?_
  have hinto : C.numbering.Tokens base.dialect [.insert, .space, .into, .space, table', .space, .leftParen]
      [.insert, .space, .into, .space, table', .space, .leftParen] :=
    .fixed (by decide) (.fixed (by decide) (.fixed (by decide) (.fixed (by decide)
      (.cons (.of_plain htable) (.words (by decide))))))
  have hbetween : C.numbering.Tokens base.dialect [.rightParen, .space, .values, .space, .leftParen]
      [.rightParen, .space, .values, .space, .leftParen] := .words (by decide)
  exact (((hinto.append (.commas hcolumns)).append hbetween).append (.commas hvalues)).append
    (.words (by decide))

/-- An update follows itself. -/
theorem UpdateStatement.follows {s : UpdateStatement}
    (h : AllPlain C.plain (Statement.update s).names) :
    C.Follows K (Item.count (Assignment.outlines base.dialect s.assignments ++
        conditionOutline base.dialect s.filter)) C.numbering.Texts s.render
      (s.exchange C.exchange).render := by
  rw [Statement.names, allPlain_append, allPlain_append] at h
  have hassignments : C.Follows K
      (total (fun a => Item.count (a.value.outline base.dialect true)) s.assignments)
      (List.Forall₂ C.numbering.Texts) (s.assignments.mapM assignment)
      ((s.assignments.map (Assignment.exchange C.exchange)).mapM assignment) :=
    .mapM (fun a => Item.count (a.value.outline base.dialect true)) fun a ha =>
      follows_assignment hregistry hmodel hall (Assignment.plain_names h.1.2 a ha)
  rw [Item.count_append, Assignment.outlines, Item.count_flatMap]
  refine .first (.check UpdateStatement.valid_exchange) fun _ _ _ => ?_
  refine .first (follows_writtenTable hregistry hmodel hall h.1.1) fun table table' htable => ?_
  obtain ⟨rfl, htable⟩ := htable
  refine hassignments.bind fun assignments assignments' hassignments => ?_
  refine (follows_conditionClause hregistry hmodel hall h.2).last
    fun condition condition' hcondition => .write ?_
  have hset : C.numbering.Tokens base.dialect [.update, .space, table', .space, .set, .space]
      [.update, .space, table', .space, .set, .space] :=
    .fixed (by decide) (.fixed (by decide) (.cons (.of_plain htable) (.words (by decide))))
  exact (hset.append (.commas hassignments)).append hcondition

/-- A deletion follows itself. -/
theorem DeleteStatement.follows {s : DeleteStatement}
    (h : AllPlain C.plain (Statement.delete s).names) :
    C.Follows K (Item.count (conditionOutline base.dialect s.filter)) C.numbering.Texts s.render
      (s.exchange C.exchange).render := by
  rw [Statement.names, allPlain_append] at h
  refine .first (.check DeleteStatement.valid_exchange) fun _ _ _ => ?_
  refine .first (follows_writtenTable hregistry hmodel hall h.1) fun table table' htable => ?_
  obtain ⟨rfl, htable⟩ := htable
  refine (follows_conditionClause hregistry hmodel hall h.2).last
    fun condition condition' hcondition => .write ?_
  exact .fixed (by decide) (.fixed (by decide) (.fixed (by decide) (.fixed (by decide)
    (.cons (.of_plain htable) hcondition))))

/-- A query of its own follows itself. -/
theorem SelectQuery.follows_outer {q : SelectQuery} (h : AllPlain C.plain q.names) :
    C.Follows K (Item.count (q.outline base.dialect)) C.Rendered q.renderOuter
      (q.exchange C.exchange).renderOuter := by
  have hsource : AllPlain C.plain q.source.names := by
    rw [SelectQuery.names_eq, allPlain_append, allPlain_append, allPlain_append] at h
    exact h.1.1.1
  have hfound : C.Follows K 0
      (fun s s' => C.Sources K (Item.count (q.source.outline base.dialect false)) s s')
      (resolveSource q.source) (resolveSource (q.source.exchange C.exchange)) :=
    ((Expression.follows_source hregistry hmodel q.source K K hsource
      (hall _)).mono fun _ _ hs => hs.1)
  have heq : (q.exchange C.exchange).source = q.source.exchange C.exchange := by
    rw [SelectQuery.exchange_eq]
  unfold SelectQuery.renderOuter
  rw [heq]
  refine .first hfound fun source source' hs => ?_
  rw [hs.target]
  refine .first (.seed hs.names) fun _ _ _ => ?_
  exact (SelectQuery.follows hregistry hmodel q K h (hall _) hs)

/-- A statement with other values is put together like the statement. -/
theorem Statement.follows {st : Statement} (h : AllPlain C.plain st.names) :
    C.Follows K (Item.count (st.outline base.dialect)) C.Rendered st.rendered
      (st.exchange C.exchange).rendered := by
  have htext : ∀ {x y : Compose String} {items : List Item},
      C.Follows K (Item.count items) C.numbering.Texts x y →
        C.Follows K (Item.count items) C.Rendered
          (x >>= fun sql => pure ⟨sql, []⟩) (y >>= fun sql => pure ⟨sql, []⟩) := by
    intro x y items hxy
    exact hxy.last fun sql sql' hsql => .pure ⟨hsql, .nil⟩
  cases st with
  | select q => exact SelectQuery.follows_outer hregistry hmodel hall h
  | insert s => exact htext (InsertStatement.follows hregistry hmodel hall h)
  | update s => exact htext (UpdateStatement.follows hregistry hmodel hall h)
  | delete s => exact htext (DeleteStatement.follows hregistry hmodel hall h)

end Parts

end SqlCompose
