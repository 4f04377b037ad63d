import SqlCompose.Proofs.Entries
import SqlCompose.Proofs.Fitting
import SqlCompose.Proofs.ResultColumns

/-!
# SqlCompose.Proofs.Slots -- one entry of a list for each expression

The values of an insertion, the assignments of an update and the columns of a query stand in
lists. Each expression is one entry of its list, because it has no comma outside of parentheses.
The items of a list literal are entries of their own.
-/

namespace SqlCompose

open Compose Lexeme

variable {base : Context} {W : Wording} {value : Parameter → Prop}
  {acc : Accumulator} {a b : String} {n : Nat} {texts : List String} {d : Dialect}

/-! ## Expressions -/

/-- Where no comma may stand, names may be any words. -/
theorem Wording.strict_of_uncut (W : Wording) (h : Rule.uncut = .unordered) : W.strict = true :=
  absurd h (by decide)

/-- How many values an expression has in a list: one for each item of a list literal. -/
def Expression.width : Expression → Nat
  | .literal ⟨.list items, _⟩ => items.length
  | _ => 1

/-- A value that is no list has no comma outside of parentheses, and a list literal is a row of
its items. -/
theorem row_literal (hregistry : base.registry.IsPlain) (l : Literal) :
    l.resolveSql.Upholds base (Scope.IsWorded W.strict) fun acc text =>
      Row (LaysText W.value acc .uncut) (max 1 (Expression.literal l).width) text := by
  refine .resolveText hregistry fun _ => ?_
  obtain ⟨value, temporal⟩ := l
  unfold Literal.sql
  cases value with
  | list items =>
    refine .bind (gives_placeholders .uncut hregistry temporal items) fun texts _ => ?_
    refine .pure fun acc htexts => ?_
    have hwidth : (Expression.literal ⟨.list items, temporal⟩).width = texts.length := htexts.1.symm
    rw [hwidth]
    cases texts with
    -- A list without items leaves an empty text, which takes a place of its own.
    | nil => exact .one (.fixed (by decide))
    | cons first rest =>
      have hrow := Row.of_texts htexts.2 (List.cons_ne_nil first rest)
      rwa [Nat.max_eq_right hrow.pos]
  | _ => exact (gives_placeholder .uncut hregistry _).mono fun _ _ htext => .one htext

section Slots

variable (hregistry : base.registry.IsPlain)
  (hmodel : ∀ s ∈ modelNames base.model, IsIdentifier W.strict s)

include hregistry hmodel

/-- A value has as many entries as its width. -/
theorem row_value {e : Expression} (hvalue : e.kind.isValue = true)
    (h : ∀ i ∈ e.ingredients, W.Has i) :
    (Expression.toSql e).Upholds base (Scope.IsWorded W.strict) fun acc text =>
      Row (LaysText W.value acc .uncut) (max 1 e.width) (enclosed e.isQuery text) := by
  cases e with
  | path p =>
    rw [Expression.ingredients, Wording.has_named] at h
    rw [Expression.toSql]
    refine .resolveText hregistry fun _ => (dotted_path hmodel h).mono fun _ _ htext => ?_
    exact .one (.dotted htext W.strict_of_uncut)
  | function f =>
    rw [Expression.toSql]
    refine .resolveText hregistry fun hvalid => ?_
    exact (FunctionCall.laid hregistry hmodel f h hvalid).mono fun _ _ htext => .one htext
  | literal l =>
    rw [Expression.toSql]
    exact row_literal hregistry l
  | parameter p =>
    rw [Expression.ingredients, List.forall_mem_cons] at h
    rw [Expression.toSql]
    refine .resolveText hregistry fun _ => (Upholds.addParameter p).mono fun _ _ hname => ?_
    exact .one (.value h.1 hname)
  | sql r =>
    rw [Expression.ingredients, List.forall_mem_cons] at h
    exact h.1.elim
  | query q =>
    refine (Expression.laid hregistry hmodel (.query q) W.obeys_anything h (.inl rfl)).mono ?_
    exact fun _ _ htext => .one (.enclosed nofun fun _ => htext)
  | _ => cases hvalue

/-- The table that is written to is made of words. -/
theorem dotted_writtenTable {e : Expression} (h : ∀ i ∈ e.ingredients, W.Has i) :
    (writtenTable e).Upholds base (Scope.IsWorded W.strict) fun _ table =>
      IsDotted W.strict (table.text base.dialect) := by
  refine .bind (Expression.laid_source hregistry hmodel e W.obeys_anything h
    (.inl rfl)) fun source hsource => ?_
  obtain ⟨_, hsource⟩ := hsource
  refine .bind (.updateScope fun scope hscope => hscope.seedUnaliased hsource.target) fun _ _ => ?_
  exact .pure fun _ _ _ => isDotted_qualified hsource.target.schema hsource.target.table

omit hregistry in
theorem isIdentifier_assignedColumn {p : Path} (h : ∀ s ∈ p.names, IsIdentifier W.strict s) :
    (assignedColumn p).Upholds base (Scope.IsWorded W.strict) fun _ column =>
      IsIdentifier W.strict column := by
  refine .bind (.ofResult (P := fun _ _ => True) fun _ _ _ => trivial) fun _ _ => ?_
  split
  · exact .refuse _
  · refine .bind (.lookup (P := fun _ => True) fun _ _ => trivial) fun root _ => ?_
    refine (Upholds.column root p.name).mono fun _ _ hcolumn _ _ => ?_
    exact hcolumn ▸ isIdentifier_mappedColumn hmodel root (h _ p.name_mem_names)

theorem row_assignedValue {a : Assignment} (hvalid : a.validate = .ok ())
    (h : ∀ i ∈ a.ingredients, W.Has i) :
    (assignedValue a.value).Upholds base (Scope.IsWorded W.strict) fun acc text =>
      Row (LaysText W.value acc .uncut) (max 1 a.value.width) text := by
  rw [Assignment.ingredients, List.forall_mem_append] at h
  rw [Assignment.validate, ok_then_iff, ok_if_iff] at hvalid
  refine .bind (row_value hregistry hmodel hvalid.2.1 h.2) fun sql _ => ?_
  exact .pure fun _ hsql => hsql

/-- A column, an equals sign and a value. -/
theorem row_assignment {a : Assignment} (hvalid : a.validate = .ok ())
    (h : ∀ i ∈ a.ingredients, W.Has i) :
    (assignment a).Upholds base (Scope.IsWorded W.strict) fun acc text =>
      Row (LaysText W.value acc .uncut) (max 1 a.value.width) text := by
  have hcolumn : ∀ s ∈ a.column.names, IsIdentifier W.strict s := by
    rw [Assignment.ingredients, List.forall_mem_append, Wording.has_named] at h
    exact h.1
  refine .bind (isIdentifier_assignedColumn hmodel hcolumn) fun column _ => ?_
  refine .bind (row_assignedValue hregistry hmodel hvalid h) fun text _ => ?_
  refine .write fun acc htext hcolumn => ?_
  have hname : LaysText W.value acc .uncut column := .name hcolumn W.strict_of_uncut
  have hrow := htext.prefixed (b := column ++ "=") fun text htext =>
    hname.join (f := "=") (by decide) htext
  simpa [sqlText_cons, Token.text, sqlText, ← String.append_assoc] using hrow

theorem row_selection {s : Selection} (hvalid : s.validate = .ok ()) (h : ∀ i ∈ s.ingredients, W.Has i) :
    (Selection.toSql s).Upholds base (Scope.IsWorded W.strict) fun acc sql =>
      Row (LaysText W.value acc .uncut) (max 1 s.expr.width) sql := by
  obtain ⟨expr, aliasName⟩ := s
  rw [Selection.ingredients, List.forall_mem_append] at h
  rw [Selection.validate, ok_if_iff] at hvalid
  rw [Selection.toSql]
  refine .bind (row_value hregistry hmodel hvalid.1 h.2) fun sql _ => ?_
  exact .pure fun _ hsql => hsql

theorem row_selections {selections : List Selection}
    (hvalid : validateSelections selections = .ok ())
    (h : ∀ i ∈ Selection.allIngredients selections, W.Has i) :
    (Selection.allToSql selections).Upholds base (Scope.IsWorded W.strict) fun acc sqls =>
      List.Forall₂ (fun s sql => Row (LaysText W.value acc .uncut) (max 1 s.expr.width) sql)
        selections sqls := by
  induction selections with
  | nil => exact .pure fun _ => .nil
  | cons s rest ih =>
    rw [Selection.allIngredients, List.forall_mem_append] at h
    rw [validateSelections, ok_then_iff] at hvalid
    rw [Selection.allToSql]
    refine .bind (row_selection hregistry hmodel hvalid.1 h.1) fun sql _ => ?_
    refine .bind (ih hvalid.2 h.2) fun sqls _ => ?_
    exact .pure fun _ hsqls hsql => .cons hsql hsqls

omit hregistry hmodel in
/-- The alias of a column belongs to the last entry of its expression. -/
theorem row_columns_of_sqls {selections : List Selection} {sqls : List String}
    (h : List.Forall₂ (fun s sql => Row (LaysText W.value acc .uncut) (max 1 s.expr.width) sql)
      selections sqls) {aliases : List (Option String)} (hlength : aliases.length = sqls.length)
    (haliases : ∀ o ∈ aliases, ∀ a ∈ o, IsIdentifier W.strict a) :
    List.Forall₂ (fun s column =>
        Row (LaysText W.value acc .uncut) (max 1 s.expr.width) (ProjectedColumn.text column))
      selections (List.zipWith ProjectedColumn.mk sqls aliases) := by
  induction h generalizing aliases with
  | nil => exact .nil
  | cons hsql _ ih =>
    cases aliases with
    | nil => simp at hlength
    | cons o aliases =>
      obtain ⟨ho, hothers⟩ := List.forall_mem_cons.mp haliases
      refine .cons ?_ (ih (by simpa using hlength) hothers)
      cases o with
      | none => exact hsql
      | some a =>
        have hname : LaysText W.value acc .uncut a := .name (ho a rfl) W.strict_of_uncut
        have hrow := hsql.suffixed (b := " AS " ++ a) fun text htext => by
          rw [← String.append_assoc]
          exact htext.join (f := " AS ") (by decide) hname
        rwa [← String.append_assoc] at hrow

/-- The columns of a projection are rows of the widths of its selections. -/
theorem row_columns {p : Projection} (h : ∀ i ∈ p.ingredients, W.Has i) :
    (Projection.toColumns p).Upholds base (Scope.IsWorded W.strict) fun acc columns =>
      List.Forall₂ (fun s column =>
          Row (LaysText W.value acc .uncut) (max 1 s.expr.width) (ProjectedColumn.text column))
        p.selections columns := by
  obtain ⟨selections, aliasMode, converter⟩ := p
  rw [Projection.toColumns]
  refine .bind (.ofResult (P := fun _ _ => Projection.validate ⟨selections, aliasMode, converter⟩ = .ok ())
    fun _ hvalid _ => hvalid) fun _ hvalid => ?_
  obtain ⟨_, hvalid⟩ := hvalid
  rw [Projection.validate, ok_unless_iff] at hvalid
  refine .bind .aliasMode fun mode _ => .bind .sequence fun n _ => ?_
  refine .bind (row_selections hregistry hmodel hvalid.2 h) fun sqls _ => ?_
  refine .pure fun acc hsqls _ _ _ => row_columns_of_sqls hsqls ?_ ?_
  · rw [Selection.length_aliases, hsqls.length_eq]
  · exact Selection.isIdentifier_aliases _ _ _ (Selection.isIdentifier_explicitAliases h)

theorem row_outerClauses {q : SelectQuery} {p : Projection} (hp : q.projection = some p)
    (h : ∀ i ∈ q.ingredients, W.Has i) :
    q.outerClauses.Upholds base (Scope.IsWorded W.strict) fun acc c =>
      List.Forall₂ (fun s column =>
          Row (LaysText W.value acc .uncut) (max 1 s.expr.width) (ProjectedColumn.text column))
        p.selections c.columns := by
  rw [SelectQuery.ingredients_eq, List.forall_mem_append, List.forall_mem_append,
    List.forall_mem_append] at h
  obtain ⟨source, distinct, projection, filter, sort, limit, offset, lock⟩ := q
  obtain rfl : projection = some p := hp
  obtain ⟨⟨⟨hprojection, hsource⟩, hfilter⟩, hsort⟩ := h
  -- the other clauses stand outside of the list and may have commas as they like
  have hcondition := Filter.laid_condition hregistry hmodel filter
    W.obeys_anything hfilter (.inl rfl)
  have horder := SortOrder.laid_order hregistry hmodel sort
    W.obeys_anything hsort (.inl rfl)
  have hcolumns : (projectedColumns (some p)).Upholds base
      (Scope.IsWorded W.strict) fun acc columns =>
        List.Forall₂ (fun s column =>
            Row (LaysText W.value acc .uncut) (max 1 s.expr.width) (ProjectedColumn.text column))
          p.selections columns :=
    row_columns hregistry hmodel hprojection
  refine .bind (Expression.laid_source hregistry hmodel source W.obeys_anything
    hsource (.inl rfl)) fun s hs => ?_
  obtain ⟨_, hs⟩ := hs
  refine .bind (.updateScope fun scope hscope => hscope.seed hs.target) fun _ _ => ?_
  refine (SelectQuery.upholds_clauses (q := ⟨source, distinct, some p, filter, sort, limit, offset, lock⟩)
    hregistry W.obeys_anything hs hcolumns hcondition horder).mono ?_
  exact fun _ c hc _ _ => hc.2.1

end Slots

/-! ## Markers -/

/-- The text around a marker has no comma outside of parentheses. -/
theorem Parameter.conforms_marker {p : Parameter} (h : ∀ t ∈ p.template, Conforms .uncut t.text.toList)
    {rule : Rule} (hrule : rule ≠ .unordered) : Conforms rule p.marker.toList := by
  have hbare : ∀ rule ≠ Rule.unordered, Conforms rule bareMarker.toList := by decide
  unfold Parameter.marker
  cases htemplate : p.template with
  | none => exact hbare rule hrule
  | some t =>
    have ht := h t htemplate
    simp only [t.fill_bareMarker]
    cases rule with
    | anything => exact ht.anything
    | uncut => exact ht
    | unordered => exact absurd rfl hrule

/-- Names that are words, and values whose markers have no comma outside of parentheses. -/
def Wording.uncut : Wording where
  strict := false
  value p := ∀ t ∈ p.template, Conforms .uncut t.text.toList
  literal := Literal.template_of_all fun k kind => by cases k <;> cases kind <;> decide +kernel

instance : DecidablePred Wording.uncut.Has
  | .name s => inferInstanceAs (Decidable (IsIdentifier false s))
  | .raw _ => inferInstanceAs (Decidable False)
  | .value p => inferInstanceAs (Decidable (∀ t ∈ p.template, Conforms .uncut t.text.toList))

namespace Accumulator

/-- A text with the markers of its placeholders. -/
def settled (acc : Accumulator) (a : String) : String := String.ofList (acc.fill a.toList)

/-- Markers take the places of the placeholders of a text whatever stands behind it. -/
def SettlesText (acc : Accumulator) (a : String) : Prop :=
  ∃ ps, acc.Settles a.toList (acc.settled a).toList ps

theorem Settles.text {ps : List Parameter} (h : acc.Settles a.toList b.toList ps) :
    acc.SettlesText a ∧ acc.settled a = b := by
  have heq : acc.settled a = b := by rw [settled, h.whole.1, String.ofList_toList]
  exact ⟨⟨ps, heq ▸ h⟩, heq⟩

theorem settled_of_noColon (h : NoColon a) : acc.settled a = a := (Settles.text (.of_no_colon h)).2

namespace SettlesText

theorem of_noColon (h : NoColon a) : acc.SettlesText a := (Settles.text (.of_no_colon h)).1

theorem settled_append (h : acc.SettlesText a) (b : String) :
    acc.settled (a ++ b) = acc.settled a ++ acc.settled b := by
  obtain ⟨_, h⟩ := h
  unfold settled at h ⊢
  rw [String.toList_append, h.fill, String.toList_ofList, String.ofList_append]

theorem append (ha : acc.SettlesText a) (hb : acc.SettlesText b) : acc.SettlesText (a ++ b) := by
  have heq := ha.settled_append b
  obtain ⟨_, ha⟩ := ha
  obtain ⟨_, hb⟩ := hb
  have hboth := ha.append hb
  rw [← String.toList_append, ← String.toList_append, ← heq] at hboth
  exact ⟨_, hboth⟩

/-- Text without colons stays as it is between two other texts. -/
theorem between (ha : acc.SettlesText a) {f : String} (hf : NoColon f) (b : String) :
    acc.settled (a ++ f ++ b) = acc.settled a ++ f ++ acc.settled b := by
  rw [(ha.append (of_noColon hf)).settled_append, ha.settled_append, settled_of_noColon hf]

/-- Markers take the places of placeholders in each text of a list. -/
theorem intercalate (h : ∀ text ∈ texts, acc.SettlesText text) :
    acc.SettlesText (", ".intercalate texts) ∧
      acc.settled (", ".intercalate texts) = ", ".intercalate (texts.map acc.settled) := by
  induction texts with
  | nil => exact ⟨of_noColon (by decide), settled_of_noColon (by decide)⟩
  | cons first rest ih =>
    obtain ⟨hfirst, hrest⟩ := List.forall_mem_cons.mp h
    cases rest with
    | nil => exact ⟨by simpa using hfirst, by simp⟩
    | cons next rest =>
      obtain ⟨hlist, heq⟩ := ih hrest
      have hcomma : acc.SettlesText (first ++ ", ") := hfirst.append (of_noColon (by decide))
      rw [List.map_cons, List.map_cons, String.intercalate_cons_cons, String.intercalate_cons_cons]
      refine ⟨hcomma.append hlist, ?_⟩
      rw [hfirst.between (by decide), heq]
      rfl

end SettlesText

end Accumulator

/-- A row stays one when markers take the places of placeholders. -/
theorem Row.settles (h : Row (LaysText Wording.uncut.value acc .uncut) n a) :
    acc.SettlesText a ∧ Row (fun a => Conforms .uncut a.toList) n (acc.settled a) := by
  have hmarker : ∀ p, Wording.uncut.value p → ∀ rule ≠ Rule.unordered, Conforms rule p.marker.toList :=
    fun p hp rule hrule => Parameter.conforms_marker hp hrule
  -- One text at a time: its marker has no comma outside, so neither has the settled text.
  have hone : ∀ a, LaysText Wording.uncut.value acc .uncut a →
      acc.SettlesText a ∧ Conforms .uncut (acc.settled a).toList := by
    intro a ha
    obtain ⟨out, ps, hsettles, hconforms⟩ := Lays.settles hmarker ha (by decide)
    rw [← String.toList_ofList (l := out)] at hsettles hconforms
    obtain ⟨htext, heq⟩ := hsettles.text
    exact ⟨htext, heq ▸ hconforms⟩
  induction h with
  | one ha => exact ⟨(hone _ ha).1, .one (hone _ ha).2⟩
  | @cons a b n ha _ ih =>
    obtain ⟨htext, hconforms⟩ := hone _ ha
    have hcomma : acc.SettlesText (a ++ ", ") :=
      htext.append (Accumulator.SettlesText.of_noColon (by decide))
    refine ⟨hcomma.append ih.1, ?_⟩
    rw [htext.between (by decide)]
    exact .cons hconforms ih.2

end SqlCompose
