import SqlCompose.Proofs.Binding
import SqlCompose.Proofs.Parentheses
import SqlCompose.Proofs.Prepared
import SqlCompose.Proofs.Recipes

/-!
# SqlCompose.Proofs.Markers -- as many bind markers as parameters

Every placeholder becomes the marker of one parameter, and no other piece of a
text has a marker of its own. Because no piece leaves a literal open, each marker
stands outside literals wherever its piece comes to stand.
-/

namespace SqlCompose

open Compose Placeholder

/-! ## Ingredients that agree with their markers -/

/-- The text around a marker has one marker, and leaves no literal open. -/
def MarkerTemplate.IsBalanced (t : MarkerTemplate) : Prop :=
  markers t.text.toList = 1 ∧ Even (t.text.toList.count '\'')

instance (t : MarkerTemplate) : Decidable t.IsBalanced :=
  inferInstanceAs (Decidable (_ ∧ _))

/-- Names have neither marks nor quotes, raw SQL leaves no literal open and has no
colon, and so does the text around a marker, which it has once. -/
def Ingredient.IsBalanced : Ingredient → Prop
  | .name s => Unmarked s
  | .raw r => NoColon r.text ∧ Even (r.text.toList.count '\'')
  | .value p => ∀ t ∈ p.template, t.IsBalanced

instance (i : Ingredient) : Decidable i.IsBalanced :=
  match i with
  | .name s => inferInstanceAs (Decidable (Unmarked s))
  | .raw r => inferInstanceAs (Decidable (NoColon r.text ∧ Even (r.text.toList.count '\'')))
  | .value p => inferInstanceAs (Decidable (∀ t ∈ p.template, t.IsBalanced))

/-- The texts around the markers of literals are those of the dialect for temporal kinds. -/
theorem Literal.template_of_all {P : MarkerTemplate → Prop}
    (hall : ∀ (k : DialectKind) (kind : TemporalKind), ∀ text ∈ k.vendor.temporalTemplate kind,
      P ⟨text, 0⟩) (d : Dialect) (l : Literal) : ∀ t ∈ (l.parameter d).template, P t := by
  intro t ht
  unfold Literal.parameter at ht
  cases hkind : l.temporal with
  | none => simp [hkind, Parameter.ofValue] at ht
  | some kind =>
    cases htemplate : d.temporalTemplate kind with
    | none => simp [hkind, htemplate, Parameter.ofValue, Parameter.withTemporal] at ht
    | some template =>
      simp only [hkind, htemplate, Parameter.withTemplate, Option.mem_def, Option.some.injEq] at ht
      obtain ⟨text, htext, rfl⟩ := Option.map_eq_some_iff.mp htemplate
      exact ht ▸ hall d.kind kind text htext

/-- The markers of literals are those of the dialect. -/
theorem Literal.isBalanced_parameter (d : Dialect) (l : Literal) :
    ∀ t ∈ (l.parameter d).template, t.IsBalanced := by
  refine Literal.template_of_all (fun k kind => ?_) d l
  cases k <;> cases kind <;> decide +kernel

/-- The ingredients of statements whose markers can be counted. -/
def Lexicon.balanced : Lexicon where
  plain c := isMark c = false
  raw r := NoColon r.text ∧ Even (r.text.toList.count '\'')
  value p := ∀ t ∈ p.template, t.IsBalanced
  writable := fun _ h => h
  literal := Literal.isBalanced_parameter

/-! ## Pieces of a text -/

/-- The marker of a template is the template itself. -/
theorem MarkerTemplate.fill_bareMarker (t : MarkerTemplate) : t.fill bareMarker = t.text := by
  have hchar : ∀ c : Char, (if c = '?' then bareMarker.toList else [c]) = [c] := by
    intro c
    split
    · subst c
      rfl
    · rfl
  simp only [MarkerTemplate.fill, hchar, List.flatMap_singleton', String.ofList_toList]

theorem Parameter.markers_marker {p : Parameter} (h : ∀ t ∈ p.template, t.IsBalanced) :
    quotedAfter false p.marker.toList = false ∧ markers p.marker.toList = 1 := by
  unfold Parameter.marker
  cases htemplate : p.template with
  | none => decide
  | some t =>
    obtain ⟨hone, heven⟩ := h t htemplate
    simp only [t.fill_bareMarker]
    exact ⟨quotedAfter_eq_self.mpr heven, hone⟩

namespace Accumulator

variable {acc : Accumulator} {u v w x y : List Char} {ps qs : List Parameter}

/-- Before any other text, a text is filled into another one and its placeholders
name these parameters. -/
structure Settles (acc : Accumulator) (w out : List Char) (ps : List Parameter) : Prop where
  fill : ∀ v, acc.fill (w ++ v) = out ++ acc.fill v
  named : ∀ {v qs}, acc.named? v = some qs → acc.named? (w ++ v) = some (ps ++ qs)

namespace Settles

theorem nil : acc.Settles [] [] [] := ⟨fun _ => rfl, fun h => h⟩

theorem append (hu : acc.Settles u x ps) (hv : acc.Settles v y qs) :
    acc.Settles (u ++ v) (x ++ y) (ps ++ qs) := by
  constructor
  · intro rest
    rw [List.append_assoc, hu.fill, hv.fill, List.append_assoc]
  · intro rest rs hrest
    rw [List.append_assoc, List.append_assoc]
    exact hu.named (hv.named hrest)

theorem char {c : Char} (hc : c ≠ ':') (h : acc.Settles w x ps) :
    acc.Settles (c :: w) (c :: x) ps := by
  constructor
  · intro rest
    rw [List.cons_append, fill_char hc, h.fill, List.cons_append]
  · intro rest rs hrest
    rw [List.cons_append, named?_char hc]
    exact h.named hrest

theorem of_no_colon (h : ':' ∉ w) : acc.Settles w w [] := by
  induction w with
  | nil => exact nil
  | cons c rest ih =>
    rw [List.mem_cons, not_or] at h
    exact char (fun hc => h.1 hc.symm) (ih h.2)

theorem value {p : Parameter} (h : acc.Writes w p) : acc.Settles w p.marker.toList [p] :=
  ⟨fun _ => fill_value h, fun hv => named?_value h hv⟩

/-- Filled by itself. -/
theorem whole (h : acc.Settles w x ps) : acc.fill w = x ∧ acc.named? w = some ps := by
  have hfill := h.fill []
  have hnamed : acc.named? (w ++ []) = some (ps ++ []) := h.named rfl
  rw [List.append_nil] at hfill hnamed
  rw [List.append_nil] at hnamed
  exact ⟨hfill.trans (List.append_nil x), hnamed⟩

end Settles

/-- Raw SQL gets a marker in the place of each question mark, so its text comes back. -/
theorem Fills.settles {quoted : Bool} {values : List Value} (h : acc.Fills quoted values u w)
    (hcolon : ':' ∉ u) : acc.Settles w u (values.map Parameter.ofValue) := by
  induction h with
  | nil => exact .nil
  | char _ _ ih =>
    rw [List.mem_cons, not_or] at hcolon
    exact .char (fun hc => hcolon.1 hc.symm) (ih hcolon.2)
  | @marker v values cs u w hvalue _ ih =>
    have hmarker : (Parameter.ofValue v).marker.toList = ['?'] :=
      (by decide : bareMarker.toList = ['?'])
    have hsettles := (Settles.value hvalue).append (ih fun hc => hcolon (List.mem_cons_of_mem _ hc))
    rwa [hmarker] at hsettles

/-- Raw SQL has as many markers as values. -/
theorem Fills.markersFrom {quoted : Bool} {values : List Value} (h : acc.Fills quoted values u w) :
    markersFrom quoted u = values.length := by
  induction h with
  | nil => rfl
  | char hc _ ih => rw [SqlCompose.markersFrom, if_neg hc, ih, Nat.zero_add]
  | marker _ _ ih =>
    rw [SqlCompose.markersFrom, if_pos ⟨rfl, rfl⟩, if_neg (by decide), ih, List.length_cons,
      Nat.add_comm]

end Accumulator

/-- A balanced text is filled into one that leaves no literal open and has a marker
for each of its placeholders. -/
theorem Lexicon.Spells.settles {acc : Accumulator} {rs : List RawSql} {w : List Char}
    (h : Lexicon.balanced.Spells acc rs w) :
    ∃ out ps, acc.Settles w out ps ∧ quotedAfter false out = false ∧ markers out = ps.length := by
  have hneutral : ∀ {w : List Char}, Neutral w →
      ∃ out ps, acc.Settles w out ps ∧ quotedAfter false out = false ∧ markers out = ps.length :=
    fun {w} hw => ⟨w, [], .of_no_colon hw.1, hw.2.1, hw.2.2⟩
  induction h with
  | plain hw => exact hneutral (neutral_of_unmarked hw)
  | neutral hw => exact hneutral hw
  | value hp hwrites =>
    obtain ⟨hquoted, hone⟩ := Parameter.markers_marker hp
    exact ⟨_, _, .value hwrites, hquoted, hone⟩
  | raw hr hfills =>
    refine ⟨_, _, hfills.settles hr.1, quotedAfter_eq_self.mpr hr.2, ?_⟩
    rw [markers, hfills.markersFrom, List.length_map]
  | append _ _ ihu ihv =>
    obtain ⟨x, ps, hx, hxquoted, hxmarkers⟩ := ihu
    obtain ⟨y, qs, hy, hyquoted, hymarkers⟩ := ihv
    refine ⟨x ++ y, ps ++ qs, hx.append hy, ?_, ?_⟩
    · rw [quotedAfter_append, hxquoted, hyquoted]
    · rw [markers, markersFrom_append, hxquoted, List.length_append, ← hxmarkers, ← hymarkers]
      rfl

/-! ## Compiled statements -/

/-- A compiled statement has as many bind markers outside literals as parameters. -/
theorem compile_balances_markers {c : Compiler} (hregistry : c.registry = none) {st : Statement}
    (hingredients : ∀ i ∈ st.ingredients, i.IsBalanced)
    (hmodel : ∀ name ∈ mappedNames c.model st.names, Unmarked name)
    {streams streams' : StreamStore} {compiled : CompiledStatement}
    (h : c.compile st streams = (.ok compiled, streams')) :
    markers compiled.statement.sql.toList = compiled.statement.parameters.length := by
  have hall : Lexicon.balanced.HasAll st.ingredients := by
    intro i hi
    have hbalanced := hingredients i hi
    cases i <;> exact hbalanced
  have hcontext := Compiler.registry_isPlain hregistry
  rw [← Compiler.compile_restricted hcontext] at h
  obtain ⟨rendered, t, u, ps, bounds, _, htext, hps, hbounds, hstatement⟩ :=
    spelled_of_compile (c := c.restricted st.names) hcontext hall
      (fun name hname => hmodel name (modelNames_restricted hname)) h
  obtain ⟨out, ps', hsettles, _, hmarkers⟩ := Lexicon.Spells.settles htext
  obtain ⟨hfill, hnamed⟩ := hsettles.whole
  rw [hps, Option.some.injEq] at hnamed
  subst hnamed
  rw [hstatement, String.toList_ofList, hfill, hmarkers, List.length_map, length_bindAll hbounds]

/-- A query with question marks in a literal of raw SQL, in the place of its value
and in the text around a marker. The raw SQL stands behind the quoted format of a
function. -/
def searchedQuery : SelectQuery :=
  let born : Expression := .sql ⟨"coalesce(born, '?', ?)", [.int 4]⟩
  let given : Parameter := (Parameter.ofValue (.string "2001")).withTemplate ⟨"year(?, 'Y')", 1⟩
  { SelectQuery.ofSource (.target {
      schema := none, table := "t", aliasName := none, joins := [], entity := none }) with
    filter := some (.compare .less (.function ⟨.year, [born], false⟩) (.parameter given))
    limit := some 5 }

theorem compile_balances_markers_of_searched :
    ∃ compiled streams', (∀ i ∈ (Statement.select searchedQuery).ingredients, i.IsBalanced) ∧
      (⟨.new .sqlite, .explicitOnly, none, none, none⟩ : Compiler).compile (.select searchedQuery) {} =
        (.ok compiled, streams') ∧
      markers compiled.statement.sql.toList = compiled.statement.parameters.length := by
  obtain ⟨compiled, streams', h⟩ := succeeds_of_isOk ⟨.new .sqlite, .explicitOnly, none, none, none⟩
    (.select searchedQuery) {} (by decide +kernel)
  have hingredients : ∀ i ∈ (Statement.select searchedQuery).ingredients, i.IsBalanced := by
    decide +kernel
  exact ⟨compiled, streams', hingredients, h,
    compile_balances_markers rfl hingredients (by decide) h⟩

end SqlCompose
