import SqlCompose.Proofs.Fitting
import SqlCompose.Proofs.Remapping
import SqlCompose.Proofs.Statements

/-!
# SqlCompose.Proofs.OuterOrder -- the order that is read off a text is the one of the query

A dialect that needs an ORDER BY for a page of rows can look for one in the text. It finds the
words outside of parentheses and literals. The clauses of a query have them nowhere but before
its own order, because sub-selects stand in parentheses and no name is the word ORDER.
-/

namespace SqlCompose

open Compose Lexeme Pagination Text

variable {rule : Rule} {s t : Spot} {w : List Char} {c : Char}

/-! ## Texts without an order -/

theorem isWordChar_of_toLower (h : isWordChar c.toLower = true) : isWordChar c = true := by
  have hascii : ∀ n < 128, isWordChar (Char.ofNat n).toLower = true →
      isWordChar (Char.ofNat n) = true := by decide +kernel
  by_cases hsmall : c.toNat < 128
  · have hc := hascii c.toNat hsmall
    rw [Char.ofNat_toNat] at hc
    exact hc h
  · have hself : c.toLower = c := by
      unfold Char.toLower
      split
      · rename_i hupper
        have hletter : c.toNat ≤ 'Z'.toNat := UInt32.le_iff_toNat_le.mp hupper.2
        exact absurd (Nat.lt_of_le_of_lt hletter (by decide)) hsmall
      · rfl
    rwa [hself] at h

/-- The words ORDER BY start with the word ORDER and a blank behind it. -/
theorem exists_of_opensOrderBy (h : opensOrderBy w = true) :
    ∃ (order : List Char) (blank : Char) (rest : List Char), w = order ++ blank :: rest ∧
      order.map Char.toLower = "order".toList ∧ Text.isBlank blank = true := by
  have hafter : afterOrderBy? w ≠ none := by
    rintro hnone
    simp [opensOrderBy, hnone] at h
  unfold afterOrderBy? at hafter
  split at hafter
  · rename_i horder
    simp only at hafter
    split at hafter
    · rename_i hblank
      cases hdrop : w.drop 5 with
      | nil => simp [hdrop] at hblank
      | cons blank rest =>
        refine ⟨w.take 5, blank, rest, ?_, horder, ?_⟩
        · rw [← hdrop, List.take_append_drop]
        · by_contra hmark
          simp [hdrop, trimFront, hmark] at hblank
    · exact absurd rfl hafter
  · exact absurd rfl hafter

/-- Outside of parentheses the words ORDER BY break the rule about them. -/
theorem not_walk_of_opensOrderBy (h : opensOrderBy w = true) (ordering : Bool) :
    walk .unordered ⟨0, ordering⟩ (scan false w) = none := by
  obtain ⟨order, blank, rest, rfl, horder, hblank⟩ := exists_of_opensOrderBy h
  have hword : ∀ c ∈ order, isWordChar c = true := by
    intro c hc
    have hall : "order".toList.all isWordChar = true := by decide
    exact isWordChar_of_toLower (List.all_eq_true.mp hall _ (horder ▸ List.mem_map_of_mem hc))
  have hne : order ≠ [] := by
    rintro rfl
    simp at horder
  have hmark : isWordChar blank = false := by
    apply Bool.eq_false_iff.mpr
    intro hword
    exact absurd hblank (by simp [isBlank_of_isWordChar hword])
  have hother : ∀ c, Text.isBlank c = false → blank ≠ c := by
    rintro c hc rfl
    exact absurd hblank (by simp [hc])
  -- the word and the blank behind it are lexemes of their own, as a blank ends every word
  have hscan := scan_word hword hne
  have hclosed : Closed order := closed_of_scan (by simp [hscan])
  rw [scan_append_of_closed hclosed (.inr (stops_cons hmark _)), hscan,
    scan_mark (hother '\'' (by decide)) hmark, List.singleton_append, walk_cons]
  have hgap : (Lexeme.mark blank).isGap = true := hblank
  have hfirst : step .unordered ⟨0, ordering⟩ (.word order) = some ⟨0, true⟩ := by
    have hordering : (Lexeme.word order).isWord "order" = true := beq_iff_eq.mpr horder
    simp [step, Rule.next, isGap, hordering]
  have hsecond : step .unordered ⟨0, true⟩ (.mark blank) = none := by
    simp [step, Rule.next, hgap, hother '(' (by decide), hother ')' (by decide)]
  rw [hfirst, Option.bind_some, walk_cons, hsecond, Option.bind_none]

/-- A text that keeps to the rule has no order outside of its parentheses. -/
theorem not_sortsFrom_of_walk (inWord : Bool) {quoted : Bool}
    (h : walk .unordered s (pending inWord quoted w) = some t) :
    sortsFrom inWord quoted s.depth w = false := by
  induction w generalizing s quoted inWord with
  | nil => rfl
  | cons c rest ih =>
    obtain ⟨next, hdepth, hrest⟩ := walk_pending_cons h
    rw [sortsFrom, ← hdepth, ih _ hrest, Bool.or_false]
    apply Bool.eq_false_iff.mpr
    intro hopens
    simp only [Bool.and_eq_true, Bool.not_eq_true', beq_iff_eq] at hopens
    obtain ⟨⟨⟨rfl, rfl⟩, hzero⟩, hopens⟩ := hopens
    obtain ⟨depth, ordering⟩ := s
    obtain rfl : depth = 0 := hzero
    have hnone := not_walk_of_opensOrderBy hopens ordering
    exact absurd (h.symm.trans hnone) (by simp)

theorem not_hasOuterOrderBy {a : String} (h : Conforms .unordered a.toList) :
    hasOuterOrderBy a = false := not_sortsFrom_of_walk (s := .at 0) false h.walks

/-! ## Texts with an order -/

/-- What is found in a text is found behind another one, at the place where that one ends. -/
theorem sortsFrom_append (inWord : Bool) {quoted : Bool} {v : List Char}
    (hclosed : quotedAfter quoted w = false) (h : walk rule s (pending inWord quoted w) = some t)
    (hv : ∀ inWord, sortsFrom inWord false t.depth v = true) :
    sortsFrom inWord quoted s.depth (w ++ v) = true := by
  induction w generalizing s quoted inWord with
  | nil =>
    obtain rfl : quoted = false := hclosed
    obtain rfl := eq_of_walk_pending_nil h
    exact hv inWord
  | cons c rest ih =>
    obtain ⟨next, hdepth, hrest⟩ := walk_pending_cons h
    rw [List.cons_append, sortsFrom, ← hdepth, ih _ hclosed hrest, Bool.or_true]

theorem sortsFrom_of_opensOrderBy (h : opensOrderBy w = true) : sortsFrom false false 0 w = true := by
  cases w with
  | nil => cases h
  | cons c rest => simp [sortsFrom, h]

theorem hasOuterOrderBy_append {a : String} (h : Conforms rule a.toList) (order : String) :
    hasOuterOrderBy (a ++ " ORDER BY " ++ order) = true := by
  have hopens : opensOrderBy ("ORDER BY ".toList ++ order.toList) = true := by
    have hspace : Text.isBlank ' ' = true := by decide
    have hletter : Text.isBlank 'B' = false := by decide
    have hends : isWordChar ' ' = false := by decide
    simp [opensOrderBy, afterOrderBy?, trimFront, hspace, hletter, hends]
  have hwords : ∀ inWord, sortsFrom inWord false 0 (" ORDER BY ".toList ++ order.toList) = true := by
    intro inWord
    have htext : " ORDER BY ".toList = ' ' :: "ORDER BY ".toList := by decide
    have hblank : isWordChar ' ' = false := by decide
    have hfound := sortsFrom_of_opensOrderBy hopens
    rw [htext, List.cons_append, sortsFrom, hblank]
    exact Bool.or_eq_true_iff.mpr (.inr hfound)
  unfold hasOuterOrderBy
  rw [String.append_assoc, String.toList_append, String.toList_append]
  exact sortsFrom_append (s := .at 0) false h.closed h.walks hwords

/-! ## Queries -/

/-- An order is found in the text of clauses if and only if they have one. -/
theorem SelectClauses.IsLaid.hasOuterOrderBy_eq {value : Parameter → Prop} {acc : Accumulator}
    {c : SelectClauses} (h : c.IsLaid value acc .unordered) (d : Dialect) :
    hasOuterOrderBy (sqlText d c.tokens) = c.order.isSome := by
  have hconforms : Conforms .unordered (c.unordered d).toList := (h.unordered (by decide)).conforms
  rw [c.text_eq_unordered]
  cases c.order with
  | none => simpa [optionalClause, sqlText] using not_hasOuterOrderBy hconforms
  | some order =>
    have hfound := hasOuterOrderBy_append hconforms order
    simpa [optionalClause, sqlText_cons, Token.text, ← String.append_assoc, sqlText] using hfound

/-- Names that are words but not the word ORDER, and any values. -/
def Wording.unordered : Wording := ⟨true, fun _ => True, fun _ _ => trivial⟩

instance : DecidablePred Wording.unordered.Has
  | .name s => inferInstanceAs (Decidable (IsIdentifier true s))
  | .raw _ => inferInstanceAs (Decidable False)
  | .value _ => inferInstanceAs (Decidable True)

theorem SelectQuery.detects_clauses (base : Context) (hregistry : base.registry.IsPlain)
    (hmodel : ∀ s ∈ modelNames base.model, IsIdentifier true s) {q : SelectQuery}
    (hwords : ∀ i ∈ q.ingredients, Wording.unordered.Has i)
    (hselects : ∀ i ∈ q.outline base.dialect, i.isBare = false) :
    q.outerClauses.Upholds base (Scope.IsWorded true) fun _ c =>
      hasOuterOrderBy (sqlText base.dialect c.tokens) = c.order.isSome := by
  have hrule : Wording.unordered.Obeys .unordered := ⟨by decide, fun _ => rfl⟩
  have hsource := SelectQuery.laid_source hregistry hmodel q hrule hwords
    (.inr hselects)
  rw [SelectQuery.toSource_eq] at hsource
  refine .bind hsource fun source hs => ?_
  obtain ⟨_, hs⟩ := hs
  refine .bind (.updateScope fun scope hscope => hscope.seed hs.target) fun _ _ => ?_
  refine (SelectQuery.laid_clauses hregistry hmodel q hrule hwords
    (.inr hselects) hs).mono fun acc c hc _ _ => ?_
  exact hc.hasOuterOrderBy_eq base.dialect

/-- The order that is read off the text of a query, before a page of it is taken, is the one
that the query has. The query has no raw SQL, no name is the word ORDER, and its sub-selects
stand where they are put in parentheses. -/
theorem SelectQuery.order_is_detected {c : Compiler} (hregistry : c.registry = none)
    {q : SelectQuery} (hmodel : ∀ s ∈ mappedNames c.model q.names, IsIdentifier true s)
    (hwords : ∀ i ∈ q.ingredients, Wording.unordered.Has i)
    (hselects : ∀ i ∈ q.outline c.dialect, i.isBare = false) {streams : StreamStore}
    {rendered : RenderedSelect} {t : Session}
    (h : q.renderOuter.Yields c.context (Session.initial streams) rendered t) :
    ∃ text, q.unpaged.renderOuter.Yields c.context (Session.initial streams)
        ⟨text, rendered.columns⟩ t ∧
      (∃ paged, c.dialect.page text q.limit q.offset q.sort.isSome = .ok paged ∧
        rendered.sql = c.dialect.lock paged q.lock) ∧
      (hasOuterOrderBy text = true ↔ q.sort.isSome) ∧
      ∀ limit offset, c.dialect.limitOffset text limit offset =
        c.dialect.limitOffsetOrdered text limit offset q.sort.isSome := by
  obtain ⟨text, paged, hunpaged, hpage, hsql⟩ := yields_unpaged h
  -- what is found in the text is what the clauses have, as nothing else may name an order
  have hcontext := Compiler.registry_isPlain hregistry
  have hdetects : hasOuterOrderBy text = q.sort.isSome := by
    have hnames : q.unpaged.names = q.names := by rw [names_eq, names_eq]; rfl
    have hasks : q.unpaged.renderOuter.Asks c.context q.names :=
      SelectQuery.asks_outer hcontext q.unpaged (fun _ => hnames ▸ id)
    obtain ⟨_, clauses, hclauses, hputs⟩ :=
      yields_renderOuter_clauses.mp ((Compiler.yields_restricted hasks).mpr hunpaged)
    have htext : text = sqlText c.dialect clauses.tokens :=
      congrArg RenderedSelect.sql (Puts.unpaged.mp hputs)
    obtain ⟨_, _, hclauses'⟩ := exists_clausesFrom hclauses
    obtain ⟨_, _, horder, _⟩ := clauses_of_clausesFrom hclauses'
    obtain ⟨_, _, _, hfound⟩ := SelectQuery.detects_clauses (c.restricted q.names).context
      hcontext (fun s hs => hmodel s (modelNames_restricted hs)) hwords hselects
      Scope.isWorded_root (by simp) hclauses
    rw [htext, show q.sort.isSome = q.unpaged.sort.isSome from rfl, ← horder]
    exact hfound t.parameters (.refl _)
  refine ⟨text, hunpaged, ⟨paged, hpage, hsql⟩, by rw [hdetects], fun limit offset => ?_⟩
  rw [Dialect.limitOffset, hdetects]

/-- A query for a page of a table, with a sub-select that sorts and has a page of its own. -/
def sortedWithinQuery : SelectQuery :=
  let table (name : String) : SelectQuery := SelectQuery.ofSource (.target {
    schema := none, table := name, aliasName := none, joins := [], entity := none })
  let first : SelectQuery :=
    { table "u" with sort := some (.term (.path (.ofName "b")) .asc), limit := some 1 }
  { table "t" with filter := some (.rows false (.query first)), limit := some 5 }

/-- The order of a sub-select is not taken for the one of the query around it. -/
theorem order_is_detected_of_sortedWithin :
    ∃ rendered t text,
      sortedWithinQuery.renderOuter.Yields { dialect := .new .sqlServer : Compiler }.context
        (Session.initial {}) rendered t ∧
      hasOuterOrderBy text = false ∧
      rendered.sql = text ++ " ORDER BY (SELECT NULL) OFFSET 0 ROWS FETCH NEXT 5 ROWS ONLY" := by
  have hok : (sortedWithinQuery.renderOuter.outcome
      { dialect := .new .sqlServer : Compiler }.context (Session.initial {})).1.isOk = true := by
    decide +kernel
  obtain ⟨rendered, t, h⟩ := exists_of_isOk hok
  obtain ⟨text, _, ⟨paged, hpage, hsql⟩, hdetected, _⟩ := SelectQuery.order_is_detected rfl
    (by decide) (by decide +kernel) (by decide +kernel) h
  have hunordered : hasOuterOrderBy text = false := Bool.eq_false_iff.mpr fun hfound =>
    absurd (hdetected.mp hfound) (by decide)
  have hfirst : Dialect.page (.new .sqlServer) text (some 5) none false =
      .ok (text ++ " ORDER BY (SELECT NULL)" ++ " OFFSET 0 ROWS FETCH NEXT 5 ROWS ONLY") := rfl
  have hpaged := Except.ok.inj (hfirst.symm.trans hpage)
  refine ⟨rendered, t, text, h, hunordered, ?_⟩
  rw [String.append_assoc] at hpaged
  exact hsql.trans hpaged.symm

end SqlCompose
