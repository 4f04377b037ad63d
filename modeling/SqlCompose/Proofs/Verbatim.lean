import SqlCompose.Proofs.Parentheses
import SqlCompose.Proofs.Recipes

/-!
# SqlCompose.Proofs.Verbatim -- literals of raw SQL in finished statements

Raw SQL is copied but for its question marks outside literals. When markers take
the places of placeholders, literals are not told from other text: a literal stays
as it is unless a part of it has the shape of a placeholder. Quotes are no part of
placeholders, so a literal is searched by itself.
-/

namespace SqlCompose

open Compose Placeholder

/-! ## Literals -/

/-- The rest of a literal after the quote that opens it. A quote in its text is
doubled. -/
inductive ClosesLiteral : List Char → Prop
  | quote : ClosesLiteral ['\'']
  | char {c : Char} {w : List Char} : c ≠ '\'' → ClosesLiteral w → ClosesLiteral (c :: w)
  | doubled {w : List Char} : ClosesLiteral w → ClosesLiteral ('\'' :: '\'' :: w)

/-- A single-quoted literal with its quotes. -/
inductive IsLiteral : List Char → Prop
  | opened {w : List Char} : ClosesLiteral w → IsLiteral ('\'' :: w)

/-- No part of a text has the shape of a placeholder. -/
def PlaceholderFree (w : List Char) : Prop := ∀ v ∈ w.tails, number? (v.take width) = none

instance (w : List Char) : Decidable (PlaceholderFree w) :=
  inferInstanceAs (Decidable (∀ v ∈ w.tails, _))

theorem placeholderFree_cons {c : Char} {w : List Char} :
    PlaceholderFree (c :: w) ↔ number? ((c :: w).take width) = none ∧ PlaceholderFree w := by
  unfold PlaceholderFree
  rw [List.tails, List.forall_mem_cons]

theorem ClosesLiteral.quotedAfter {w : List Char} (h : ClosesLiteral w) :
    quotedAfter true w = false := by
  induction h with
  | quote => rfl
  | char hc _ ih => rwa [SqlCompose.quotedAfter, if_neg hc]
  | doubled _ ih => exact ih

theorem ClosesLiteral.ends {w : List Char} (h : ClosesLiteral w) : ∃ body, w = body ++ ['\''] := by
  induction h with
  | quote => exact ⟨[], rfl⟩
  | @char c _ _ _ ih =>
    obtain ⟨body, rfl⟩ := ih
    exact ⟨c :: body, rfl⟩
  | doubled _ ih =>
    obtain ⟨body, rfl⟩ := ih
    exact ⟨'\'' :: '\'' :: body, rfl⟩

theorem IsLiteral.quotedAfter {w : List Char} (h : IsLiteral w) : quotedAfter false w = false := by
  cases h with
  | opened h => exact h.quotedAfter

theorem IsLiteral.ends {w : List Char} (h : IsLiteral w) : ∃ body, w = body ++ ['\''] := by
  cases h with
  | opened h =>
    obtain ⟨body, rfl⟩ := h.ends
    exact ⟨'\'' :: body, rfl⟩

theorem IsLiteral.splits {w : List Char} (h : IsLiteral w) (v : List Char) : Splits (w ++ v) := by
  cases h with
  | opened _ => exact splits_cons (by decide) _

/-! ## Searching a literal -/

theorem TextPiece.scan_of_placeholderFree {w : List Char} (h : PlaceholderFree w) :
    scan 0 w = w.map .char := by
  induction w with
  | nil => rfl
  | cons c rest ih =>
    obtain ⟨hnone, hrest⟩ := placeholderFree_cons.mp h
    simp only [scan, hnone, ih hrest, List.map_cons]

/-- A literal is searched by itself, whatever stands after it. -/
theorem TextPiece.scan_literal {w : List Char} (h : IsLiteral w) (v : List Char) :
    scan 0 (w ++ v) = scan 0 w ++ scan 0 v := by
  obtain ⟨body, rfl⟩ := h.ends
  have hquote : ∀ rest, Splits ('\'' :: rest) := fun rest => splits_cons (by decide) rest
  rw [List.append_assoc, List.singleton_append, scan_append (hquote v), scan_append (hquote []),
    scan_char (by decide), scan_char (by decide), List.append_assoc]
  rfl

namespace Accumulator

variable {acc : Accumulator} {u v w : List Char} {ps : List Parameter}

theorem fill_literal (h : IsLiteral w) (v : List Char) :
    acc.fill (w ++ v) = acc.fill w ++ acc.fill v := by
  unfold fill
  rw [TextPiece.scan_literal h, List.flatMap_append]

/-- A text without placeholders stays as it is. -/
theorem fill_of_placeholderFree (h : PlaceholderFree w) : acc.fill w = w := by
  rw [fill, TextPiece.scan_of_placeholderFree h, List.flatMap_map]
  exact List.flatMap_singleton' w

/-- A text names no parameter exactly if no part of it has the shape of a placeholder. -/
theorem named?_eq_nil_iff : acc.named? w = some [] ↔ PlaceholderFree w := by
  have hnone : ∀ {numbers : List Nat}, numbers.mapM acc.numbered? = some [] ↔ numbers = [] := by
    intro numbers
    cases numbers with
    | nil => simp
    | cons n rest => simp [List.mapM_cons, Option.bind_eq_some_iff]
  rw [named?, hnone]
  induction w with
  | nil => simp [TextPiece.scan, PlaceholderFree, number?]
  | cons c rest ih =>
    rw [placeholderFree_cons]
    simp only [TextPiece.scan]
    cases hnumber : number? ((c :: rest).take width) with
    | some n => simp [TextPiece.number?]
    | none =>
      rw [List.filterMap_cons_none rfl]
      exact ih.trans (by simp)

/-- The parameters of a text are those of its parts, if these are searched by themselves. -/
theorem named?_split (hscan : TextPiece.scan 0 (u ++ v) = TextPiece.scan 0 u ++ TextPiece.scan 0 v)
    (h : acc.named? (u ++ v) = some ps) :
    ∃ qs rs, acc.named? u = some qs ∧ acc.named? v = some rs ∧ ps = qs ++ rs := by
  unfold named? at *
  rw [hscan, List.filterMap_append, List.mapM_append] at h
  obtain ⟨qs, hqs, h⟩ := Option.bind_eq_some_iff.mp h
  obtain ⟨rs, hrs, h⟩ := Option.bind_eq_some_iff.mp h
  exact ⟨qs, rs, hqs, hrs, (Option.some.inj h).symm⟩

/-! ## Filling raw SQL -/

/-- Raw SQL is filled piece by piece. -/
theorem Fills.split {quoted : Bool} {values : List Value}
    (h : acc.Fills quoted values (u ++ v) w) :
    ∃ vs vs' x y, values = vs ++ vs' ∧ w = x ++ y ∧ acc.Fills quoted vs u x ∧
      acc.Fills (quotedAfter quoted u) vs' v y := by
  induction u generalizing quoted values w with
  | nil => exact ⟨[], values, [], w, rfl, rfl, .nil, h⟩
  | cons c rest ih =>
    cases h with
    | char hc h =>
      obtain ⟨vs, vs', x, y, rfl, rfl, hx, hy⟩ := ih h
      exact ⟨vs, vs', c :: x, y, rfl, rfl, .char hc hx, hy⟩
    | @marker value values _ name _ hvalue h =>
      obtain ⟨vs, vs', x, y, rfl, rfl, hx, hy⟩ := ih h
      exact ⟨value :: vs, vs', name ++ x, y, rfl, (List.append_assoc ..).symm, .marker hvalue hx, hy⟩

theorem Fills.closes (hw : ClosesLiteral u) {values : List Value}
    (h : acc.Fills true values u w) : w = u := by
  induction hw generalizing values w with
  | quote =>
    cases h with
    | char _ h =>
      cases h
      rfl
  | char hc _ ih =>
    cases h with
    | char _ h =>
      rw [if_neg hc] at h
      rw [ih h]
  | doubled _ ih =>
    cases h with
    | char _ h =>
      cases h with
      | char _ h => rw [ih h]

/-- Nothing is filled into a literal. -/
theorem Fills.literal (hw : IsLiteral u) {values : List Value} (h : acc.Fills false values u w) :
    w = u := by
  cases hw with
  | opened hw =>
    cases h with
    | char _ h => rw [Fills.closes hw h]

end Accumulator

/-! ## Statements with any ingredients -/

/-- All ingredients that a statement can have. -/
def Lexicon.any : Lexicon where
  plain _ := True
  raw _ := True
  value _ := True
  writable := fun _ _ => trivial
  literal := fun _ _ => trivial

/-- The raw SQL of a text stands in it with placeholders of its values. -/
theorem Lexicon.Spells.exists_fills {L : Lexicon} {acc : Accumulator} {rs : List RawSql}
    {w : List Char} (h : L.Spells acc rs w) {r : RawSql} (hr : r ∈ rs) :
    ∃ x u y, w = x ++ u ++ y ∧ acc.Fills false r.parameters r.text.toList u := by
  induction h with
  | plain _ => cases hr
  | neutral _ => cases hr
  | value _ _ => cases hr
  | @raw r' w _ hfills =>
    obtain rfl := List.mem_singleton.mp hr
    exact ⟨[], w, [], by simp, hfills⟩
  | @append rs ss u v _ _ ihu ihv =>
    rcases List.mem_append.mp hr with hr | hr
    · obtain ⟨x, u', y, rfl, hfills⟩ := ihu hr
      exact ⟨x, u', y ++ v, by simp, hfills⟩
    · obtain ⟨x, u', y, rfl, hfills⟩ := ihv hr
      exact ⟨u ++ x, u', y, by simp, hfills⟩

/-! ## Compiled statements -/

/-- A finished statement has `shown` in the place of a literal of raw SQL, and
`inner` are the parameters that are bound for it. `u` and `v` are the texts with
placeholders before and after the literal. -/
structure LiteralAt (ctx : Context) (t : Session) (before after u v shown : List Char)
    (inner : List Parameter) (statement : SqlStatement) : Prop where
  /-- The raw SQL before the literal stands right before it. -/
  before : ∃ x w values, u = x ++ w ∧ t.parameters.Fills false values before w
  /-- The raw SQL after the literal stands right after it. -/
  after : ∃ w y values, v = w ++ y ∧ t.parameters.Fills false values after w
  text : statement.sql.toList = t.parameters.fill u ++ shown ++ t.parameters.fill v
  parameters : ∃ ps qs bounds t', t.parameters.named? u = some ps ∧
    t.parameters.named? v = some qs ∧ (bindAll (ps ++ inner ++ qs)).Yields ctx t bounds t' ∧
      statement.parameters = bounds.map (·.parameter)

section Compiled

variable {c : Compiler} (hregistry : c.context.registry.IsPlain) {st : Statement} {r : RawSql}
  (hr : r ∈ raws st.ingredients) {before literal after : List Char}
  (htext : r.text.toList = before ++ literal ++ after) (hbefore : Even (before.count '\''))
  (hliteral : IsLiteral literal) {streams streams' : StreamStore} {compiled : CompiledStatement}
  (h : c.compile st streams = (.ok compiled, streams'))

include hregistry hr htext hbefore hliteral h

/-- A literal of raw SQL is filled by itself, and the parameters that it names are
bound in its place. -/
theorem compile_fills_literal :
    ∃ rendered t u v inner, st.rendered.Yields c.context (Session.initial streams) rendered t ∧
      rendered.sql.toList = u ++ literal ++ v ∧ t.parameters.named? literal = some inner ∧
      LiteralAt c.context t before after u v (t.parameters.fill literal) inner
        compiled.statement := by
  have hall : Lexicon.any.HasAll st.ingredients := by
    intro i _
    cases i
    · exact fun _ _ => trivial
    all_goals trivial
  obtain ⟨rendered, t, t', ps, bounds, hrendered, hspelled, hps, hbounds, hstatement⟩ :=
    spelled_of_compile hregistry hall (fun _ _ _ _ => trivial) h
  obtain ⟨x, raw, y, hwhole, hfills⟩ := Lexicon.Spells.exists_fills hspelled hr
  rw [htext] at hfills
  -- the raw SQL before the literal, the literal and the raw SQL after it
  obtain ⟨_, values, upTo, rest, _, rfl, hupTo, hrest⟩ := hfills.split
  obtain ⟨values', _, w, kept, _, rfl, hw, hkept⟩ := hupTo.split
  rw [quotedAfter_eq_self.mpr hbefore] at hkept
  obtain rfl := (hkept.literal hliteral).symm
  rw [quotedAfter_append, quotedAfter_eq_self.mpr hbefore, hliteral.quotedAfter] at hrest
  have hsql : rendered.sql.toList = (x ++ w) ++ (literal ++ (rest ++ y)) := by
    rw [hwhole]
    simp only [List.append_assoc]
  have hsplits := hliteral.splits (rest ++ y)
  rw [hsql] at hps
  obtain ⟨qs, others, hqs, hothers, rfl⟩ :=
    Accumulator.named?_split (TextPiece.scan_append hsplits) hps
  obtain ⟨inner, rs, hinner, hrs, rfl⟩ :=
    Accumulator.named?_split (TextPiece.scan_literal hliteral _) hothers
  rw [← List.append_assoc] at hbounds
  refine ⟨rendered, t, x ++ w, rest ++ y, inner, hrendered,
    hsql.trans (List.append_assoc (x ++ w) literal _).symm, hinner, ?_⟩
  refine ⟨⟨x, w, values', rfl, hw⟩, ⟨rest, y, values, rfl, hrest⟩, ?_, ?_⟩
  · rw [hstatement, String.toList_ofList, hsql, Accumulator.fill_append hsplits,
      Accumulator.fill_literal hliteral, List.append_assoc]
  · exact ⟨qs, rs, bounds, t', hqs, hrs, hbounds, by rw [hstatement]⟩

/-- A literal of raw SQL stays as it is in a compiled statement, without a parameter
that is bound for anything in it, exactly if no part of it has the shape of a placeholder. -/
theorem compile_keeps_literal :
    ∃ rendered t u v shown inner,
      st.rendered.Yields c.context (Session.initial streams) rendered t ∧
      rendered.sql.toList = u ++ literal ++ v ∧
      LiteralAt c.context t before after u v shown inner compiled.statement ∧
      (shown = literal ∧ inner = [] ↔ PlaceholderFree literal) := by
  obtain ⟨rendered, t, u, v, inner, hrendered, hsql, hinner, hplace⟩ :=
    compile_fills_literal hregistry hr htext hbefore hliteral h
  refine ⟨rendered, t, u, v, _, inner, hrendered, hsql, hplace, ?_, fun hfree => ?_⟩
  · rintro ⟨-, rfl⟩
    exact Accumulator.named?_eq_nil_iff.mp hinner
  · rw [Accumulator.named?_eq_nil_iff.mpr hfree, Option.some.injEq] at hinner
    exact ⟨Accumulator.fill_of_placeholderFree hfree, hinner.symm⟩

end Compiled

/-- All rows of a table whose column has a value and that fulfil a condition in raw SQL. -/
def annotatedQuery (text : String) : SelectQuery :=
  { SelectQuery.ofSource (.target {
      schema := none, table := "t", aliasName := none, joins := [], entity := none }) with
    filter := some (.junction .and [
      .compare .equal (.path (.ofName "a")) (.lit (.int 1)), .nullTest false (.sql ⟨text, []⟩)]) }

theorem compile_keeps_literal_of_lookalike :
    ∃ compiled streams' rendered t u v,
      (⟨.new .ansi, .explicitOnly, none, none, none⟩ : Compiler).compile
        (.select (annotatedQuery "':[01]?'")) {} = (.ok compiled, streams') ∧
      (Statement.select (annotatedQuery "':[01]?'")).rendered.Yields
        (⟨.new .ansi, .explicitOnly, none, none, none⟩ : Compiler).context (Session.initial {})
        rendered t ∧
      rendered.sql.toList = u ++ "':[01]?'".toList ++ v ∧
      LiteralAt (⟨.new .ansi, .explicitOnly, none, none, none⟩ : Compiler).context t [] [] u v
        "':[01]?'".toList [] compiled.statement := by
  obtain ⟨compiled, streams', h⟩ := succeeds_of_isOk ⟨.new .ansi, .explicitOnly, none, none, none⟩
    (.select (annotatedQuery "':[01]?'")) {} (by decide +kernel)
  have hliteral : IsLiteral "':[01]?'".toList := by
    refine .opened ?_
    repeat first | exact .quote | refine .char (by decide) ?_
  have hr : ⟨"':[01]?'", []⟩ ∈ raws (Statement.select (annotatedQuery "':[01]?'")).ingredients :=
    List.mem_cons_self
  have htext : "':[01]?'".toList = [] ++ "':[01]?'".toList ++ [] := by simp
  obtain ⟨rendered, t, u, v, shown, inner, hrendered, hsql, hplace, hkept⟩ :=
    compile_keeps_literal (Compiler.registry_isPlain rfl) hr htext (by decide) hliteral h
  obtain ⟨rfl, rfl⟩ := hkept.mpr (by decide)
  exact ⟨compiled, streams', rendered, t, u, v, h, hrendered, hsql, hplace⟩

/-- A literal that is a placeholder is replaced, and the parameter of that number is
bound for it once more. -/
theorem literal_is_replaced :
    IsLiteral "':[0001]'".toList ∧
    ⟨"':[0001]'", []⟩ ∈ raws (Statement.select (annotatedQuery "':[0001]'")).ingredients ∧
    ((⟨.new .ansi, .explicitOnly, none, none, none⟩ : Compiler).compile
      (.select (annotatedQuery "':[0001]'")) {}).1.toOption.map
        (fun compiled => (compiled.statement.sql, compiled.statement.parameters.length)) =
      some ("SELECT * FROM t WHERE (t.a=?) AND ('?' IS NULL)", 2) := by
  refine ⟨?_, List.mem_cons_self, by decide +kernel⟩
  refine .opened ?_
  repeat first | exact .quote | refine .char (by decide) ?_

end SqlCompose
