import SqlCompose.Proofs.Leaves

/-!
# SqlCompose.Proofs.Words -- the words around operands

Operands keep what they show when words and marks are written around them. Each
theorem is about one way to put tokens together, and says what the text shows if
the finished pieces show their items.
-/

namespace SqlCompose

open Placeholder

variable {plain : Char → Prop} {select : SelectQuery → List Char → Prop} {d : Dialect}
  {acc : Accumulator}

/-! ## Texts of tokens -/

theorem toList_sqlText (d : Dialect) (tokens : List Token) :
    (sqlText d tokens).toList = tokens.flatMap fun t => (t.text d).toList := by
  rw [sqlText, String.toList_join, List.flatMap_map]

theorem toList_sqlText_append (d : Dialect) (a b : List Token) :
    (sqlText d (a ++ b)).toList = (sqlText d a).toList ++ (sqlText d b).toList := by
  simp only [toList_sqlText, List.flatMap_append]

theorem sqlText_append (d : Dialect) (a b : List Token) :
    sqlText d (a ++ b) = sqlText d a ++ sqlText d b := by
  rw [← String.toList_inj, String.toList_append, toList_sqlText_append]

theorem sqlText_cons (d : Dialect) (t : Token) (tokens : List Token) :
    sqlText d (t :: tokens) = t.text d ++ sqlText d tokens := by
  rw [← String.toList_inj, String.toList_append, toList_sqlText, List.flatMap_cons, toList_sqlText]

theorem sqlText_commaSeparated (d : Dialect) (texts : List String) :
    sqlText d (commaSeparated texts) = ", ".intercalate texts := by
  rw [← String.toList_inj, toList_sqlText]
  induction texts with
  | nil => rfl
  | cons text rest ih =>
    cases rest with
    | nil => simp [commaSeparated, Token.text]
    | cons next rest =>
      rw [String.intercalate_cons_cons]
      simp only [String.toList_append, ← ih, commaSeparated, List.flatMap_cons, Token.text]
      simp

/-- Every dialect writes these tokens alike. -/
theorem Token.text_of_fixed (d d' : Dialect) {t : Token} (h : t ∈ Token.fixed) :
    t.text d = t.text d' := by
  cases t <;> first | rfl | simp [Token.fixed] at h

/-- The words and signs that every dialect writes alike mean nothing of their own. -/
theorem unmarked_fixed (d : Dialect) {t : Token} (h : t ∈ Token.fixed) : Unmarked (t.text d) := by
  have hfixed : ∀ t ∈ Token.fixed, Unmarked (t.text (Dialect.new .ansi)) := by decide
  rw [Token.text_of_fixed d (Dialect.new .ansi) h]
  exact hfixed t h

theorem noColon_fixed (d : Dialect) {t : Token} (h : t ∈ Token.fixed) : NoColon (t.text d) :=
  (unmarked_fixed d h).noColon

/-- The character that escapes is written as a literal, in every dialect the same one. -/
theorem quote_escapeChar (d : Dialect) :
    d.vendor.quote (String.singleton Like.escapeChar) = "'!'" := by
  have hall : ∀ kind : DialectKind,
      kind.vendor.quote (String.singleton Like.escapeChar) = "'!'" := by
    intro kind
    cases kind <;> decide
  exact hall d.kind

theorem neutral_quote (d : Dialect) :
    Neutral (d.vendor.quote (String.singleton Like.escapeChar)).toList := by
  rw [quote_escapeChar]
  decide

theorem noColon_quote (d : Dialect) : NoColon (d.vendor.quote (String.singleton Like.escapeChar)) :=
  (neutral_quote d).noColon

/-- In every dialect small letters are made by a call. -/
theorem function_lower (d : Dialect) : d.function .lower = .call "LOWER" := by
  obtain ⟨kind, known⟩ := d
  cases kind <;> rfl

/-! ## Filters -/

namespace Reading

variable {r : Reading}

theorem Shows.no_tokens : r.Shows (sqlText d []).toList [] := Shows.nil

/-- A fixed word before other tokens. -/
theorem Shows.fixed (hplain : Admits r.plain) {t : Token} (ht : t ∈ Token.fixed)
    {tokens : List Token} {items : List Item} (h : r.Shows (sqlText d tokens).toList items) :
    r.Shows (sqlText d (t :: tokens)).toList items := by
  rw [toList_sqlText, List.flatMap_cons, ← toList_sqlText]
  exact .plain_append (plain_of_no_colon hplain (noColon_fixed d ht)) h

theorem Shows.fixed_append (hplain : Admits r.plain) {k tokens : List Token}
    (hwords : ∀ t ∈ k, t ∈ Token.fixed) {items : List Item}
    (h : r.Shows (sqlText d tokens).toList items) :
    r.Shows (sqlText d (k ++ tokens)).toList items := by
  induction k with
  | nil => exact h
  | cons t rest ih =>
    exact .fixed hplain (hwords t List.mem_cons_self)
      (ih fun t' ht => hwords t' (List.mem_cons_of_mem t ht))

/-- Fixed words show nothing. -/
theorem shows_words (hplain : Admits r.plain) {k : List Token}
    (hwords : ∀ t ∈ k, t ∈ Token.fixed) : r.Shows (sqlText d k).toList [] := by
  simpa using Shows.fixed_append hplain hwords (Shows.no_tokens (d := d))

theorem toList_fragment (sql : String) (tokens : List Token) :
    (sqlText d (.fragment sql :: tokens)).toList = sql.toList ++ (sqlText d tokens).toList := by
  simp [toList_sqlText, Token.text]

theorem toList_space (tokens : List Token) :
    (sqlText d (.space :: tokens)).toList = ' ' :: (sqlText d tokens).toList := by
  simp [toList_sqlText, Token.text]

theorem splits_space (tokens : List Token) : Splits (sqlText d (.space :: tokens)).toList := by
  rw [toList_space]
  exact splits_cons (by decide) _

theorem splits_rightParen (tokens : List Token) :
    Splits (sqlText d (.rightParen :: tokens)).toList := by
  have htext : (sqlText d (.rightParen :: tokens)).toList = ')' :: (sqlText d tokens).toList := by
    simp [toList_sqlText, Token.text]
  rw [htext]
  exact splits_cons (by decide) _

/-- An operand before a blank. -/
theorem Presents.before_space (hplain : Admits r.plain) {e : Expression} {sql : String}
    {tokens : List Token} {items : List Item} (h : r.Presents d e sql.toList)
    (hrest : r.Shows (sqlText d tokens).toList items) :
    r.Shows (sqlText d (.fragment sql :: .space :: tokens)).toList
      (e.outline d false ++ items) := by
  rw [toList_fragment, toList_space]
  exact h.before hplain (by decide) (hrest _)

/-- An operand after a blank. -/
theorem Presents.after_space (hplain : Admits r.plain) {e : Expression} {sql : String}
    {tokens : List Token} {items : List Item} (h : r.Presents d e sql.toList)
    (hsplits : Splits (sqlText d tokens).toList) (hrest : r.Shows (sqlText d tokens).toList items) :
    r.Shows (sqlText d (.space :: .fragment sql :: tokens)).toList
      (e.outline d false ++ items) := by
  rw [toList_space, toList_fragment]
  exact .char (hplain ' ' (by decide)) (h.after (by decide) hsplits hrest)

/-- An operand in parentheses. -/
theorem Presents.in_parentheses (hplain : Admits r.plain) {e : Expression} {sql : String}
    {tokens : List Token} {items : List Item} (h : r.Presents d e sql.toList)
    (hrest : r.Shows (sqlText d tokens).toList items) :
    r.Shows (sqlText d (.leftParen :: .fragment sql :: .rightParen :: tokens)).toList
      (e.outline d true ++ items) := by
  have henclosed := h.enclosed hplain hrest
  simpa [toList_sqlText, Token.text] using henclosed

/-- Two operands with the mark of a comparison between them. The mark may be a
single character, so it delimits both. -/
theorem shows_comparison (hplain : Admits r.plain) {left right : Expression} {l rt : String}
    (hl : r.Presents d left l.toList) (hr : r.Presents d right rt.toList) (op : Comparison) :
    r.Shows (sqlText d [.fragment l, op.token, .fragment rt]).toList
      (left.outline d false ++ right.outline d false) := by
  have hright : ∀ prev, Delimiter prev → r.ShowsAfter prev rt.toList (right.outline d false) := by
    intro prev hprev
    have hshows := hr.after hprev splits_nil .nil
    rwa [List.append_nil, List.append_nil] at hshows
  -- a sign of one or of two characters ends what is compared on its left
  have hone : ∀ c, Delimiter c → r.Shows (l.toList ++ c :: rt.toList)
      (left.outline d false ++ right.outline d false) :=
    fun c hc => hl.before hplain hc (hright c hc)
  have htwo : ∀ c c', Delimiter c → Delimiter c' → r.Shows (l.toList ++ c :: c' :: rt.toList)
      (left.outline d false ++ right.outline d false) :=
    fun c c' hc hc' => hl.before hplain hc (.char (hplain c' hc'.2.2.1) (hright c' hc'))
  have htext : (sqlText d [.fragment l, op.token, .fragment rt]).toList =
      l.toList ++ ((op.token.text d).toList ++ rt.toList) := by
    simp [toList_sqlText, Token.text]
  rw [htext]
  cases op with
  | equal => simpa [Comparison.token, Token.text] using hone '=' (by decide)
  | notEqual => simpa [Comparison.token, Token.text] using htwo '<' '>' (by decide) (by decide)
  | greater => simpa [Comparison.token, Token.text] using hone '>' (by decide)
  | greaterOrEqual => simpa [Comparison.token, Token.text] using htwo '>' '=' (by decide) (by decide)
  | less => simpa [Comparison.token, Token.text] using hone '<' (by decide)
  | lessOrEqual => simpa [Comparison.token, Token.text] using htwo '<' '=' (by decide) (by decide)

/-- A test of an operand for null. -/
theorem shows_nullTest (hplain : Admits r.plain) {e : Expression} {sql : String}
    (h : r.Presents d e sql.toList) {t : Token} (ht : t ∈ Token.fixed) :
    r.Shows (sqlText d [.fragment sql, .space, t]).toList (e.outline d false) := by
  have hshows := h.before_space hplain (shows_words hplain (d := d) (k := [t]) (by simpa using ht))
  rwa [List.append_nil] at hshows

/-- A test whether an operand is among others, which stand in parentheses. -/
theorem shows_member (hplain : Admits r.plain) {left right : Expression} {l rt : String}
    (hl : r.Presents d left l.toList) (hr : r.Presents d right rt.toList) (negated : Bool) :
    r.Shows (sqlText d (Token.fragment l :: .space :: negation negated ++
        [Token.in, .space, .leftParen, .fragment rt, .rightParen])).toList
      (left.outline d false ++ right.outline d true) := by
  have hright := hr.in_parentheses hplain Shows.no_tokens
  rw [List.append_nil] at hright
  refine hl.before_space hplain (.fixed_append hplain ?_ (.fixed_append hplain
    (k := [.in, .space]) (by decide) hright))
  cases negated <;> decide

/-- A test whether an operand lies between two others. -/
theorem shows_between (hplain : Admits r.plain) {operand low high : Expression} {o l h : String}
    (ho : r.Presents d operand o.toList) (hl : r.Presents d low l.toList)
    (hh : r.Presents d high h.toList) :
    r.Shows (sqlText d [.fragment o, .space, .between, .space, .fragment l, .space, .and, .space,
        .fragment h]).toList
      (operand.outline d false ++ low.outline d false ++ high.outline d false) := by
  have hnothing : Splits (sqlText d []).toList := splits_nil
  have hhigh := hh.after_space hplain hnothing Shows.no_tokens
  rw [List.append_nil] at hhigh
  have hand := Shows.fixed hplain (t := .and) (by decide) hhigh
  have hlow := hl.before_space hplain hand
  rw [List.append_assoc]
  exact ho.before_space hplain (.fixed_append hplain (k := [.between, .space]) (by decide) hlow)

/-- Rows that a sub-select in parentheses has or has not. -/
theorem shows_rows (hplain : Admits r.plain) {e : Expression} {sql : String}
    (h : r.Presents d e sql.toList) (negated : Bool) :
    r.Shows (sqlText d (negation negated ++
        [Token.exists, .space, .leftParen, .fragment sql, .rightParen])).toList
      (e.outline d true) := by
  have hrows := h.in_parentheses hplain Shows.no_tokens
  rw [List.append_nil] at hrows
  refine .fixed_append hplain ?_ (.fixed_append hplain (k := [.exists, .space]) (by decide) hrows)
  cases negated <;> decide

/-- Tokens in parentheses. -/
theorem Shows.parentheses (hplain : Admits r.plain) {tokens : List Token} {items : List Item}
    (h : r.Shows (sqlText d tokens).toList items) :
    r.Shows (sqlText d (Token.leftParen :: tokens ++ [Token.rightParen])).toList items := by
  have hclose : ∀ c ∈ [')'], r.plain c := by simp [hplain ')' (by decide)]
  have hshows := Shows.char (hplain '(' (by decide))
    (h.append_plain (splits_cons (by decide) []) hclose _)
  simpa [toList_sqlText, Token.text] using hshows

/-- A negated filter. -/
theorem shows_not (hplain : Admits r.plain) {tokens : List Token} {items : List Item}
    (h : r.Shows (sqlText d tokens).toList items) :
    r.Shows (sqlText d
      (Token.not :: .space :: .leftParen :: tokens ++ [Token.rightParen])).toList items :=
  .fixed_append hplain (k := [.not, .space]) (by decide) (.parentheses hplain h)

/-- Filters in parentheses with a connective between them. -/
theorem shows_junction (hplain : Admits r.plain) (op : Connective) {itemss : List (List Item)}
    {children : List (List Token)}
    (h : List.Forall₂ (fun items tokens => r.Shows (sqlText d tokens).toList items) itemss children) :
    r.Shows (sqlText d (junctionTokens op children)).toList itemss.flatten := by
  refine .parentheses hplain ?_
  have hbetween : ∀ t ∈ [Token.rightParen, .space, op.token, .space, .leftParen],
      t ∈ Token.fixed := by
    cases op <;> decide
  induction h with
  | nil => exact Shows.nil
  | @cons items tokens itemss children hitems hrest ih =>
    cases hrest with
    | nil => simpa using hitems
    | cons _ _ =>
      rw [List.intercalate_cons_cons, List.append_assoc, toList_sqlText_append]
      refine hitems.append ?_ (.fixed_append hplain hbetween ih)
      exact splits_rightParen _

/-- A match shows its operand and its pattern. The operand stands in the
parentheses of a call if case does not count. -/
theorem shows_like (hplain : Admits r.plain) {e : Expression} {o marker : String} {items : List Item}
    (ho : r.Presents d e o.toList) (hmarker : r.Shows marker.toList items) (ignoreCase : Bool) :
    r.Shows (sqlText d (Like.tokens d (Like.operand d o ignoreCase) marker)).toList
      (e.outline d ignoreCase ++ items) := by
  -- the character that escapes is itself a quoted string
  have hquote : r.Shows (d.vendor.quote (String.singleton Like.escapeChar)).toList [] :=
    .of_plain (plain_of_no_colon hplain (noColon_quote d))
  have hescape : r.Shows (sqlText d (if d.info.likeEscape then [.space, .escape, .space,
      .string (String.singleton Like.escapeChar)] else [])).toList [] := by
    split
    · refine .fixed_append hplain (k := [.space, .escape, .space]) (by decide) ?_
      simpa [toList_sqlText, Token.text] using hquote
    · exact Shows.nil
  have hsplits : Splits (sqlText d (if d.info.likeEscape then [.space, .escape, .space,
      .string (String.singleton Like.escapeChar)] else [])).toList := by
    split
    · exact splits_space _
    · exact splits_nil
  have hpattern : r.Shows (sqlText d (.fragment marker :: if d.info.likeEscape then [.space,
      .escape, .space, .string (String.singleton Like.escapeChar)] else [])).toList items := by
    rw [toList_fragment]
    simpa using hmarker.append hsplits hescape
  have hlike := Shows.fixed_append hplain (k := [.like, .space]) (by decide) hpattern
  unfold Like.tokens
  cases ignoreCase with
  | false => exact ho.before_space hplain hlike
  | true =>
    have hname : Plain r.plain "LOWER" := plain_of_no_colon hplain (by decide)
    have hcall := shows_call hplain hname (PresentsAll.single ho) false
    have hlower : r.Shows (Like.operand d o true).toList (e.outline d true) := by
      simp only [Like.operand, if_true, function_lower]
      simpa [Expression.outlines, SqlFunction.encloses] using hcall
    have hrest := Shows.fixed hplain (t := .space) (by decide) hlike
    have hshows := hlower.append (splits_space _) hrest
    rwa [← toList_fragment] at hshows

end Reading

end SqlCompose
