import SqlCompose.Proofs.Frames
import SqlCompose.Proofs.Words

/-!
# SqlCompose.Proofs.Clauses -- what the clauses of a statement show

A select list, a table with its joins, a sort and a whole SELECT statement show
what their finished pieces show, in the order in which the text has them. Pages
and row locks add nothing.
-/

namespace SqlCompose

open Placeholder

namespace Reading

variable {r : Reading} {d : Dialect}

/-! ## Sorts -/

/-- A term of a sort shows its operand. -/
theorem shows_term (hplain : Admits r.plain) {e : Expression} {sql : String}
    (h : r.Presents d e sql.toList) (direction : SortDirection) :
    r.Shows (sql ++ " " ++ direction.keyword).toList (e.outline d false) := by
  have hkeyword : r.Shows direction.keyword.toList [] := by
    cases direction <;> exact .of_plain (plain_of_no_colon hplain (by decide))
  have hshows := h.before hplain (c := ' ') (by decide) (hkeyword _)
  rw [List.append_nil] at hshows
  simpa using hshows

/-! ## Select lists -/

/-- A selected expression stands in parentheses if it is a sub-select. -/
theorem shows_selected (hplain : Admits r.plain) {e : Expression} {sql : String}
    (h : r.Presents d e sql.toList) :
    r.Shows (enclosed e.isQuery sql).toList (e.outline d true) := by
  cases he : e.isQuery with
  | false => exact h.shows he true
  | true =>
    have henclosed := h.enclosed hplain Shows.nil
    rw [List.append_nil] at henclosed
    simpa [SqlCompose.enclosed] using henclosed

theorem shows_column (hplain : Admits r.plain) {sql : String} {items : List Item}
    (h : r.Shows sql.toList items) {aliasName : Option String}
    (halias : ∀ a ∈ aliasName, Plain r.plain a) :
    r.Shows (ProjectedColumn.text ⟨sql, aliasName⟩).toList items := by
  cases aliasName with
  | none => exact h
  | some a =>
    have has : ∀ c ∈ " AS ".toList, r.plain c := plain_of_no_colon hplain (by decide)
    have hshows := h.append (v := " AS ".toList ++ a.toList) (splits_cons (by decide) _)
      (.plain_append has (.of_plain (halias a rfl)))
    simpa [ProjectedColumn.text] using hshows

/-- Columns show what their expressions show. -/
theorem ShowsEach.columns (hplain : Admits r.plain) {itemss : List (List Item)} {sqls : List String}
    (h : r.ShowsEach itemss sqls) {aliases : List (Option String)}
    (hlength : aliases.length = sqls.length)
    (haliases : ∀ o ∈ aliases, ∀ a ∈ o, Plain r.plain a) :
    r.ShowsEach itemss ((List.zipWith ProjectedColumn.mk sqls aliases).map ProjectedColumn.text) := by
  induction h generalizing aliases with
  | nil => exact .nil
  | cons hitems hrest ih =>
    cases aliases with
    | nil => simp at hlength
    | cons o aliases =>
      refine .cons (shows_column hplain hitems (haliases o List.mem_cons_self)) ?_
      exact ih (by simpa using hlength) fun o' ho => haliases o' (List.mem_cons_of_mem o ho)

/-- A select list shows its columns, and a star nothing. -/
theorem shows_list (hplain : Admits r.plain) {itemss : List (List Item)}
    {columns : List ProjectedColumn}
    (h : r.ShowsEach itemss (columns.map ProjectedColumn.text)) :
    r.Shows (sqlText d (ProjectedColumn.list columns)).toList itemss.flatten := by
  cases columns with
  | nil =>
    cases h
    exact shows_words hplain (k := [.star]) (by decide)
  | cons c rest =>
    rw [ProjectedColumn.list, sqlText_commaSeparated]
    · exact h.commas hplain
    · simp

end Reading

/-! ## Aliases -/

theorem Selection.length_aliases (mode : AliasMode) (sequence : Nat) (g : AliasGenerator)
    (selections : List Selection) :
    (Selection.aliases mode sequence g selections).length = selections.length := by
  induction selections generalizing g with
  | nil => rfl
  | cons s rest ih => simp [Selection.aliases, ih]

variable {plain : Char → Prop}

/-- The alias that a selection was given is its own or that of its path. -/
theorem Selection.plain_explicitAlias {s : Selection} (hown : ∀ a ∈ s.aliasName, Plain plain a)
    (hpath : ∀ p, s.expr = .path p → AllPlain plain p.names) :
    ∀ a ∈ s.explicitAlias, Plain plain a := by
  obtain ⟨expr, aliasName⟩ := s
  intro a ha
  rcases Option.or_eq_some_iff.mp ha with ha | ⟨_, ha⟩
  · exact hown a ha
  · cases expr with
    | path p => exact hpath p rfl a (Path.mem_names_of_alias ha)
    | _ => cases ha

theorem Selection.plain_explicitAliases {selections : List Selection}
    (h : AllPlain plain (Selection.allNames selections)) :
    ∀ s ∈ selections, ∀ a ∈ s.explicitAlias, Plain plain a := by
  induction selections with
  | nil => simp
  | cons s rest ih =>
    obtain ⟨expr, aliasName⟩ := s
    rw [Selection.allNames, allPlain_append, Selection.names, allPlain_append, allPlain_toList] at h
    refine List.forall_mem_cons.mpr ⟨Selection.plain_explicitAlias h.1.1 ?_, ih h.2⟩
    rintro p rfl
    exact h.1.2

/-- The aliases of columns are those that were given, and generated ones. -/
theorem Selection.plain_aliases (hplain : Writable plain) (mode : AliasMode) (sequence : Nat)
    (g : AliasGenerator) {selections : List Selection}
    (h : ∀ s ∈ selections, ∀ a ∈ s.explicitAlias, Plain plain a) :
    ∀ o ∈ Selection.aliases mode sequence g selections, ∀ a ∈ o, Plain plain a := by
  induction selections generalizing g with
  | nil => simp [Selection.aliases]
  | cons s rest ih =>
    intro o ho a ha
    rw [Selection.aliases] at ho
    rcases List.mem_cons.mp ho with rfl | ho
    · have hexplicit := h s List.mem_cons_self
      -- an alias was given, or it was generated and has no marks at all
      cases mode with
      | unsupported => cases ha
      | explicitOnly => exact hexplicit a ha
      | auto =>
        cases halias : s.explicitAlias with
        | some given =>
          simp only [halias, Option.mem_def, Option.some.injEq] at ha
          exact hexplicit a (by simp [halias, ha])
        | none =>
          simp only [halias, Option.mem_def, Option.some.injEq] at ha
          rw [← ha]
          exact plain_of_unmarked hplain (unmarked_next g s.localName sequence)
    · exact ih _ (fun s' hs => h s' (List.mem_cons_of_mem s hs)) o ho a ha

/-! ## Tails -/

namespace Reading

variable {r : Reading} {d : Dialect}

theorem toList_append (a b : List Token) :
    (sqlText d (a ++ b)).toList = (sqlText d a).toList ++ (sqlText d b).toList := by
  simp [toList_sqlText]

/-- Tokens that show items and may follow any others. -/
def ShowsTail (r : Reading) (d : Dialect) (tokens : List Token) (items : List Item) : Prop :=
  r.Shows (sqlText d tokens).toList items ∧ Splits (sqlText d tokens).toList

namespace ShowsTail

theorem nil : r.ShowsTail d [] [] := ⟨Shows.nil, splits_nil⟩

theorem append {a b : List Token} {as bs : List Item} (ha : r.ShowsTail d a as)
    (hb : r.ShowsTail d b bs) : r.ShowsTail d (a ++ b) (as ++ bs) := by
  unfold ShowsTail
  rw [toList_append]
  exact ⟨ha.1.append hb.2 hb.1, splits_append ha.2 hb.2⟩

/-- Fixed words between blanks before finished SQL. -/
theorem clause (hplain : Admits r.plain) {k : List Token} (hwords : ∀ t ∈ k, t ∈ Token.fixed)
    {sql : String} {items : List Item} (h : r.Shows sql.toList items) :
    r.ShowsTail d (Token.space :: k ++ [Token.space, .fragment sql]) items := by
  refine ⟨?_, splits_space _⟩
  have hspaced : ∀ t ∈ Token.space :: k ++ [Token.space], t ∈ Token.fixed := by
    intro t ht
    simp only [List.cons_append, List.mem_cons, List.mem_append, List.not_mem_nil, or_false] at ht
    rcases ht with rfl | ht | rfl
    · decide
    · exact hwords t ht
    · decide
  have hsql : r.Shows (sqlText d [.fragment sql]).toList items := by
    simpa [toList_sqlText, Token.text] using h
  simpa using Shows.fixed_append hplain hspaced hsql

theorem optional (hplain : Admits r.plain) {keyword : Token} (h : keyword ∈ Token.fixed)
    {sql : String} {items : List Item} (hsql : r.Shows sql.toList items) :
    r.ShowsTail d (optionalClause keyword (some sql)) items :=
  clause hplain (k := [keyword]) (by simpa using h) hsql

/-- The alias of a table. -/
theorem aliased (hplain : Admits r.plain) {aliasName : Option String}
    (h : ∀ a ∈ aliasName, Plain r.plain a) : r.ShowsTail d (aliasTokens aliasName) [] := by
  cases aliasName with
  | none => exact nil
  | some a =>
    refine ⟨?_, splits_space _⟩
    have halias : r.Shows (sqlText d [.ident a]).toList [] := by
      simpa [toList_sqlText, Token.text] using Shows.of_plain (h a rfl)
    exact .fixed hplain (by decide) halias

/-- A join without its condition. -/
theorem join (hplain : Admits r.plain) (kind : JoinKind) {table : String}
    (h : Plain r.plain table) :
    r.ShowsTail d [.space, .join kind, .space, .ident table] [] := by
  refine ⟨?_, splits_space _⟩
  have htable : r.Shows (sqlText d [.ident table]).toList [] := by
    simpa [toList_sqlText, Token.text] using Shows.of_plain h
  refine .fixed_append hplain (k := [.space, .join kind, .space]) ?_ htable
  cases kind <;> decide

end ShowsTail

/-! ## Tokens that show nothing -/

/-- Tokens with plain texts before other tokens. -/
theorem Shows.tokens_append {a b : List Token} {items : List Item}
    (ha : Plain r.plain (sqlText d a)) (hb : r.Shows (sqlText d b).toList items) :
    r.Shows (sqlText d (a ++ b)).toList items := by
  rw [toList_append]
  exact .plain_append ha hb

theorem plain_commas (hplain : Admits r.plain) {texts : List String} (h : AllPlain r.plain texts) :
    Plain r.plain (sqlText d (commaSeparated texts)) := by
  rw [sqlText_commaSeparated]
  induction texts with
  | nil => exact plain_of_no_colon hplain (by decide)
  | cons text rest ih =>
    rw [allPlain_cons] at h
    cases rest with
    | nil => simpa using h.1
    | cons next rest =>
      rw [String.intercalate_cons_cons]
      exact plain_append (plain_append h.1 (plain_of_no_colon hplain (by decide))) (ih h.2)

/-! ## SELECT statements -/

/-- The clauses of a SELECT statement show their items in the order of the text. -/
theorem shows_select (hplain : Admits r.plain) {c : SelectClauses} {columns source condition order :
      List Item} (hcolumns : r.Shows (sqlText d (ProjectedColumn.list c.columns)).toList columns)
    (hsource : r.Shows c.source.toList source)
    (hcondition : r.ShowsTail d (optionalClause .where c.condition) condition)
    (horder : r.ShowsTail d (optionalClause .orderBy c.order) order) :
    r.Shows (sqlText d c.tokens).toList (columns ++ source ++ condition ++ order) ∧
      Opens (sqlText d c.tokens).toList := by
  constructor
  · have hfrom := ShowsTail.clause (d := d) hplain (k := [.from]) (by decide) hsource
    have htail := (hfrom.append hcondition).append horder
    have hlist := hcolumns.append htail.2 htail.1
    rw [← toList_append] at hlist
    have hwords : ∀ t ∈ [Token.select, .space] ++ (if c.distinct then [Token.distinct, .space] else []),
        t ∈ Token.fixed := by
      cases c.distinct <;> decide
    have hshows := Shows.fixed_append hplain hwords hlist
    simpa [SelectClauses.tokens, List.append_assoc] using hshows
  · exact ⟨'S', by simp [SelectClauses.tokens, toList_sqlText, Token.text], by decide, by decide, by decide⟩

/-- What stands around the SQL adds nothing to what it shows. -/
theorem shows_framed (hplain : Admits r.plain) {f : String → String} {opening closing : String}
    (hframes : Frames f opening closing) (hopening : OpensPage opening) {sql : String}
    {items : List Item} (h : r.Shows sql.toList items) (hopens : Opens sql.toList) :
    r.Shows (f sql).toList items ∧ Opens (f sql).toList := by
  have hbefore : ∀ c ∈ opening.toList, r.plain c := plain_of_no_colon hplain hframes.noColon_opening
  have hafter : ∀ c ∈ closing.toList, r.plain c := plain_of_no_colon hplain hframes.noColon_closing
  rw [hframes.eq, String.toList_append, String.toList_append]
  constructor
  · rw [List.append_assoc]
    exact .plain_append hbefore (h.append_plain hframes.blank.splits hafter)
  · rcases hopening with rfl | hs
    · obtain ⟨c, hc, h⟩ := hopens
      exact ⟨c, by simp [hc], h⟩
    · exact ⟨'s', by simp [hs], by decide, by decide, by decide⟩

/-- A page of the rows shows what the statement shows, and so does a row lock. -/
theorem shows_page (hplain : Admits r.plain) {sql paged : String} {limit offset : Option Nat}
    {ordered : Bool} (hpage : d.page sql limit offset ordered = .ok paged) (lock : Option Lock)
    {items : List Item} (h : r.Shows sql.toList items) (hopens : Opens sql.toList) :
    r.Shows (d.lock paged lock).toList items ∧ Opens (d.lock paged lock).toList := by
  have hpaged : r.Shows paged.toList items ∧ Opens paged.toList := by
    rcases d.page_frames limit offset ordered with
      ⟨e, he⟩ | hid | ⟨f, opening, closing, hf, hframes, hopening⟩
    · rw [he] at hpage
      cases hpage
    · rw [hid] at hpage
      cases hpage
      exact ⟨h, hopens⟩
    · rw [hf] at hpage
      cases hpage
      exact shows_framed hplain hframes hopening h hopens
  rcases d.lock_frames lock with hid | ⟨opening, closing, hframes, hopening⟩
  · rw [hid]
    exact hpaged
  · exact shows_framed hplain hframes hopening hpaged.1 hpaged.2

end Reading

end SqlCompose
