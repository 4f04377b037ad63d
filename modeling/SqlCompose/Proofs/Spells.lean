import SqlCompose.Proofs.Clauses
import SqlCompose.Proofs.Ingredients

/-!
# SqlCompose.Proofs.Spells -- texts that are put together from pieces

The text of a statement is put together from words, names, placeholders and raw
SQL. A lexicon says what names, raw SQL and values a statement may have, and a
text that it spells has nothing else in it but the words of the library. Each
theorem is about one way in which the library puts pieces together.
-/

namespace SqlCompose

open Placeholder

/-- The names, the raw SQL and the values that a statement may have. A name may
have every character that means nothing in a finished text, and every literal is
such a value. -/
structure Lexicon where
  plain : Char → Prop
  raw : RawSql → Prop
  value : Parameter → Prop
  writable : Writable plain
  literal : ∀ (d : Dialect) (l : Literal), value (l.parameter d)

/-- The characters of raw SQL with placeholders of values in the places of its
question marks outside literals. -/
inductive Accumulator.Fills (acc : Accumulator) :
    Bool → List Value → List Char → List Char → Prop
  | nil {quoted : Bool} : acc.Fills quoted [] [] []
  | char {quoted : Bool} {values : List Value} {c : Char} {cs w : List Char} :
      ¬(c = '?' ∧ quoted = false) → acc.Fills (if c = '\'' then !quoted else quoted) values cs w →
        acc.Fills quoted values (c :: cs) (c :: w)
  | marker {v : Value} {values : List Value} {cs u w : List Char} :
      acc.Writes u (Parameter.ofValue v) → acc.Fills false values cs w →
        acc.Fills false (v :: values) ('?' :: cs) (u ++ w)

namespace Lexicon

variable {L : Lexicon} {acc : Accumulator} {d : Dialect} {rs ss : List RawSql}
  {rss : List (List RawSql)} {u v : List Char} {a b : String} {texts : List String}

/-! ## Ingredients -/

/-- An ingredient that a statement may have. -/
def Has (L : Lexicon) : Ingredient → Prop
  | .name s => Plain L.plain s
  | .raw r => L.raw r
  | .value p => L.value p

/-- Ingredients that a statement may have. -/
def HasAll (L : Lexicon) (is : List Ingredient) : Prop := ∀ i ∈ is, L.Has i

theorem hasAll_append {is js : List Ingredient} : L.HasAll (is ++ js) ↔ L.HasAll is ∧ L.HasAll js :=
  List.forall_mem_append

theorem hasAll_cons {i : Ingredient} {is : List Ingredient} :
    L.HasAll (i :: is) ↔ L.Has i ∧ L.HasAll is := List.forall_mem_cons

theorem hasAll_named {names : List String} : L.HasAll (named names) ↔ AllPlain L.plain names :=
  List.forall_mem_map

/-! ## Texts -/

/-- A text has these pieces of raw SQL in order, and is otherwise put together from
words, names and placeholders. -/
inductive Spells (L : Lexicon) (acc : Accumulator) : List RawSql → List Char → Prop
  | plain {w : List Char} : (∀ c ∈ w, L.plain c) → L.Spells acc [] w
  | neutral {w : List Char} : Neutral w → L.Spells acc [] w
  | value {p : Parameter} {w : List Char} : L.value p → acc.Writes w p → L.Spells acc [] w
  | raw {r : RawSql} {w : List Char} :
      L.raw r → acc.Fills false r.parameters r.text.toList w → L.Spells acc [r] w
  | append {rs ss : List RawSql} {u v : List Char} :
      L.Spells acc rs u → L.Spells acc ss v → L.Spells acc (rs ++ ss) (u ++ v)

theorem Spells.nil : L.Spells acc [] [] := .plain (by simp)

/-- A string that a lexicon spells. -/
def Text (L : Lexicon) (acc : Accumulator) (rs : List RawSql) (a : String) : Prop :=
  L.Spells acc rs a.toList

namespace Text

theorem of_plain (h : Plain L.plain a) : L.Text acc [] a := Spells.plain h

theorem of_unmarked (h : Unmarked a) : L.Text acc [] a := of_plain (plain_of_unmarked L.writable h)

theorem append (ha : L.Text acc rs a) (hb : L.Text acc ss b) : L.Text acc (rs ++ ss) (a ++ b) := by
  unfold Text
  rw [String.toList_append]
  exact Spells.append ha hb

/-- A text between two others that have no raw SQL. -/
theorem between {opening closing : String} (hopening : L.Text acc [] opening) (h : L.Text acc rs a)
    (hclosing : L.Text acc [] closing) : L.Text acc rs (opening ++ a ++ closing) := by
  simpa using (hopening.append h).append hclosing

theorem framed {f : String → String} {opening closing : String} (hf : Frames f opening closing)
    (h : L.Text acc rs a) : L.Text acc rs (f a) := by
  rw [hf.eq]
  exact between (of_unmarked hf.unmarked_opening) h (of_unmarked hf.unmarked_closing)

theorem commas (h : List.Forall₂ (L.Text acc) rss texts) :
    L.Text acc rss.flatten (", ".intercalate texts) := by
  induction h with
  | nil => exact Spells.nil
  | @cons rs text rss texts htext hrest ih =>
    cases hrest with
    | nil => simpa using htext
    | cons _ _ =>
      rw [String.intercalate_cons_cons, List.flatten_cons]
      have hcomma := htext.append (of_unmarked (a := ", ") (by decide))
      rw [List.append_nil] at hcomma
      exact hcomma.append ih

/-- In parentheses or not. -/
theorem enclosed (isQuery : Bool) (h : L.Text acc rs a) : L.Text acc rs (enclosed isQuery a) := by
  cases isQuery with
  | false => exact h
  | true => exact between (of_unmarked (by decide)) h (of_unmarked (by decide))

theorem call {name : String} (hname : Plain L.plain name)
    (h : List.Forall₂ (L.Text acc) rss texts) (distinct : Bool) :
    L.Text acc rss.flatten ((SqlFunction.call name).render texts distinct) := by
  have hdistinct : Unmarked (if distinct then "DISTINCT " else "") := by cases distinct <;> decide
  have hlist : L.Text acc rss.flatten
      (if texts.isEmpty && Text.sameIgnoringAsciiCase name "COUNT" then "*"
        else ", ".intercalate texts) := by
    cases h with
    | nil =>
      refine of_unmarked ?_
      split <;> decide
    | cons htext hrest =>
      simp only [List.isEmpty_cons, Bool.false_and, Bool.false_eq_true, if_false]
      exact commas (.cons htext hrest)
  have hopening : L.Text acc [] (name ++ "(" ++ if distinct then "DISTINCT " else "") :=
    ((of_plain hname).append (of_unmarked (by decide))).append (of_unmarked hdistinct)
  exact between hopening hlist (of_unmarked (by decide))

/-- Every dialect writes a valid call around its arguments. -/
theorem function {kind : FunctionKind} {distinct : Bool} (hname : Plain L.plain kind.name)
    (hvalid : checkCall kind texts.length distinct = .ok ())
    (h : List.Forall₂ (L.Text acc) rss texts) :
    L.Text acc rss.flatten ((d.function kind).render texts distinct) := by
  generalize hf : d.function kind = f
  have hshape := hf ▸ d.shape_function kind
  cases hshape with
  | call name => exact call (name L.plain L.writable hname) h distinct
  | keyword harity hunmarked =>
    obtain rfl := eq_nil_of_checkCall hvalid harity
    cases h
    exact of_unmarked hunmarked
  | @template opening closing harity hwraps =>
    obtain ⟨text, rfl⟩ := exists_eq_singleton_of_checkCall hvalid harity
    cases h with
    | cons htext hrest =>
      cases hrest
      rw [SqlFunction.render_template hwraps.opening_brace hwraps.closing_brace,
        List.flatten_singleton]
      exact between (Spells.neutral hwraps.neutral_opening) htext
        (Spells.neutral hwraps.neutral_closing)

/-- A page is kept around the text or fails. -/
theorem page {limit offset : Option Nat} {ordered : Bool} {paged : String} (h : L.Text acc rs a)
    (hpage : d.page a limit offset ordered = .ok paged) : L.Text acc rs paged := by
  rcases d.page_frames limit offset ordered with
    ⟨e, he⟩ | hid | ⟨f, opening, closing, hf, hframes, _⟩
  · rw [he] at hpage
    cases hpage
  · rw [hid] at hpage
    cases hpage
    exact h
  · rw [hf] at hpage
    cases hpage
    exact h.framed hframes

theorem lock (lock : Option Lock) (h : L.Text acc rs a) : L.Text acc rs (d.lock a lock) := by
  rcases d.lock_frames lock with hid | ⟨opening, closing, hframes, _⟩
  · rwa [hid]
  · exact h.framed hframes

end Text

/-! ## Tokens -/

/-- Tokens whose text a lexicon spells. -/
def Tokens (L : Lexicon) (d : Dialect) (acc : Accumulator) (rs : List RawSql) (tokens : List Token) :
    Prop := L.Text acc rs (sqlText d tokens)

namespace Tokens

variable {tokens tokens' : List Token}

theorem nil : L.Tokens d acc [] [] := Spells.nil

theorem append (h : L.Tokens d acc rs tokens) (h' : L.Tokens d acc ss tokens') :
    L.Tokens d acc (rs ++ ss) (tokens ++ tokens') := by
  unfold Tokens Text
  rw [Reading.toList_append]
  exact Spells.append h h'

theorem cons {t : Token} (ht : L.Text acc rs (t.text d)) (h : L.Tokens d acc ss tokens) :
    L.Tokens d acc (rs ++ ss) (t :: tokens) := by
  unfold Tokens Text
  rw [toList_sqlText, List.flatMap_cons, ← toList_sqlText]
  exact Spells.append ht h

/-- A word or a sign. -/
theorem fixed {t : Token} (ht : t ∈ Token.fixed) (h : L.Tokens d acc rs tokens) :
    L.Tokens d acc rs (t :: tokens) := cons (.of_unmarked (unmarked_fixed d ht)) h

/-- Several words and signs before other tokens. -/
theorem words {k : List Token} (hk : ∀ t ∈ k, t ∈ Token.fixed) (h : L.Tokens d acc rs tokens) :
    L.Tokens d acc rs (k ++ tokens) := by
  induction k with
  | nil => exact h
  | cons t rest ih =>
    exact fixed (hk t List.mem_cons_self) (ih fun t' ht => hk t' (List.mem_cons_of_mem t ht))

/-- Several words and signs by themselves. -/
theorem only_words {k : List Token} (hk : ∀ t ∈ k, t ∈ Token.fixed) : L.Tokens d acc [] k := by
  simpa using words hk nil

/-- Finished SQL before other tokens. -/
theorem fragment (ha : L.Text acc rs a) (h : L.Tokens d acc ss tokens) :
    L.Tokens d acc (rs ++ ss) (.fragment a :: tokens) := cons ha h

/-- Finished SQL at the end. -/
theorem last (ha : L.Text acc rs a) : L.Tokens d acc rs [.fragment a] := by
  simpa using fragment ha nil

/-- A name at the end. -/
theorem ident {name : String} (h : Plain L.plain name) : L.Tokens d acc [] [.ident name] :=
  cons (.of_plain h) nil

/-- Tokens in parentheses. -/
theorem parentheses (h : L.Tokens d acc rs tokens) :
    L.Tokens d acc rs (Token.leftParen :: tokens ++ [Token.rightParen]) := by
  simpa using (fixed (t := .leftParen) (by decide) h).append (only_words (k := [.rightParen])
    (by decide))

/-- Finished SQL in parentheses. -/
theorem in_parentheses (ha : L.Text acc rs a) :
    L.Tokens d acc rs [.leftParen, .fragment a, .rightParen] := (last ha).parentheses

theorem optional {keyword : Token} (hkeyword : keyword ∈ Token.fixed) (ha : L.Text acc rs a) :
    L.Tokens d acc rs (optionalClause keyword (some a)) :=
  fixed (by decide) (fixed hkeyword (fixed (by decide) (last ha)))

theorem commas (h : List.Forall₂ (L.Text acc) rss texts) :
    L.Tokens d acc rss.flatten (commaSeparated texts) := by
  unfold Tokens
  rw [sqlText_commaSeparated]
  exact Text.commas h

/-- The alias of a table. -/
theorem aliased {aliasName : Option String} (h : ∀ a ∈ aliasName, Plain L.plain a) :
    L.Tokens d acc [] (aliasTokens aliasName) := by
  cases aliasName with
  | none => exact nil
  | some a => exact fixed (by decide) (ident (h a rfl))

/-- Filters in parentheses with a connective between them. -/
theorem junction (op : Connective) {children : List (List Token)}
    (h : List.Forall₂ (L.Tokens d acc) rss children) :
    L.Tokens d acc rss.flatten (junctionTokens op children) := by
  have hwords : ∀ t ∈ [Token.rightParen, .space, op.token, .space, .leftParen],
      t ∈ Token.fixed := by
    cases op <;> decide
  refine parentheses ?_
  induction h with
  | nil => exact nil
  | cons htokens hrest ih =>
    cases hrest with
    | nil => simpa using htokens
    | cons _ _ =>
      rw [List.intercalate_cons_cons, List.append_assoc, List.flatten_cons]
      exact htokens.append (words hwords ih)

/-- A match of an operand with a pattern. -/
theorem like {operand marker : String} (ignoreCase : Bool) (ho : L.Text acc rs operand)
    (hmarker : L.Text acc [] marker) :
    L.Tokens d acc rs (Like.tokens d (Like.operand d operand ignoreCase) marker) := by
  have hoperand : L.Text acc rs (Like.operand d operand ignoreCase) := by
    cases ignoreCase with
    | false => exact ho
    | true =>
      have hname : Plain L.plain "LOWER" := plain_of_unmarked L.writable (by decide)
      simp only [Like.operand, if_true, function_lower]
      simpa using Text.call hname (.cons ho .nil) false
  -- the character that escapes is itself a quoted string
  have hquote : L.Text acc [] (Token.text d (.string (String.singleton Like.escapeChar))) :=
    Spells.neutral (neutral_quote d)
  have hquoted : L.Tokens d acc [] [Token.string (String.singleton Like.escapeChar)] :=
    cons hquote nil
  have hescape : L.Tokens d acc []
      (if d.info.likeEscape then [.space, .escape, .space, .string (String.singleton Like.escapeChar)]
        else []) := by
    split
    · exact words (k := [.space, .escape, .space]) (by decide) hquoted
    · exact nil
  have hlike : L.Tokens d acc [] [.space, .like, .space, .fragment marker] :=
    words (k := [.space, .like, .space]) (by decide) (last hmarker)
  unfold Like.tokens
  simpa using (fragment hoperand hlike).append hescape

end Tokens

/-! ## Columns -/

theorem Text.column {sql : String} {aliasName : Option String} (h : L.Text acc rs sql)
    (halias : ∀ a ∈ aliasName, Plain L.plain a) :
    L.Text acc rs (ProjectedColumn.text ⟨sql, aliasName⟩) := by
  cases aliasName with
  | none => exact h
  | some a =>
    have has := (h.append (of_unmarked (a := " AS ") (by decide))).append (of_plain (halias a rfl))
    rwa [List.append_nil, List.append_nil] at has

/-- A select list, or a star. -/
theorem Tokens.list {columns : List ProjectedColumn}
    (h : List.Forall₂ (fun rs (c : ProjectedColumn) => L.Text acc rs c.text) rss columns) :
    L.Tokens d acc rss.flatten (ProjectedColumn.list columns) := by
  cases h with
  | nil => exact only_words (by decide)
  | cons hcolumn hrest =>
    exact commas (List.forall₂_map_right_iff.mpr (.cons hcolumn hrest))

/-- The columns of selections are their SQL and their aliases. -/
theorem columns_of_texts {sqls : List String} (h : List.Forall₂ (L.Text acc) rss sqls)
    {aliases : List (Option String)} (hlength : aliases.length = sqls.length)
    (haliases : ∀ o ∈ aliases, ∀ a ∈ o, Plain L.plain a) :
    List.Forall₂ (fun rs (c : ProjectedColumn) => L.Text acc rs c.text) rss
      (List.zipWith ProjectedColumn.mk sqls aliases) := by
  induction h generalizing aliases with
  | nil => exact .nil
  | cons htext hrest ih =>
    cases aliases with
    | nil => simp at hlength
    | cons o aliases =>
      refine .cons (htext.column (haliases o List.mem_cons_self)) ?_
      exact ih (by simpa using hlength) fun o' ho => haliases o' (List.mem_cons_of_mem o ho)

/-! ## Statements -/

/-- The clauses of a SELECT statement have their raw SQL in the order of the text. -/
theorem Tokens.select {c : SelectClauses} {columns source condition order : List RawSql}
    (hcolumns : L.Tokens d acc columns (ProjectedColumn.list c.columns))
    (hsource : L.Text acc source c.source)
    (hcondition : L.Tokens d acc condition (optionalClause .where c.condition))
    (horder : L.Tokens d acc order (optionalClause .orderBy c.order)) :
    L.Tokens d acc (columns ++ source ++ condition ++ order) c.tokens := by
  have hwords : ∀ t ∈ [Token.select, .space] ++ (if c.distinct then [Token.distinct, .space] else []),
      t ∈ Token.fixed := by
    cases c.distinct <;> decide
  have hfrom : L.Tokens d acc source [.space, .from, .space, .fragment c.source] :=
    words (k := [.space, .from, .space]) (by decide) (last hsource)
  exact (((words hwords hcolumns).append hfrom).append hcondition).append horder

/-- Names with commas between them. -/
theorem Tokens.names {names : List String} (h : AllPlain L.plain names) :
    L.Tokens d acc [] (commaSeparated names) := by
  have heach : List.Forall₂ (L.Text acc) (names.map fun _ => []) names :=
    List.forall₂_map_left_iff.mpr (List.forall₂_same.mpr fun name hname => .of_plain (h name hname))
  simpa using commas (d := d) heach

/-- The values of an insertion stand in parentheses after its columns. -/
theorem Tokens.insert {table : Token} (htable : Plain L.plain (table.text d))
    {columns values : List String} (hcolumns : AllPlain L.plain columns)
    (hvalues : List.Forall₂ (L.Text acc) rss values) :
    L.Tokens d acc rss.flatten ([Token.insert, .space, .into, .space, table, .space, .leftParen] ++
      commaSeparated columns ++ [Token.rightParen, .space, .values, .space, .leftParen] ++
        commaSeparated values ++ [Token.rightParen]) := by
  have hhead : L.Tokens d acc [] [.insert, .space, .into, .space, table, .space, .leftParen] :=
    words (k := [.insert, .space, .into, .space]) (by decide)
      (cons (.of_plain htable) (only_words (k := [.space, .leftParen]) (by decide)))
  have hbetween : L.Tokens d acc [] [.rightParen, .space, .values, .space, .leftParen] :=
    only_words (by decide)
  have hclose : L.Tokens d acc [] [.rightParen] := only_words (by decide)
  simpa using (((hhead.append (names hcolumns)).append hbetween).append (commas hvalues)).append
    hclose

/-- The condition of an update comes after its assignments. -/
theorem Tokens.update {table : Token} (htable : Plain L.plain (table.text d))
    {assignments : List String} (hassignments : List.Forall₂ (L.Text acc) rss assignments)
    {condition : List Token} (hcondition : L.Tokens d acc rs condition) :
    L.Tokens d acc (rss.flatten ++ rs) ([Token.update, .space, table, .space, .set, .space] ++
      commaSeparated assignments ++ condition) := by
  have hhead : L.Tokens d acc [] [.update, .space, table, .space, .set, .space] :=
    words (k := [.update, .space]) (by decide)
      (cons (.of_plain htable) (only_words (k := [.space, .set, .space]) (by decide)))
  exact (hhead.append (commas hassignments)).append hcondition

/-- The condition of a deletion comes after its table. -/
theorem Tokens.delete {table : Token} (htable : Plain L.plain (table.text d))
    {condition : List Token} (hcondition : L.Tokens d acc rs condition) :
    L.Tokens d acc rs ([Token.delete, .space, .from, .space, table] ++ condition) :=
  words (k := [.delete, .space, .from, .space]) (by decide) (cons (.of_plain htable) hcondition)

end Lexicon

end SqlCompose
