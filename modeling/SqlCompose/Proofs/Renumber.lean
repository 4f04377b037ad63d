import SqlCompose.Proofs.Clauses
import SqlCompose.Proofs.Functions
import SqlCompose.Resolution.Fragment

/-!
# SqlCompose.Proofs.Renumber -- texts that differ in the numbers of placeholders

Where parameters were added before, placeholders have greater numbers. A
numbering says how many parameters there were on two sides. Two texts renumber
each other if they have the same plain characters, and for each parameter that
was added since a placeholder of its number on each side.
-/

namespace SqlCompose

open Placeholder

/-- The numbers of parameters that two sides start with, and the characters that
texts have outside placeholders. -/
structure Numbering where
  plain : Char → Prop
  admits : Admits plain
  left : Nat
  right : Nat

namespace Numbering

/-- Two texts are the same but for the numbers of placeholders. -/
inductive Renumbers (N : Numbering) : List Char → List Char → Prop
  | nil : Renumbers N [] []
  | char {c : Char} {u v : List Char} :
      N.plain c → Renumbers N u v → Renumbers N (c :: u) (c :: v)
  | placeholder {i : Nat} {u v : List Char} :
      N.left + i < maxNumber → N.right + i < maxNumber → Renumbers N u v →
        Renumbers N ((name (N.left + i + 1)).toList ++ u) ((name (N.right + i + 1)).toList ++ v)

variable {N : Numbering} {d : Dialect} {u v u' v' : List Char} {a b : String}
  {as bs : List String}

namespace Renumbers

theorem append (h : N.Renumbers u v) (h' : N.Renumbers u' v') :
    N.Renumbers (u ++ u') (v ++ v') := by
  induction h with
  | nil => exact h'
  | char hc _ ih => exact .char hc ih
  | placeholder hleft hright _ ih =>
    rw [List.append_assoc, List.append_assoc]
    exact .placeholder hleft hright ih

theorem of_plain (h : ∀ c ∈ u, N.plain c) : N.Renumbers u u := by
  induction u with
  | nil => exact .nil
  | cons c rest ih =>
    exact .char (h c List.mem_cons_self) (ih fun c' hc => h c' (List.mem_cons_of_mem c hc))

/-- Where both sides start with as many parameters, the texts are the same. -/
theorem eq (hN : N.left = N.right) (h : N.Renumbers u v) : u = v := by
  induction h with
  | nil => rfl
  | char _ _ ih => rw [ih]
  | placeholder _ _ _ ih => rw [ih, hN]

/-- A placeholder is no blank, so what is not blank stays so. -/
theorem all_isBlank (h : N.Renumbers u v) : v.all Text.isBlank = u.all Text.isBlank := by
  induction h with
  | nil => rfl
  | char _ _ ih => rw [List.all_cons, List.all_cons, ih]
  | placeholder _ _ _ _ =>
    have hcolon : Text.isBlank ':' = false := by decide
    simp [name_toList, hcolon]

end Renumbers

/-! ## Texts -/

/-- Two strings are the same but for the numbers of placeholders. -/
def Texts (N : Numbering) (a b : String) : Prop := N.Renumbers a.toList b.toList

theorem plain_of_no_colon (h : NoColon a) : Plain N.plain a :=
  SqlCompose.plain_of_no_colon N.admits h

namespace Texts

theorem of_plain (h : Plain N.plain a) : N.Texts a a := Renumbers.of_plain h

theorem of_no_colon (h : NoColon a) : N.Texts a a := of_plain (plain_of_no_colon h)

theorem append {a' b' : String} (h : N.Texts a b) (h' : N.Texts a' b') :
    N.Texts (a ++ a') (b ++ b') := by
  unfold Texts
  rw [String.toList_append, String.toList_append]
  exact Renumbers.append h h'

theorem placeholder {i : Nat} (hleft : N.left + i < maxNumber) (hright : N.right + i < maxNumber) :
    N.Texts (name (N.left + i + 1)) (name (N.right + i + 1)) := by
  have h := Renumbers.placeholder hleft hright .nil
  rwa [List.append_nil, List.append_nil] at h

theorem eq (hN : N.left = N.right) (h : N.Texts a b) : a = b :=
  String.toList_inj.mp (Renumbers.eq hN h)

theorem checkSqlText (h : N.Texts a b) (ha : checkSqlText a = .ok ()) :
    SqlCompose.checkSqlText b = .ok () := by
  have hblank : Text.allBlank b = Text.allBlank a := Renumbers.all_isBlank h
  unfold SqlCompose.checkSqlText at *
  rwa [hblank]

theorem framed {f : String → String} {opening closing : String} (hf : Frames f opening closing)
    (h : N.Texts a b) : N.Texts (f a) (f b) := by
  rw [hf.eq, hf.eq]
  exact ((of_no_colon hf.noColon_opening).append h).append (of_no_colon hf.noColon_closing)

theorem commas (h : List.Forall₂ N.Texts as bs) :
    N.Texts (", ".intercalate as) (", ".intercalate bs) := by
  induction h with
  | nil => exact .nil
  | cons hab hrest ih =>
    cases hrest with
    | nil =>
      rw [String.intercalate_singleton, String.intercalate_singleton]
      exact hab
    | cons _ _ =>
      rw [String.intercalate_cons_cons, String.intercalate_cons_cons]
      exact (hab.append (of_no_colon (by decide))).append ih

/-- In parentheses or not. -/
theorem enclosed (isQuery : Bool) (h : N.Texts a b) :
    N.Texts (enclosed isQuery a) (enclosed isQuery b) := by
  cases isQuery with
  | false => exact h
  | true =>
    exact ((of_no_colon (a := "(") (by decide)).append h).append
      (of_no_colon (a := ")") (by decide))

end Texts

/-! ## Functions -/

theorem Texts.call {name : String} (hname : Plain N.plain name) (h : List.Forall₂ N.Texts as bs)
    (distinct : Bool) :
    N.Texts ((SqlFunction.call name).render as distinct)
      ((SqlFunction.call name).render bs distinct) := by
  have hdistinct : NoColon (if distinct then "DISTINCT " else "") := by cases distinct <;> decide
  have hlist : N.Texts
      (if as.isEmpty && Text.sameIgnoringAsciiCase name "COUNT" then "*" else ", ".intercalate as)
      (if bs.isEmpty && Text.sameIgnoringAsciiCase name "COUNT" then "*"
        else ", ".intercalate bs) := by
    cases h with
    | nil =>
      refine of_no_colon ?_
      split <;> decide
    | cons hab hrest =>
      simp only [List.isEmpty_cons, Bool.false_and, Bool.false_eq_true, if_false]
      exact commas (.cons hab hrest)
  have hopen : N.Texts (name ++ "(") (name ++ "(") :=
    (of_plain hname).append (of_no_colon (by decide))
  exact ((hopen.append (of_no_colon hdistinct)).append hlist).append (of_no_colon (by decide))

/-- Every dialect writes a valid call around its arguments. -/
theorem Texts.function {kind : FunctionKind} {distinct : Bool} (hname : Plain N.plain kind.name)
    (hvalid : checkCall kind as.length distinct = .ok ()) (h : List.Forall₂ N.Texts as bs) :
    N.Texts ((d.function kind).render as distinct) ((d.function kind).render bs distinct) := by
  generalize hf : d.function kind = f
  have hshape := hf ▸ d.shape_function kind
  cases hshape with
  | call name => exact .call (name N.plain N.admits.writable hname) h distinct
  | keyword harity hunmarked => exact of_no_colon hunmarked.noColon
  | @template opening closing harity hwraps =>
    obtain ⟨a, rfl⟩ := exists_eq_singleton_of_checkCall hvalid harity
    cases h with
    | cons hab hrest =>
      cases hrest
      rw [SqlFunction.render_template hwraps.opening_brace hwraps.closing_brace,
        SqlFunction.render_template hwraps.opening_brace hwraps.closing_brace]
      exact ((of_no_colon hwraps.noColon_opening).append hab).append
        (of_no_colon hwraps.noColon_closing)

/-! ## Tokens -/

/-- Two token lists have texts that are the same but for the numbers of placeholders. -/
def Tokens (N : Numbering) (d : Dialect) (as bs : List Token) : Prop :=
  N.Texts (sqlText d as) (sqlText d bs)

namespace Tokens

variable {as bs as' bs' : List Token}

theorem nil : N.Tokens d [] [] := Renumbers.nil

theorem append (h : N.Tokens d as bs) (h' : N.Tokens d as' bs') :
    N.Tokens d (as ++ as') (bs ++ bs') := by
  unfold Tokens Texts
  rw [Reading.toList_append, Reading.toList_append]
  exact Renumbers.append h h'

theorem cons {s t : Token} (ht : N.Texts (s.text d) (t.text d)) (h : N.Tokens d as bs) :
    N.Tokens d (s :: as) (t :: bs) := by
  unfold Tokens Texts
  rw [toList_sqlText, toList_sqlText, List.flatMap_cons, List.flatMap_cons, ← toList_sqlText,
    ← toList_sqlText]
  exact Renumbers.append ht h

/-- A word or a mark. -/
theorem fixed {t : Token} (ht : t ∈ Token.fixed) (h : N.Tokens d as bs) :
    N.Tokens d (t :: as) (t :: bs) := cons (.of_no_colon (noColon_fixed d ht)) h

/-- Several words and marks. -/
theorem words {k : List Token} (hk : ∀ t ∈ k, t ∈ Token.fixed) : N.Tokens d k k := by
  induction k with
  | nil => exact nil
  | cons t rest ih =>
    exact fixed (hk t List.mem_cons_self) (ih fun t' ht => hk t' (List.mem_cons_of_mem t ht))

/-- Finished SQL. -/
theorem fragment (hab : N.Texts a b) (h : N.Tokens d as bs) :
    N.Tokens d (.fragment a :: as) (.fragment b :: bs) := cons hab h

theorem optional {keyword : Token} (hkeyword : keyword ∈ Token.fixed) (hab : N.Texts a b) :
    N.Tokens d (optionalClause keyword (some a)) (optionalClause keyword (some b)) :=
  fixed (by decide) (fixed hkeyword (fixed (by decide) (fragment hab nil)))

theorem commas {texts texts' : List String} (h : List.Forall₂ N.Texts texts texts') :
    N.Tokens d (commaSeparated texts) (commaSeparated texts') := by
  unfold Tokens
  rw [sqlText_commaSeparated, sqlText_commaSeparated]
  exact .commas h

/-- The alias of a table. -/
theorem aliased {aliasName : Option String} (h : ∀ a ∈ aliasName, Plain N.plain a) :
    N.Tokens d (aliasTokens aliasName) (aliasTokens aliasName) := by
  cases aliasName with
  | none => exact nil
  | some a => exact fixed (by decide) (cons (.of_plain (h a rfl)) nil)

theorem negation (negated : Bool) : N.Tokens d (negation negated) (negation negated) := by
  cases negated <;> exact words (by decide)

/-- Filters in parentheses. -/
theorem junction (op : Connective) {children children' : List (List Token)}
    (h : List.Forall₂ (N.Tokens d) children children') :
    N.Tokens d (junctionTokens op children) (junctionTokens op children') := by
  have hwords : ∀ t ∈ [Token.rightParen, .space, op.token, .space, .leftParen],
      t ∈ Token.fixed := by
    cases op <;> decide
  refine append (fixed (by decide) ?_) (words (by decide))
  induction h with
  | nil => exact nil
  | cons htokens hrest ih =>
    cases hrest with
    | nil =>
      rw [List.intercalate_singleton, List.intercalate_singleton]
      exact htokens
    | cons _ _ =>
      rw [List.intercalate_cons_cons, List.intercalate_cons_cons]
      exact append (append htokens (words hwords)) ih

end Tokens

/-- A match of an operand with a pattern. -/
theorem Tokens.like {o o' marker marker' : String} (ignoreCase : Bool) (ho : N.Texts o o')
    (hmarker : N.Texts marker marker') :
    N.Tokens d (Like.tokens d (Like.operand d o ignoreCase) marker)
      (Like.tokens d (Like.operand d o' ignoreCase) marker') := by
  have hoperand : N.Texts (Like.operand d o ignoreCase) (Like.operand d o' ignoreCase) := by
    cases ignoreCase with
    | false => exact ho
    | true =>
      simp only [Like.operand, if_true, function_lower]
      exact .call (plain_of_no_colon (by decide)) (.cons ho .nil) false
  have hquoted : N.Tokens d [Token.string (String.singleton Like.escapeChar)]
      [Token.string (String.singleton Like.escapeChar)] :=
    cons (.of_no_colon (noColon_quote d)) nil
  -- what the escape clause adds is the same on both sides
  have hescape : N.Tokens d
      (if d.info.likeEscape then [.space, .escape, .space, .string (String.singleton Like.escapeChar)]
        else [])
      (if d.info.likeEscape then [.space, .escape, .space, .string (String.singleton Like.escapeChar)]
        else []) := by
    split
    · exact fixed (by decide) (fixed (by decide) (fixed (by decide) hquoted))
    · exact nil
  have hlike : N.Tokens d [.space, .like, .space, .fragment marker]
      [.space, .like, .space, .fragment marker'] :=
    fixed (by decide) (fixed (by decide) (fixed (by decide) (fragment hmarker nil)))
  unfold Like.tokens
  exact append (fragment hoperand hlike) hescape

/-! ## SELECT statements -/

/-- Two columns have the same plain alias, and SQL that is the same but for the
numbers of placeholders. -/
structure Columns (N : Numbering) (a b : ProjectedColumn) : Prop where
  sql : N.Texts a.sql b.sql
  aliasName : a.aliasName = b.aliasName
  plain : ∀ s ∈ a.aliasName, Plain N.plain s

theorem Columns.text {a b : ProjectedColumn} (h : N.Columns a b) : N.Texts a.text b.text := by
  obtain ⟨sql, aliasName⟩ := a
  obtain ⟨sql', aliasName'⟩ := b
  obtain ⟨hsql, heq, hplain⟩ := h
  cases heq
  cases aliasName with
  | none => exact hsql
  | some s => exact (hsql.append (.of_no_colon (by decide))).append (.of_plain (hplain s rfl))

/-- Two select lists, or stars. -/
theorem Tokens.list {columns columns' : List ProjectedColumn}
    (h : List.Forall₂ N.Columns columns columns') :
    N.Tokens d (ProjectedColumn.list columns) (ProjectedColumn.list columns') := by
  cases h with
  | nil => exact words (by decide)
  | cons hcolumn hrest =>
    refine commas (List.forall₂_map_left_iff.mpr (List.forall₂_map_right_iff.mpr ?_))
    exact (List.Forall₂.cons hcolumn hrest).imp fun _ _ h => h.text

/-- Two lists of clauses that are written as the same words around their pieces. -/
structure Clauses (N : Numbering) (d : Dialect) (c c' : SelectClauses) : Prop where
  distinct : c'.distinct = c.distinct
  columns : List.Forall₂ N.Columns c.columns c'.columns
  source : N.Texts c.source c'.source
  condition : N.Tokens d (optionalClause .where c.condition) (optionalClause .where c'.condition)
  order : N.Tokens d (optionalClause .orderBy c.order) (optionalClause .orderBy c'.order)

theorem Clauses.tokens {c c' : SelectClauses} (h : N.Clauses d c c') :
    N.Tokens d c.tokens c'.tokens := by
  have hdistinct : N.Tokens d (if c.distinct then [.distinct, .space] else [])
      (if c'.distinct then [.distinct, .space] else []) := by
    rw [h.distinct]
    cases c.distinct <;> exact .words (by decide)
  have hfrom : N.Tokens d [.space, .from, .space, .fragment c.source]
      [.space, .from, .space, .fragment c'.source] :=
    .fixed (by decide) (.fixed (by decide) (.fixed (by decide) (.fragment h.source .nil)))
  have hselect : N.Tokens d [.select, .space] [.select, .space] := .words (by decide)
  exact ((((hselect.append hdistinct).append (.list h.columns)).append hfrom).append
    h.condition).append h.order

/-- A page is kept on both sides or on none. -/
theorem Texts.page {limit offset : Option Nat} {ordered : Bool} {paged : String}
    (h : N.Texts a b) (hpage : d.page a limit offset ordered = .ok paged) :
    ∃ paged', d.page b limit offset ordered = .ok paged' ∧ N.Texts paged paged' := by
  rcases d.page_frames limit offset ordered with
    ⟨e, he⟩ | hid | ⟨f, opening, closing, hf, hframes, _⟩
  · rw [he] at hpage
    cases hpage
  · rw [hid] at hpage
    cases hpage
    exact ⟨b, hid b, h⟩
  · rw [hf] at hpage
    cases hpage
    exact ⟨f b, hf b, h.framed hframes⟩

theorem Texts.lock (lock : Option Lock) (h : N.Texts a b) : N.Texts (d.lock a lock) (d.lock b lock) := by
  rcases d.lock_frames lock with hid | ⟨opening, closing, hframes, _⟩
  · rw [hid, hid]
    exact h
  · exact h.framed hframes

end Numbering

end SqlCompose
