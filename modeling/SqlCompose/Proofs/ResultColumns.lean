import SqlCompose.Proofs.Rendering
import SqlCompose.Proofs.Statements

/-!
# SqlCompose.Proofs.ResultColumns -- the columns that a page returns

Two of the ways to keep a page write another statement around the one they are
given. A statement that selects all of another one returns its columns, and one
that computes something for each of its rows returns that as one more column. The
headers of such statements are read from the outside in, down to the statement
that has the select list of the query. A page returns the columns of that list,
and the row number behind them where the rows are numbered inside.
-/

namespace SqlCompose

open Compose

/-! ## Statements around statements -/

namespace Pagination

/-- The text before the first occurrence of a pattern, and the text behind it. -/
def splitFirst? (pattern : List Char) : List Char → Option (List Char × List Char)
  | [] => none
  | c :: rest =>
    match pattern.isPrefixOf? (c :: rest) with
    | some after => some ([], after)
    | none => (splitFirst? pattern rest).map fun parts => (c :: parts.1, parts.2)

/-- The last word of a text. -/
def lastWord (cs : List Char) : List Char := (cs.reverse.takeWhile (· ≠ ' ')).reverse

/-- The names that the header of a statement around another one adds to the columns
of that one, and the text behind the header. The header is `select * from ( ` or,
with an alias `r` and an expression `e` named `n`, `select r.*, e n from ( `. -/
def header? (cs : List Char) : Option (List String × List Char) :=
  match "select * from ( ".toList.isPrefixOf? cs with
  | some inner => some ([], inner)
  | none => do
    let (listed, inner) ← splitFirst? " from ( ".toList cs
    let listed ← "select ".toList.isPrefixOf? listed
    let (aliasName, added) ← splitFirst? ".*, ".toList listed
    if aliasName.all Text.isWordChar then some ([String.ofList (lastWord added)], inner) else none

theorem length_of_splitFirst? {pattern cs before after : List Char}
    (h : splitFirst? pattern cs = some (before, after)) : before.length + after.length ≤ cs.length := by
  induction cs generalizing before after with
  | nil => cases h
  | cons c rest ih =>
    rw [splitFirst?] at h
    split at h
    · next inner hprefix =>
      cases h
      rw [← List.isPrefixOf?_eq_some_iff_append_eq.mp hprefix]
      simp
    · obtain ⟨⟨first, others⟩, hparts, hpair⟩ := Option.map_eq_some_iff.mp h
      cases hpair
      have hrest := ih hparts
      simp only [List.length_cons]
      omega

/-- A header is not empty. -/
theorem length_of_header? {cs inner : List Char} {added : List String}
    (h : header? cs = some (added, inner)) : inner.length < cs.length := by
  rw [header?] at h
  split at h
  · next rest hprefix =>
    cases h
    rw [← List.isPrefixOf?_eq_some_iff_append_eq.mp hprefix, List.length_append]
    exact Nat.lt_add_of_pos_left (by decide)
  · simp only [Option.bind_eq_bind, Option.bind_eq_some_iff] at h
    obtain ⟨⟨before, rest⟩, hsplit, listed, hselect, ⟨aliasName, expr⟩, _, hadded⟩ := h
    have hlength := length_of_splitFirst? hsplit
    have hselect : "select ".toList ++ listed = before :=
      List.isPrefixOf?_eq_some_iff_append_eq.mp hselect
    rw [← hselect, List.length_append] at hlength
    have hword : 0 < "select ".toList.length := by decide
    split at hadded
    · cases hadded
      show rest.length < cs.length
      omega
    · cases hadded

/-- The names that all headers of a text add, from the innermost one on, and the text
behind the last header. -/
def peel (cs : List Char) : List String × List Char :=
  match h : header? cs with
  | none => ([], cs)
  | some (added, inner) =>
    have := length_of_header? h
    ((peel inner).1 ++ added, (peel inner).2)
termination_by cs.length

theorem peel_of_none {cs : List Char} (h : header? cs = none) : peel cs = ([], cs) := by
  rw [peel]
  split
  · rfl
  · next heq => rw [h] at heq; cases heq

theorem peel_of_some {cs inner : List Char} {added : List String}
    (h : header? cs = some (added, inner)) : peel cs = ((peel inner).1 ++ added, (peel inner).2) := by
  rw [peel]
  split
  · next heq => rw [h] at heq; cases heq
  · next heq =>
    rw [h] at heq
    cases heq
    rfl

/-- A text that does not start with a small `s` has no header. -/
theorem header?_of_head {c : Char} (hc : c ≠ 's') (hblank : c ≠ ' ') (cs : List Char) :
    header? (c :: cs) = none := by
  have hall : "select * from ( ".toList.isPrefixOf? (c :: cs) = none := by
    show (if ('s' == c) = true then _ else none) = none
    rw [if_neg (by simpa using fun h => hc h.symm)]
  have hfrom : " from ( ".toList.isPrefixOf? (c :: cs) = none := by
    show (if (' ' == c) = true then _ else none) = none
    rw [if_neg (by simpa using fun h => hblank h.symm)]
  have hselect : ∀ before, "select ".toList.isPrefixOf? (c :: before) = none := by
    intro before
    show (if ('s' == c) = true then _ else none) = none
    rw [if_neg (by simpa using fun h => hc h.symm)]
  rw [header?, hall]
  show (splitFirst? _ (c :: cs)).bind _ = none
  rw [splitFirst?, hfrom]
  cases splitFirst? " from ( ".toList cs with
  | none => rfl
  | some parts =>
    show ("select ".toList.isPrefixOf? (c :: parts.1)).bind _ = none
    rw [hselect]
    rfl

/-! ## Pages -/

/-- What a style writes in front of a statement consists of headers that add these names. -/
structure Heads (opening : String) (added : List String) : Prop where
  noColon : NoColon opening
  peel : ∀ cs, header? cs = none → Pagination.peel (opening.toList ++ cs) = (added, cs)

theorem heads_nothing : Heads "" [] := ⟨by decide, fun _ h => peel_of_none h⟩

theorem heads_all : Heads "select * from ( " [] := by
  refine ⟨by decide, fun cs h => ?_⟩
  have hheader : header? ("select * from ( ".toList ++ cs) = some ([], cs) := rfl
  rw [peel_of_some hheader, peel_of_none h]
  rfl

/-- One header that adds a name, inside one that adds nothing. -/
theorem heads_numbered {header : String} {name : String} (hcolon : NoColon header)
    (hheader : ∀ cs, header? (header.toList ++ cs) = some ([name], cs)) :
    Heads ("select * from ( " ++ header) [name] := by
  refine ⟨?_, fun cs h => ?_⟩
  · unfold NoColon
    rw [String.toList_append, List.mem_append, not_or]
    exact ⟨by decide, hcolon⟩
  · have hall : header? ("select * from ( ".toList ++ (header.toList ++ cs)) =
      some ([], header.toList ++ cs) := rfl
    rw [String.toList_append, List.append_assoc, peel_of_some hall, peel_of_some (hheader cs),
      peel_of_none h]
    rfl

end Pagination

open Pagination

/-- The names that a style adds to the columns of the statement. -/
def LimitStyle.addedColumns (style : LimitStyle) (skipped : Nat) : List String :=
  match style with
  | .rowNum => if 0 < skipped then ["rownum_"] else []
  | .rowNumber _ => ["rownumber_"]
  | _ => []

theorem skippedRows_toNat {offset : Option Nat} {skipped : Int}
    (h : skippedRows offset = .ok skipped) : skipped.toNat = offset.getD 0 := by
  cases offset with
  | none =>
    cases h
    rfl
  | some n =>
    rw [skippedRows] at h
    split at h
    · cases h
      rfl
    · cases h

/-- The names that a page returns behind the columns of the query: those of row numbers
that products without a clause for pages compute. -/
def Dialect.pageColumns (d : Dialect) : Option Nat → Option Nat → List String
  | none, _ => []
  | some _, offset =>
    match d.kind with
    | .oracle => if d.info.major < 12 ∧ 0 < offset.getD 0 then ["rownum_"] else []
    | .db2 | .sqlServer => if d.info.major < 11 then ["rownumber_"] else []
    | _ => []

theorem Dialect.addedColumns_limitStyle {d : Dialect} {style : LimitStyle}
    (h : d.limitStyle = some style) (limit : Nat) (offset : Option Nat) :
    style.addedColumns (offset.getD 0) = d.pageColumns (some limit) offset := by
  obtain ⟨kind, known⟩ := d
  -- two of the products number rows before their eleventh version, and Oracle before its twelfth
  have hnumber : ∀ (clause : LimitStyle) (f : String) (major : Nat),
      clause.addedColumns (offset.getD 0) = [] →
        (if major ≥ 11 then clause else .rowNumber f).addedColumns (offset.getD 0) =
          if major < 11 then ["rownumber_"] else [] := by
    intro clause f major hclause
    by_cases hmajor : major ≥ 11
    · rw [if_pos hmajor, if_neg (by omega), hclause]
    · rw [if_neg hmajor, if_pos (by omega)]
      rfl
  cases kind with
  | ansi => cases h
  | oracle =>
    rw [← Option.some.inj h]
    show LimitStyle.addedColumns (if (mk .oracle known).info.major ≥ 12 then _ else _) _ =
      if (mk .oracle known).info.major < 12 ∧ 0 < offset.getD 0 then _ else []
    by_cases hmajor : (mk .oracle known).info.major ≥ 12
    · rw [if_pos hmajor, if_neg (by omega)]
      rfl
    · rw [if_neg hmajor]
      exact if_congr (by omega) rfl rfl
  | db2 =>
    rw [← Option.some.inj h]
    exact hnumber _ _ _ rfl
  | sqlServer =>
    rw [← Option.some.inj h]
    exact hnumber _ _ _ rfl
  | _ =>
    cases h
    rfl

/-- A style that writes nothing in front. -/
theorem heads_after {f : String → String} (closing : String) (h : ∀ sql, f sql = sql ++ closing) :
    ∃ opening closing, (∀ sql, f sql = opening ++ sql ++ closing) ∧ Heads opening [] := by
  refine ⟨"", closing, fun sql => ?_, heads_nothing⟩
  rw [h, String.empty_append]

/-- The header that numbers rows with one of the functions in use. -/
theorem Dialect.header?_rowNumber {d : Dialect} {f : String}
    (h : d.limitStyle = some (.rowNumber f)) (cs : List Char) :
    header? (("select inner_.*, " ++ f ++ " as rownumber_ from ( ").toList ++ cs) =
      some (["rownumber_"], cs) := by
  have hnumberings := Dialect.mem_numberings h
  simp only [Pagination.numberings, List.mem_cons, List.not_mem_nil, or_false] at hnumberings
  rcases hnumberings with rfl | rfl <;> rfl

/-- What the style of a dialect writes in front of a statement. -/
theorem Dialect.heads_apply {d : Dialect} {style : LimitStyle} (h : d.limitStyle = some style)
    (limit : Nat) (offset : Int) (ordered : Bool) :
    ∃ opening closing, (∀ sql, style.apply sql limit offset ordered = opening ++ sql ++ closing) ∧
      Heads opening (style.addedColumns offset.toNat) := by
  cases style with
  | limitOffset =>
    by_cases hoffset : offset ≥ 0
    · exact heads_after _ fun sql => if_pos hoffset
    · exact heads_after _ fun sql => if_neg hoffset
  | offsetFetch =>
    by_cases hoffset : offset < 0
    · exact heads_after _ fun sql => if_pos hoffset
    · exact heads_after _ fun sql => if_neg hoffset
  | offsetFetchRequired => exact heads_after _ fun sql => String.append_assoc
  | rowNum =>
    -- rows are numbered only if some are skipped
    by_cases hoffset : offset ≤ 0
    · have hskipped : ¬ 0 < offset.toNat := by omega
      rw [LimitStyle.addedColumns, if_neg hskipped]
      exact ⟨_, _, fun sql => if_pos hoffset, heads_all⟩
    · have hskipped : 0 < offset.toNat := by omega
      rw [LimitStyle.addedColumns, if_pos hskipped]
      have hnumbered : Heads ("select * from ( " ++ "select row_.*, rownum rownum_ from ( ")
          ["rownum_"] := heads_numbered (by decide) fun cs => rfl
      exact ⟨_, _, fun sql => if_neg hoffset, hnumbered⟩
  | rowNumber f =>
    have hcolon : NoColon ("select inner_.*, " ++ f ++ " as rownumber_ from ( ") :=
      (unmarked_append (unmarked_append (by decide) (d.unmarked_rowNumber h)) (by decide)).noColon
    have hnumbered := heads_numbered hcolon (d.header?_rowNumber h)
    rw [← String.append_assoc, ← String.append_assoc] at hnumbered
    exact ⟨_, _, fun sql => String.append_assoc, hnumbered⟩

/-- What stands in front of a page, and the names it adds. -/
theorem Dialect.heads_page {d : Dialect} {sql paged : String} {limit offset : Option Nat}
    {ordered : Bool} (h : d.page sql limit offset ordered = .ok paged) :
    ∃ opening closing, paged = opening ++ sql ++ closing ∧
      Heads opening (d.pageColumns limit offset) := by
  cases limit with
  | none =>
    cases h
    exact ⟨"", "", by rw [String.empty_append, String.append_empty], heads_nothing⟩
  | some n =>
    unfold Dialect.page at h
    cases hskipped : skippedRows offset with
    | error e =>
      rw [hskipped] at h
      cases h
    | ok skipped =>
      rw [hskipped] at h
      cases hstyle : d.limitStyle with
      | none =>
        simp only [limitOffsetOrdered, hstyle] at h
        cases h
      | some style =>
        obtain ⟨opening, closing, happly, hheads⟩ := d.heads_apply hstyle n skipped ordered
        rw [skippedRows_toNat hskipped, addedColumns_limitStyle hstyle n] at hheads
        simp only [limitOffsetOrdered, hstyle] at h
        cases h
        exact ⟨opening, closing, happly sql, hheads⟩

/-! ## Compiled queries -/

/-- A text without colons is prepared as it is. -/
theorem yields_bindPieces_append {ctx : Context} {s t : Session} {u v : List Char} (hu : ':' ∉ u)
    {result : List Char × List Parameter}
    (h : (bindPieces (TextPiece.scan 0 (u ++ v))).Yields ctx s result t) :
    ∃ rest, (bindPieces (TextPiece.scan 0 v)).Yields ctx s rest t ∧
      result = (u ++ rest.1, rest.2) := by
  induction u generalizing result with
  | nil => exact ⟨result, h, rfl⟩
  | cons c u ih =>
    rw [List.mem_cons, not_or] at hu
    rw [List.cons_append, TextPiece.scan_char fun hc => hu.1 hc.symm] at h
    obtain ⟨inner, _, hinner, h⟩ := yields_bind.mp h
    obtain ⟨rfl, rfl⟩ := yields_pure.mp h
    obtain ⟨rest, hrest, rfl⟩ := ih hu.2 hinner
    exact ⟨rest, hrest, rfl⟩

theorem yields_prepare_append {ctx : Context} {s t : Session} {opening sql : String}
    (hopening : NoColon opening) {statement : SqlStatement}
    (h : (prepare (opening ++ sql)).Yields ctx s statement t) :
    ∃ inner : SqlStatement, (prepare sql).Yields ctx s inner t ∧
      statement = ⟨opening ++ inner.sql, inner.parameters⟩ := by
  obtain ⟨result, _, hresult, h⟩ := yields_bind.mp h
  obtain ⟨rfl, rfl⟩ := yields_pure.mp h
  rw [TextPiece.ofText, String.toList_append] at hresult
  obtain ⟨rest, hrest, rfl⟩ := yields_bindPieces_append hopening hresult
  refine ⟨⟨String.ofList rest.1, rest.2⟩, yields_bind.mpr ⟨rest, t, hrest, yields_pure.mpr ⟨rfl, rfl⟩⟩, ?_⟩
  rw [String.ofList_append, String.ofList_toList]

/-- The text of a query up to its source. -/
def selecting (d : Dialect) (distinct : Bool) (columns : List ProjectedColumn) : String :=
  sqlText d ([Token.select, .space] ++ (if distinct then [Token.distinct, .space] else []) ++
    commaSeparated (columns.map ProjectedColumn.text) ++ [Token.space, .from, .space])

theorem selecting_eq (d : Dialect) (distinct : Bool) (columns : List ProjectedColumn) :
    ∃ others, selecting d distinct columns = "SELECT" ++ others := by
  have hselect : sqlText d [Token.select] = "SELECT" := rfl
  refine ⟨sqlText d ([Token.space] ++ (if distinct then [Token.distinct, .space] else []) ++
    commaSeparated (columns.map ProjectedColumn.text) ++ [Token.space, .from, .space]), ?_⟩
  rw [selecting, ← hselect, ← sqlText_append]
  simp only [List.append_assoc, List.cons_append, List.nil_append]

theorem SelectClauses.text_eq (d : Dialect) (c : SelectClauses) (h : c.columns ≠ []) :
    ∃ rest, sqlText d c.tokens = selecting d c.distinct c.columns ++ rest := by
  have hlist : ProjectedColumn.list c.columns = commaSeparated (c.columns.map ProjectedColumn.text) := by
    cases hcolumns : c.columns with
    | nil => exact absurd hcolumns h
    | cons column others => rfl
  refine ⟨c.source ++ sqlText d (optionalClause .where c.condition) ++
    sqlText d (optionalClause .orderBy c.order), ?_⟩
  have hsource : sqlText d [Token.space, .from, .space, .fragment c.source] =
    sqlText d [.space, .from, .space] ++ c.source := rfl
  rw [tokens, hlist, selecting]
  simp only [sqlText_append, hsource, String.append_assoc]

/-- The columns that a compiled query returns: those of its select list, and behind them
those that the statements around it add. -/
def CompiledQuery.returned (q : CompiledQuery) : List String :=
  q.columns.map ProjectedColumn.text ++ (peel q.statement.sql.toList).1

/-- Rows are numbered by a column of the statement, for want of a clause for pages. -/
def Dialect.NumbersRows (d : Dialect) (skipped : Nat) : Prop :=
  d.kind = .oracle ∧ d.info.major < 12 ∧ 0 < skipped ∨
    (d.kind = .db2 ∨ d.kind = .sqlServer) ∧ d.info.major < 11

theorem Dialect.pageColumns_eq_nil_iff {d : Dialect} {limit offset : Option Nat} :
    d.pageColumns limit offset = [] ↔ (limit.isSome → ¬ d.NumbersRows (offset.getD 0)) := by
  obtain ⟨kind, known⟩ := d
  cases limit with
  | none => simp [pageColumns]
  | some n => cases kind <;> simp [pageColumns, NumbersRows]

/-- A query that is prepared starts with its select list, behind headers that add the
row numbers of its page. -/
theorem peel_of_prepare {ctx : Context} {s t : Session} {d : Dialect} {c : SelectClauses}
    {opening closing : String} {added : List String} (hheads : Heads opening added)
    (hcolumns : c.columns ≠ []) {statement : SqlStatement}
    (h : (prepare (opening ++ sqlText d c.tokens ++ closing)).Yields ctx s statement t) :
    ∃ rest inner, (prepare (selecting d c.distinct c.columns ++ rest)).Yields ctx s inner t ∧
      peel statement.sql.toList = (added, inner.sql.toList) ∧
        statement.parameters = inner.parameters := by
  obtain ⟨tail, htext⟩ := c.text_eq d hcolumns
  rw [String.append_assoc, htext, String.append_assoc] at h
  obtain ⟨inner, hinner, rfl⟩ := yields_prepare_append hheads.noColon h
  refine ⟨tail ++ closing, inner, hinner, ?_, rfl⟩
  have hselect := hinner
  obtain ⟨others, hothers⟩ := selecting_eq d c.distinct c.columns
  rw [hothers, String.append_assoc] at hselect
  obtain ⟨core, _, rfl⟩ := yields_prepare_append (by decide) hselect
  rw [String.toList_append]
  refine hheads.peel _ ?_
  rw [String.toList_append]
  exact header?_of_head (by decide) (by decide) _

/-- A query with a projection that is compiled selects its columns in the innermost
statement of its text, and returns them alone unless its rows are numbered for a page. -/
theorem page_returns_listed_iff {c : Compiler} {q : SelectQuery}
    (hprojection : q.projection.isSome) {streams streams' : StreamStore} {compiled : CompiledQuery}
    (h : c.compileSelect q streams = (.ok compiled, streams')) :
    (∃ rest inner t u,
      (prepare (selecting c.dialect q.distinct compiled.columns ++ rest)).Yields c.context t inner u ∧
        peel compiled.statement.sql.toList =
          (c.dialect.pageColumns q.limit q.offset, inner.sql.toList) ∧
        compiled.statement.parameters = inner.parameters) ∧
    compiled.columns ≠ [] ∧
    (compiled.returned = compiled.columns.map ProjectedColumn.text ↔
      (q.limit.isSome → ¬ c.dialect.NumbersRows (q.offset.getD 0))) := by
  obtain ⟨rendered, t, u, hrendered, hprepared, _, hcolumns⟩ := compileSelect_eq_ok h
  obtain ⟨_, clauses, hclauses, ⟨paged, hpaged, hsql⟩, hlisted⟩ :=
    SelectQuery.yields_renderOuter_clauses.mp hrendered
  obtain ⟨_, _, hclauses⟩ := SelectQuery.exists_clausesFrom hclauses
  obtain ⟨hdistinct, _, _, _, _, hprojected⟩ := SelectQuery.clauses_of_clausesFrom hclauses
  have hne : clauses.columns ≠ [] := by
    obtain ⟨p, hp⟩ := Option.isSome_iff_exists.mp hprojection
    rw [hp] at hprojected
    exact (Projection.length_columns hprojected).2
  rw [hcolumns, hlisted]
  have hdialect : c.context.dialect = c.dialect := rfl
  rw [hdialect] at hpaged hsql
  -- what stands in front of the query is peeled off before its placeholders are looked at
  obtain ⟨opening, closing, hpage, hheads⟩ := c.dialect.heads_page hpaged
  obtain ⟨clause, hlock⟩ := c.dialect.lock_eq q.lock
  rw [hsql, hlock, hpage, String.append_assoc] at hprepared
  obtain ⟨rest, inner, hinner, hpeel, hparameters⟩ := peel_of_prepare hheads hne hprepared
  rw [hdistinct] at hinner
  refine ⟨⟨rest, inner, t, u, hinner, hpeel, hparameters⟩, hne, ?_⟩
  rw [CompiledQuery.returned, hpeel, ← Dialect.pageColumns_eq_nil_iff, hcolumns, hlisted]
  exact List.append_right_eq_self

/-- A query for a page of a table, with a column for the name of each row. -/
def namesQuery (offset : Nat) : SelectQuery :=
  let selection : Selection := ⟨.path (.ofName "a"), some "x"⟩
  { SelectQuery.ofSource (.target {
      schema := none, table := "t", aliasName := none, joins := [], entity := none }) with
    projection := some ⟨[selection], none, none⟩
    limit := some 2
    offset := some offset }

/-- A compiler for Oracle before it had a clause for pages. -/
def oracleCompiler : Compiler :=
  { dialect := ⟨.oracle, some { Vendor.oracle.defaultInfo with major := 11 }⟩ }

/-- Where no row is skipped, a page by row numbers of the database returns the columns of
the query. -/
theorem page_returns_listed_iff_of_first :
    ∃ compiled streams', (namesQuery 0).projection.isSome ∧
      oracleCompiler.compileSelect (namesQuery 0) {} = (.ok compiled, streams') ∧
      compiled.returned = compiled.columns.map ProjectedColumn.text := by
  obtain ⟨compiled, streams', h⟩ := exists_of_isOk
    (by decide +kernel : (oracleCompiler.compileSelect (namesQuery 0) {}).1.isOk = true)
  refine ⟨compiled, streams', rfl, h, (page_returns_listed_iff rfl h).2.2.mpr fun _ => ?_⟩
  simp [Dialect.NumbersRows, oracleCompiler, namesQuery]

/-- Behind skipped rows the row number is returned as a column that is not listed. -/
theorem row_number_is_returned :
    (oracleCompiler.compileSelect (namesQuery 1) {}).1.toOption.map
      (fun compiled => (compiled.statement.sql,
        compiled.columns.map ProjectedColumn.text, compiled.returned)) =
        some ("select * from ( select row_.*, rownum rownum_ from ( SELECT t.a AS x FROM t ) row_ " ++
          "where rownum <= 3) where rownum_ > 1", ["t.a AS x"], ["t.a AS x", "rownum_"]) := by
  decide +kernel

end SqlCompose
