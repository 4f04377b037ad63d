import SqlCompose.Proofs.Fragments
import SqlCompose.Proofs.Worded

/-!
# SqlCompose.Proofs.Wording -- paths, sources and clauses made of words

A statement whose names are words, and that has no raw SQL, is laid out by the library alone.
Its paths are words with dots between them, its values are placeholders, and its joins and
conditions follow what stands before them with a word in between.
-/

namespace SqlCompose

open Compose Lexeme

/-! ## Ingredients -/

/-- What statements may have: names that are words, and values of a kind that all literals have. -/
structure Wording where
  strict : Bool
  value : Parameter → Prop
  literal : ∀ (d : Dialect) (l : Literal), value (l.parameter d)

/-- A statement may have the ingredient. -/
def Wording.Has (W : Wording) : Ingredient → Prop
  | .name s => IsIdentifier W.strict s
  | .raw _ => False
  | .value p => W.value p

/-- A rule that is not about commas, and about the word ORDER only if no name is that word. -/
structure Wording.Obeys (W : Wording) (rule : Rule) : Prop where
  commas : rule ≠ .uncut
  strict : rule = .unordered → W.strict = true

/-- What a computation gives in scopes with such names is laid out. -/
abbrev Wording.Gives (W : Wording) (base : Context) (rule : Rule) (x : Compose String) : Prop :=
  x.Upholds base (Scope.IsWorded W.strict) fun acc text => LaysText W.value acc rule text

/-- A sub-select without parentheses around it. -/
def Item.isBare : Item → Bool
  | .select _ enclosed _ => !enclosed
  | .value _ => false

/-- Outside of parentheses a sub-select may have anything. -/
def Lexeme.Rule.Allows (rule : Rule) (items : List Item) : Prop :=
  rule = .anything ∨ ∀ i ∈ items, i.isBare = false

variable {base : Context} {W : Wording} {value : Parameter → Prop}
  {acc : Accumulator} {rule : Rule} {strict : Bool} {a : String} {d : Dialect} {items : List Item}

namespace Wording

theorem has_named {names : List String} :
    (∀ i ∈ named names, W.Has i) ↔ ∀ s ∈ names, IsIdentifier W.strict s := List.forall_mem_map

theorem obeys_anything (W : Wording) : W.Obeys .anything := ⟨by decide, nofun⟩

end Wording

theorem Lexeme.Rule.allows_append {others : List Item} :
    rule.Allows (items ++ others) ↔ rule.Allows items ∧ rule.Allows others := by
  unfold Rule.Allows
  rw [List.forall_mem_append, or_and_left]

theorem Lexeme.Rule.eq_anything_of_bare {q : SelectQuery} {inner : List Item}
    (h : rule.Allows [.select q false inner]) : rule = .anything := by
  refine h.resolve_right fun hbare => ?_
  exact absurd (hbare _ (List.mem_singleton_self _)) (by simp [Item.isBare])

/-! ## Paths -/

theorem Path.isDotted_key {p : Path} (h : ∀ s ∈ p.names, IsIdentifier strict s) :
    IsDotted strict p.key := by
  induction p with
  | root name aliasName => exact .name (h _ (Path.root name aliasName).name_mem_names)
  | child parent name aliasName ih =>
    rw [Path.names, List.forall_mem_append, List.forall_mem_cons] at h
    exact .dot (ih h.1) (.name h.2.1)

theorem isIdentifier_mappedColumn {model : Option DataModel}
    (hmodel : ∀ s ∈ modelNames model, IsIdentifier strict s) (b : Option Binding) {property : String}
    (h : IsIdentifier strict property) : IsIdentifier strict (mappedColumn model b property) := by
  rcases mappedColumn_eq_or_mem model b property with heq | hmem
  · rwa [heq]
  · exact hmodel _ hmem

/-- A column of what a path leads to, with dots between the names. -/
theorem dotted_path (hmodel : ∀ s ∈ modelNames base.model, IsIdentifier strict s) {p : Path}
    (h : ∀ s ∈ p.names, IsIdentifier strict s) :
    p.sql.Upholds base (Scope.IsWorded strict) fun _ text => IsDotted strict text := by
  have hcolumn : ∀ b, IsIdentifier strict (mappedColumn base.model b p.name) := fun b =>
    isIdentifier_mappedColumn hmodel b (h _ p.name_mem_names)
  unfold Path.sql
  cases hparent : p.parent with
  | none =>
    refine .bind (.lookup (P := fun b => ∀ b' ∈ b, b'.IsWorded strict) fun chain hchain b hb =>
      Scope.isWorded_findBinding hchain hb) fun b _ => ?_
    refine .bind (.column b p.name) fun column _ => ?_
    cases b with
    | none => exact .pure fun _ heq _ => heq ▸ .name (hcolumn none)
    | some b => exact .pure fun _ heq hb => .dot (hb b rfl).qualifier (heq ▸ .name (hcolumn b))
  | some parent =>
    have hnames : ∀ s ∈ parent.names, IsIdentifier strict s :=
      fun s hs => h s (Path.mem_names_of_parent hparent hs)
    refine .bind .aliasMode fun mode _ => ?_
    refine .bind (.lookup (P := fun b => ∀ b' ∈ b, b'.IsWorded strict) fun chain hchain b hb =>
      Scope.isWorded_findBinding hchain hb) fun b _ => ?_
    refine .bind (.lookup (P := fun o => ∀ a ∈ o, IsIdentifier strict a) fun chain hchain a ha => ?_)
      fun aliasName _ => ?_
    · rcases mem_findAlias ha with hown | ⟨b, hb, hbound⟩
      · exact hnames a (Path.mem_names_of_alias hown)
      · exact (Scope.isWorded_findBinding hchain hb).aliasName a hbound
    refine .bind (.column b p.name) fun column _ => ?_
    refine .pure fun _ heq halias hb _ => .dot ?_ (heq ▸ .name (hcolumn b))
    -- a parent is written by an alias, by the table that its key is bound to, or by itself
    cases haliasName : aliasName with
    | some a => exact .name (halias a haliasName)
    | none =>
      cases b with
      | some b => exact (hb b rfl).qualifier
      | none => exact Path.isDotted_key hnames

/-! ## Values -/

theorem gives_placeholder (rule : Rule) (hregistry : base.registry.IsPlain) (l : Literal) :
    W.Gives base rule l.placeholder := by
  refine .bind (.resolveParameter hregistry l) fun p _ => ?_
  refine (Upholds.addParameter p).mono fun acc name hname hp => ?_
  exact Lays.value (hp ▸ W.literal base.dialect l) hname

theorem gives_placeholders (rule : Rule) (hregistry : base.registry.IsPlain)
    (temporal : Option TemporalKind) (items : List Value) :
    (items.mapM fun item => Literal.placeholder ⟨item, temporal⟩).Upholds base
      (Scope.IsWorded W.strict) fun acc texts =>
        texts.length = items.length ∧ ∀ text ∈ texts, LaysText W.value acc rule text := by
  induction items with
  | nil => exact .pure fun _ => by simp
  | cons item rest ih =>
    rw [List.mapM_cons]
    refine .bind (gives_placeholder rule hregistry ⟨item, temporal⟩) fun text _ => ?_
    refine .bind ih fun texts _ => ?_
    exact .pure fun _ htexts htext =>
      ⟨congrArg (· + 1) htexts.1, List.forall_mem_cons.mpr ⟨htext, htexts.2⟩⟩

/-- A literal is the placeholder of its value, or a list of such placeholders. -/
theorem gives_literal (hregistry : base.registry.IsPlain) (hrule : rule ≠ .uncut) (l : Literal) :
    W.Gives base rule l.resolveSql := by
  refine .resolveText hregistry fun _ => ?_
  unfold Literal.sql
  cases l.value with
  | list items =>
    refine .bind (gives_placeholders rule hregistry l.temporal items) fun texts _ => ?_
    exact .pure fun acc htexts => .commas hrule htexts.2
  | _ => exact gives_placeholder rule hregistry l

/-! ## Tails -/

/-- Tokens that can stand behind any text that is laid out. -/
def LaysTail (value : Parameter → Prop) (acc : Accumulator) (rule : Rule) (d : Dialect)
    (tokens : List Token) : Prop :=
  ∀ a, LaysText value acc rule a → LaysText value acc rule (a ++ sqlText d tokens)

namespace LaysTail

variable {tokens tokens' : List Token} {b : String}

theorem nil : LaysTail value acc rule d [] := fun a ha => by simpa [sqlText] using ha

theorem append (h : LaysTail value acc rule d tokens) (h' : LaysTail value acc rule d tokens') :
    LaysTail value acc rule d (tokens ++ tokens') := by
  intro a ha
  rw [sqlText_append, ← String.append_assoc]
  exact h' _ (h a ha)

/-- A blank and a name or an expression behind it. -/
theorem spaced {t : Token} (ht : LaysText value acc rule (t.text d)) :
    LaysTail value acc rule d [.space, t] := by
  intro a ha
  have htext := ha.join (f := " ") (by decide) ht
  simpa [sqlText_cons, Token.text, ← String.append_assoc, sqlText] using htext

/-- A word between blanks, and a name or an expression behind it. -/
theorem clause {keyword t : Token} (hkeyword : keyword ∈ Token.fixed)
    (hparts : Parts (" " ++ keyword.text (Dialect.new .ansi) ++ " "))
    (ht : LaysText value acc rule (t.text d)) :
    LaysTail value acc rule d [.space, keyword, .space, t] := by
  intro a ha
  have htext := ha.join hparts ht
  rw [← Token.text_of_fixed d _ hkeyword] at htext
  simpa [sqlText_cons, Token.text, ← String.append_assoc, sqlText] using htext

/-- The alias of a table. -/
theorem aliased (hrule : rule = .unordered → strict = true) {aliasName : Option String}
    (h : ∀ a ∈ aliasName, IsIdentifier strict a) :
    LaysTail value acc rule d (aliasTokens aliasName) := by
  cases aliasName with
  | none => exact nil
  | some a => exact spaced (.name (h a rfl) hrule)

end LaysTail

/-! ## Sources -/

/-- What a source writes of its target is made of words, and the conditions of its joins are
laid out. -/
structure Source.IsLaid (base : Context) (W : Wording) (rule : Rule) (s : Source) : Prop where
  target : s.target.IsWorded W.strict
  conditions : ∀ o ∈ s.conditions, ∀ condition ∈ o, W.Gives base rule condition

theorem tail_condition {o : Option (Compose String)} (h : ∀ condition ∈ o, W.Gives base rule condition) :
    (conditionTokens o).Upholds base (Scope.IsWorded W.strict) fun acc tokens =>
      LaysTail W.value acc rule base.dialect tokens := by
  cases o with
  | none => exact .pure fun _ => .nil
  | some condition =>
    refine .bind (h condition rfl) fun sql _ => .pure fun _ hsql => ?_
    exact .clause (by decide) (by decide) hsql

theorem tail_joins (hrule : W.Obeys rule) {joins : List Join}
    {conditions : List (Option (Compose String))}
    (h : ∀ o ∈ conditions, ∀ condition ∈ o, W.Gives base rule condition) :
    (joinTokens (joins.zip conditions)).Upholds base (Scope.IsWorded W.strict) fun acc tokens =>
      LaysTail W.value acc rule base.dialect tokens := by
  induction joins generalizing conditions with
  | nil => exact .pure fun _ => .nil
  | cons j joins ih =>
    cases conditions with
    | nil => exact .pure fun _ => .nil
    | cons o conditions =>
      obtain ⟨ho, hrest⟩ := List.forall_mem_cons.mp h
      rw [List.zip_cons_cons, joinTokens]
      refine .bind (.lookup (P := fun b => ∀ b' ∈ b, b'.IsWorded W.strict) fun chain hchain b hb =>
        Scope.isWorded_findBinding hchain hb) fun b _ => ?_
      cases b with
      | none => exact .refuse _
      | some b =>
        refine .bind (tail_condition ho) fun on _ => .bind (ih hrest) fun others _ => ?_
        refine .pure fun acc hothers hon hb => ?_
        -- kinds of joins are words that no rule is about
        have hjoin : LaysTail W.value acc rule base.dialect
            [.space, .join j.kind, .space, .ident b.table] :=
          .clause (by cases j.kind <;> decide) (by cases j.kind <;> decide)
            (LaysText.dotted (hb b rfl).table hrule.strict)
        exact ((hjoin.append (.aliased hrule.strict (hb b rfl).aliasName)).append hon).append hothers

/-- The text of a source is a table with its alias, and its joins. -/
theorem Source.IsLaid.text {s : Source} (hrule : W.Obeys rule) (h : s.IsLaid base W rule) :
    W.Gives base rule s.text := by
  unfold Source.text
  refine .bind (.updateScope fun scope hscope => hscope.seed h.target) fun _ _ => ?_
  refine .bind (.lookup (P := fun b => ∀ b' ∈ b, b'.IsWorded W.strict) fun chain hchain b hb =>
    Scope.isWorded_findBinding hchain hb) fun root _ => ?_
  refine .bind (tail_joins hrule h.conditions) fun joins _ => ?_
  refine .write fun acc hjoins hroot _ => ?_
  have halias : ∀ a ∈ root.bind Binding.aliasName, IsIdentifier W.strict a := by
    intro a ha
    obtain ⟨b, hb, ha⟩ := Option.bind_eq_some_iff.mp ha
    exact (hroot b hb).aliasName a ha
  have htable : LaysText W.value acc rule
      (Token.text base.dialect (.qualified s.target.schema s.target.table)) :=
    .dotted (isDotted_qualified h.target.schema h.target.table) hrule.strict
  rw [List.cons_append, sqlText_cons]
  exact (LaysTail.aliased hrule.strict halias).append hjoins _ htable

/-! ## Columns -/

/-- The aliases of columns are words if those that were given are. -/
theorem Selection.isIdentifier_aliases (mode : AliasMode) (sequence : Nat) (g : AliasGenerator)
    {selections : List Selection}
    (h : ∀ s ∈ selections, ∀ a ∈ s.explicitAlias, IsIdentifier strict a) :
    ∀ o ∈ Selection.aliases mode sequence g selections, ∀ a ∈ o, IsIdentifier strict a := by
  induction selections generalizing g with
  | nil => simp [Selection.aliases]
  | cons s rest ih =>
    obtain ⟨hgiven, hrest⟩ := List.forall_mem_cons.mp h
    rw [Selection.aliases]
    refine List.forall_mem_cons.mpr ⟨?_, ih _ hrest⟩
    intro a ha
    cases mode with
    | unsupported => cases ha
    | explicitOnly => exact hgiven a ha
    | auto =>
      cases halias : s.explicitAlias with
      | some given =>
        simp only [halias, Option.mem_def, Option.some.injEq] at ha
        exact hgiven a (by simp [halias, ha])
      | none =>
        simp only [halias, Option.mem_def, Option.some.injEq] at ha
        exact ha ▸ isIdentifier_next g s.localName sequence

theorem LaysText.column {c : ProjectedColumn} (hrule : rule = .unordered → strict = true)
    (h : LaysText value acc rule c.sql) (halias : ∀ a ∈ c.aliasName, IsIdentifier strict a) :
    LaysText value acc rule c.text := by
  obtain ⟨sql, aliasName⟩ := c
  cases aliasName with
  | none => exact h
  | some a => exact join (f := " AS ") (by decide) h (name (halias a rfl) hrule)

/-! ## Clauses -/

/-- The clauses of a query are laid out. -/
structure SelectClauses.IsLaid (value : Parameter → Prop) (acc : Accumulator) (rule : Rule)
    (c : SelectClauses) : Prop where
  columns : ∀ column ∈ c.columns, LaysText value acc rule column.text
  source : LaysText value acc rule c.source
  condition : ∀ a ∈ c.condition, LaysText value acc rule a
  order : ∀ a ∈ c.order, LaysText value acc rule a

/-- The text of a query up to its order. -/
def SelectClauses.unordered (d : Dialect) (c : SelectClauses) : String :=
  sqlText d { c with order := none }.tokens

namespace SelectClauses.IsLaid

variable {c : SelectClauses}

theorem list (h : c.IsLaid value acc rule) (hrule : rule ≠ .uncut) :
    LaysText value acc rule (sqlText d (ProjectedColumn.list c.columns)) := by
  obtain ⟨distinct, columns, source, condition, order⟩ := c
  cases columns with
  | nil => exact .fixed (a := "*") (by decide)
  | cons column rest =>
    have hlist : ProjectedColumn.list (column :: rest) =
        commaSeparated ((column :: rest).map ProjectedColumn.text) := rfl
    rw [hlist, sqlText_commaSeparated]
    exact .commas hrule (List.forall_mem_map.mpr h.columns)

theorem unordered (h : c.IsLaid value acc rule) (hrule : rule ≠ .uncut) :
    LaysText value acc rule (c.unordered d) := by
  have hselect : LaysText value acc rule (if c.distinct then "SELECT DISTINCT" else "SELECT") := by
    refine .fixed ?_
    split <;> decide
  have hsource : LaysTail value acc rule d [.space, .from, .space, .fragment c.source] :=
    .clause (by decide) (by decide) h.source
  have hcondition : LaysTail value acc rule d (optionalClause .where c.condition) := by
    cases hgiven : c.condition with
    | none => exact .nil
    | some a => exact .clause (by decide) (by decide) (h.condition a hgiven)
  have htext := hsource.append hcondition _ (hselect.join (f := " ") (by decide) (h.list (d := d) hrule))
  have hwords : sqlText d ([Token.select, .space] ++ if c.distinct then [Token.distinct, .space] else []) =
      (if c.distinct then "SELECT DISTINCT" else "SELECT") ++ " " := by
    cases c.distinct <;> rfl
  simpa only [SelectClauses.unordered, tokens, optionalClause, List.append_nil, sqlText_append, hwords,
    String.append_assoc] using htext

end SelectClauses.IsLaid

/-- The order of a query stands behind all of its other clauses. -/
theorem SelectClauses.text_eq_unordered (d : Dialect) (c : SelectClauses) :
    sqlText d c.tokens = c.unordered d ++ sqlText d (optionalClause .orderBy c.order) := by
  simp only [unordered, tokens, optionalClause, List.append_nil, sqlText_append]

theorem SelectClauses.IsLaid.text {c : SelectClauses} (h : c.IsLaid value acc .anything) :
    LaysText value acc .anything (sqlText d c.tokens) := by
  have hunordered := h.unordered (d := d) (by decide)
  have hparts : Divides .anything " ORDER BY ".toList := by decide
  rw [c.text_eq_unordered]
  cases hgiven : c.order with
  | none => simpa [optionalClause, sqlText] using hunordered
  | some a =>
    have htext : LaysText value acc .anything (c.unordered d ++ " ORDER BY " ++ a) := by
      unfold LaysText
      rw [String.toList_append, String.toList_append]
      exact .join hparts hunordered (h.order a hgiven)
    simpa [optionalClause, sqlText_cons, Token.text, ← String.append_assoc, sqlText] using htext

end SqlCompose
