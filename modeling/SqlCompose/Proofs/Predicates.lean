import SqlCompose.Proofs.Adds
import SqlCompose.Proofs.Mapping
import SqlCompose.Proofs.Valid
import SqlCompose.Proofs.Words

/-!
# SqlCompose.Proofs.Predicates -- the text of one predicate

A predicate over paths and values starts with a path, and its operands are names and
placeholders with words, marks and parentheses between them. So its text is read as one
predicate, BETWEEN and its own AND included.
-/

namespace SqlCompose

open Compose

/-! ## Operands over paths and values -/

/-- A path. -/
def Expression.isPath : Expression → Bool
  | .path _ => true
  | _ => false

/-- A path or a literal. -/
def Expression.isSimple : Expression → Bool
  | .path _ => true
  | .literal _ => true
  | _ => false

/-- A path or a literal that is no list. -/
def Expression.isScalar : Expression → Bool
  | .path _ => true
  | .literal l => !l.value.isList
  | _ => false

/-! ## Operands -/

variable {ctx : Context} {scope : Scope} {names : List String}

/-- All names in a list are plain ones. -/
def AllIdentifiers (names : List String) : Prop := ∀ name ∈ names, isName name = true

/-- The library itself writes paths and literals, and every name that a path over some names may be
written with is a plain one. -/
structure Context.IsOrdinary (ctx : Context) (scope : Scope) (names : List String) : Prop where
  path : ctx.registry.IsOwnFor .path .sql
  literal : ctx.registry.IsOwnFor .literal .sql
  parameter : ctx.registry.IsOwnFor .literal .parameter
  plain : AllIdentifiers names
  model : AllIdentifiers
    (mappedNames ctx.model (names ++ (scope :: ctx.enclosing).flatMap Scope.entities))
  bindings : ∀ o ∈ scope :: ctx.enclosing, ∀ entry ∈ o.bindings,
    isName entry.2.table = true ∧ ∀ a ∈ entry.2.aliasName, isName a = true

/-- The resolvers of a dialect leave paths and literals to the library. -/
theorem Context.isOrdinary_of_dialect (hregistry : ctx.registry = ctx.dialect.registry)
    (hnames : AllIdentifiers names)
    (hmodel : AllIdentifiers
      (mappedNames ctx.model (names ++ (scope :: ctx.enclosing).flatMap Scope.entities)))
    (hbindings : ∀ o ∈ scope :: ctx.enclosing, ∀ entry ∈ o.bindings,
      isName entry.2.table = true ∧ ∀ a ∈ entry.2.aliasName, isName a = true) :
    ctx.IsOrdinary scope names where
  path := by
    rw [hregistry]
    exact ctx.dialect.registry_isOwnFor (r := { name := "path", kind := .path, form := .sql })
      (by simp [Registry.standardResolvers])
  literal := by
    rw [hregistry]
    exact ctx.dialect.registry_isOwnFor
      (r := { name := "literal-sql", kind := .literal, form := .sql })
      (by simp [Registry.standardResolvers])
  parameter := by
    rw [hregistry]
    exact ctx.dialect.registry_isOwnFor
      (r := { name := "literal-parameter", kind := .literal, form := .parameter })
      (by simp [Registry.standardResolvers])
  plain := hnames
  model := hmodel
  bindings := hbindings

section Operands

theorem Context.IsOrdinary.column (h : ctx.IsOrdinary scope names) {key : String}
    {useParent : Bool} {property : String} (hproperty : property ∈ names) :
    isName (mappedColumn ctx.model (findBinding key useParent (scope :: ctx.enclosing)) property) =
      true := by
  have hentity : ∀ b ∈ findBinding key useParent (scope :: ctx.enclosing), ∀ entity ∈ b.entity,
      entity ∈ names ++ (scope :: ctx.enclosing).flatMap Scope.entities := by
    intro b hb entity hentity
    obtain ⟨o, ho, hmem⟩ := exists_of_findBinding hb
    refine List.mem_append_right _ (List.mem_flatMap.mpr ⟨o, ho, ?_⟩)
    exact List.mem_filterMap.mpr ⟨_, hmem, hentity⟩
  rcases mappedColumn_eq_or_mem_mappedNames ctx.model hentity (List.mem_append_left _ hproperty)
    with heq | hmem
  · rw [heq]
    exact h.plain _ hproperty
  · exact h.model _ hmem

theorem Context.IsOrdinary.qualifier (h : ctx.IsOrdinary scope names) {key : String} {useParent : Bool}
    {b : Binding} (hb : findBinding key useParent (scope :: ctx.enclosing) = some b) :
    isName b.qualifier = true ∧ ∀ a ∈ b.aliasName, isName a = true := by
  obtain ⟨o, ho, hmem⟩ := exists_of_findBinding hb
  obtain ⟨htable, halias⟩ := h.bindings o ho _ hmem
  refine ⟨?_, halias⟩
  unfold Binding.qualifier
  cases hname : b.aliasName with
  | none => exact htable
  | some a => exact halias a hname

theorem Path.isName_key {p : Path} (h : AllIdentifiers p.names) : isName p.key = true := by
  induction p with
  | root name aliasName =>
    have hkey : (Path.root name aliasName).key = (Path.root name aliasName).name := rfl
    rw [hkey]
    exact h _ (Path.name_mem_names _)
  | child parent name aliasName ih =>
    have hkey : (Path.child parent name aliasName).key =
        parent.key ++ "." ++ (Path.child parent name aliasName).name := rfl
    rw [hkey]
    have hparents : AllIdentifiers parent.names :=
      fun s hs => h s (Path.mem_names_of_parent rfl hs)
    exact isName_dotted (ih hparents) (h _ (Path.name_mem_names _))

/-- A path is written as a plain name. -/
theorem Compose.Adds.path (h : ctx.IsOrdinary scope names) {p : Path} (hp : p.names ⊆ names) :
    p.sql.Adds ctx scope 0 fun _ text _ => isName text = true := by
  apply Compose.Adds.reads
  intro s hscope
  have hname := hp p.name_mem_names
  unfold Path.sql
  cases hparent : p.parent with
  | none =>
    simp only [yields_lookup_bind, yields_column_bind, hscope]
    have hcolumn :
        isName (mappedColumn ctx.model (findRoot (scope :: ctx.enclosing)) p.name) = true :=
      h.column hname
    cases hroot : findRoot (scope :: ctx.enclosing) with
    | none => exact ⟨_, hroot ▸ hcolumn, yields_pure.mpr ⟨rfl, rfl⟩⟩
    | some b =>
      exact ⟨_, isName_dotted (h.qualifier hroot).1 (hroot ▸ hcolumn),
        yields_pure.mpr ⟨rfl, rfl⟩⟩
  | some parent =>
    simp only [yields_aliasMode_bind, yields_lookup_bind, yields_column_bind, hscope]
    refine ⟨_, isName_dotted ?_ (h.column hname), yields_pure.mpr ⟨rfl, rfl⟩⟩
    have hparents : AllIdentifiers parent.names :=
      fun s hs => h.plain s (hp (Path.mem_names_of_parent hparent hs))
    have hfound : ∀ b, findBinding parent.key true (scope :: ctx.enclosing) = some b →
        isName b.qualifier = true ∧ ∀ a ∈ b.aliasName, isName a = true := fun b hb => h.qualifier hb
    -- an alias was given to the parent, or to the source that its key is bound to
    have halias : ∀ a ∈ findAlias ctx.aliasMode parent true (scope :: ctx.enclosing),
        isName a = true := by
      intro a ha
      rcases mem_findAlias ha with hown | ⟨b, hb, hbound⟩
      · exact hparents a (Path.mem_names_of_alias hown)
      · exact (hfound b hb).2 a hbound
    cases hexplicit : findAlias ctx.aliasMode parent true (scope :: ctx.enclosing) with
    | some a => exact halias a hexplicit
    | none =>
      cases hbinding : findBinding parent.key true (scope :: ctx.enclosing) with
      | some b => exact (hfound b hbinding).1
      | none => exact Path.isName_key hparents

/-- A literal that is no list is written as one placeholder. -/
theorem Compose.Adds.placeholder (h : ctx.IsOrdinary scope names) {l : Literal}
    (hvalid : l.validate = .ok ()) (hlist : l.value.isList = false) :
    l.placeholder.Adds ctx scope 1 fun _ name _ => IsOperand name.toList := by
  have hparameter : l.resolveParameter.Adds ctx scope 0 fun _ _ _ => True := by
    apply Compose.Adds.reads
    intro s _
    exact ⟨_, trivial, (yields_resolveParameter_of_isPlainFor h.parameter.plain).mpr
      ⟨⟨hvalid, h.parameter.answers, hlist⟩, rfl, rfl⟩⟩
  exact hparameter.step fun p _ => .addParameter p

theorem quiet_commas {names : List String} (h : ∀ name ∈ names, IsOperand name.toList) :
    Quiet (", ".intercalate names).toList := by
  induction names with
  | nil => decide
  | cons name rest ih =>
    have hname := (h name List.mem_cons_self).quiet
    cases rest with
    | nil => simpa using hname
    | cons next rest =>
      have hrest := ih fun name' hn => h name' (List.mem_cons_of_mem name hn)
      have hcomma : Quiet (", ".toList ++ (", ".intercalate (next :: rest)).toList) :=
        Quiet.append (by decide) hrest (.inl (by decide))
      rw [String.intercalate_cons_cons, String.toList_append, String.toList_append,
        List.append_assoc]
      exact hname.append hcomma (.inr (Text.stops_cons (c := ',') (by decide) _))

theorem visible_commas {name : String} {rest : List String} (h : IsOperand name.toList) :
    Text.allBlank (", ".intercalate (name :: rest)) = false := by
  obtain ⟨c, hc, hblank⟩ := List.all_eq_false.mp h.visible
  refine List.all_eq_false.mpr ⟨c, ?_, hblank⟩
  cases rest with
  | nil => simpa using hc
  | cons next rest =>
    rw [String.intercalate_cons_cons, String.toList_append, String.toList_append,
      List.append_assoc]
    exact List.mem_append_left _ hc

/-- The number of values that an expression binds. -/
def Expression.valueCount (e : Expression) (d : Dialect) : Nat :=
  (Item.allValues (e.outline d false)).length

theorem Compose.Adds.pathExpression (h : ctx.IsOrdinary scope names) {e : Expression}
    (hpath : e.isPath = true) (hvalid : e.validate = .ok ()) (hnames : e.names ⊆ names) :
    e.toSql.Adds ctx scope (e.valueCount ctx.dialect) fun _ text _ => isName text = true := by
  cases e with
  | path p =>
    rw [Expression.toSql]
    exact .resolveText h.path hvalid (.path h hnames) fun text => not_allBlank_of_isName
  | _ => cases hpath

theorem Compose.Adds.scalar (h : ctx.IsOrdinary scope names) {e : Expression}
    (hscalar : e.isScalar = true) (hvalid : e.validate = .ok ()) (hnames : e.names ⊆ names) :
    e.toSql.Adds ctx scope (e.valueCount ctx.dialect) fun _ text _ =>
      IsOperand text.toList := by
  cases e with
  | path p =>
    exact (Compose.Adds.pathExpression h rfl hvalid hnames).mono fun _ _ _ _ =>
      isOperand_of_isName
  | literal l =>
    have hlist : l.value.isList = false := (Bool.not_eq_true' _).mp hscalar
    have hcount : (Expression.literal l).valueCount ctx.dialect = 1 := by
      obtain ⟨value, temporal⟩ := l
      cases value with
      | list items => cases hlist
      | _ => rfl
    rw [Expression.toSql, hcount]
    unfold Literal.resolveSql
    rw [Literal.sql_of_not_list hlist]
    exact .resolveText h.literal hvalid (.placeholder h hvalid hlist) fun text ht => ht.visible
  | _ => cases hscalar

theorem Literal.valid_item {items : List Value} {temporal : Option TemporalKind}
    (h : Literal.validate ⟨.list items, temporal⟩ = .ok ()) {item : Value} (hitem : item ∈ items) :
    item.isList = false ∧ Literal.validate ⟨item, temporal⟩ = .ok () := by
  have hlist : item.isList = false :=
    Bool.eq_false_iff.mpr fun hi => (ok_unless_iff.mp h).1 (List.any_eq_true.mpr ⟨item, hitem, hi⟩)
  refine ⟨hlist, ?_⟩
  cases item with
  | list items => cases hlist
  | _ => rfl

theorem Expression.valueCount_list (d : Dialect) (items : List Value)
    (temporal : Option TemporalKind) :
    (Expression.literal ⟨.list items, temporal⟩).valueCount d = items.length := by
  show (Item.allValues (items.map fun item => .value (Literal.parameter d ⟨item, temporal⟩))).length
    = items.length
  induction items with
  | nil => rfl
  | cons item rest ih =>
    rw [List.map_cons, Item.allValues, List.length_append, ih, List.length_cons, Nat.add_comm]
    rfl

/-- A list that is not empty is written as placeholders with commas between them. -/
theorem Compose.Adds.list (h : ctx.IsOrdinary scope names) {item : Value} {rest : List Value}
    {temporal : Option TemporalKind}
    (hvalid : Literal.validate ⟨.list (item :: rest), temporal⟩ = .ok ()) :
    (Literal.sql ⟨.list (item :: rest), temporal⟩).Adds ctx scope (item :: rest).length
      fun _ text _ => Quiet text.toList ∧ Text.allBlank text = false := by
  have hnames : ((item :: rest).mapM fun i => Literal.placeholder ⟨i, temporal⟩).Adds ctx scope
      (item :: rest).length fun _ names _ =>
        names.length = (item :: rest).length ∧ ∀ name ∈ names, IsOperand name.toList := by
    apply Compose.Adds.mapM
    intro i hi
    obtain ⟨hlist, hi⟩ := Literal.valid_item hvalid hi
    exact .placeholder h hi hlist
  refine hnames.step fun names ⟨hlength, hoperands⟩ => .done ⟨quiet_commas hoperands, ?_⟩
  cases names with
  | nil => cases hlength
  | cons name others => exact visible_commas (hoperands name List.mem_cons_self)

/-- What stands behind IN, in its parentheses. -/
theorem Compose.Adds.listed (h : ctx.IsOrdinary scope names) {e : Expression}
    (hsimple : e.isSimple = true) (hempty : e.isEmptyList = false) (hvalid : e.validate = .ok ())
    (hnames : e.names ⊆ names) :
    e.toSql.Adds ctx scope (e.valueCount ctx.dialect) fun _ text _ =>
      Quiet text.toList := by
  cases hscalar : e.isScalar with
  | true => exact (Compose.Adds.scalar h hscalar hvalid hnames).mono fun _ _ _ _ ht => ht.quiet
  | false =>
    cases e with
    | literal l =>
      obtain ⟨value, temporal⟩ := l
      cases value with
      | list items =>
        rw [Expression.toSql, Expression.valueCount_list]
        cases items with
        | nil => cases hempty
        | cons item rest =>
          exact (Compose.Adds.resolveText h.literal hvalid (.list h hvalid) fun _ ht => ht.2).mono
            fun _ _ _ _ ht => ht.1
      | _ => cases hscalar
    | path p => cases hscalar
    | _ => cases hsimple

end Operands

/-! ## The texts of predicates -/

/-- A text that is one predicate. -/
structure IsPredicate (cs : List Char) : Prop where
  starts : Starts cs
  solid : EndsSolid cs

section Texts

variable {d : Dialect} {o l r : String} {u v : List Char}

theorem apart_space (u v : List Char) : Lexeme.Apart u (' ' :: v) :=
  .inr (Text.stops_cons (by decide) v)

theorem Starts.isPredicate (hu : Starts u) (hv : Continues v) (hsolid : EndsSolid v)
    (hapart : Lexeme.Apart u v) : IsPredicate (u ++ v) :=
  ⟨hu.append hv hapart, hsolid.append hu.closed hapart⟩

/-- Words and marks between two operands. -/
structure Separates (cs : List Char) : Prop where
  quiet : Quiet cs
  nonempty : cs ≠ []
  first : Text.Stops Text.isWordChar cs
  last : Lexeme.EndsApart cs

instance (cs : List Char) : Decidable (Separates cs) :=
  decidable_of_iff
    (Quiet cs ∧ cs ≠ [] ∧ Text.Stops Text.isWordChar cs ∧ Lexeme.EndsApart cs)
    ⟨fun h => ⟨h.1, h.2.1, h.2.2.1, h.2.2.2⟩, fun h => ⟨h.1, h.2, h.3, h.4⟩⟩

theorem Separates.stops (h : Separates u) (v : List Char) :
    Text.Stops Text.isWordChar (u ++ v) := by
  obtain ⟨c, rest, rfl⟩ := List.exists_cons_of_ne_nil h.nonempty
  exact Text.stops_cons (Text.stops_cons_iff.mp h.first) _

/-- A predicate whose last operand is separated from what it starts with. -/
theorem Starts.separated {w : List Char} (hu : Starts u) (hv : Separates v) (hw : Continues w)
    (hsolid : EndsSolid w) : IsPredicate (u ++ (v ++ w)) :=
  hu.isPredicate (hv.quiet.continues.append hw (.inl hv.last))
    (hsolid.append hv.quiet.closed (.inl hv.last)) (.inr (hv.stops w))

theorem Quiet.after_space (hv : Quiet v) : Quiet (' ' :: v) :=
  Quiet.append (u := [' ']) (by decide) hv (.inl (by decide))

/-- Parentheses inside a predicate. -/
theorem Quiet.parentheses (hv : Quiet v) : Continues ('(' :: (v ++ [')'])) where
  closed := Lexeme.Closed.append (u := ['(']) (by decide) (hv.closed.append (by decide))
  spans := by
    have hapart : Lexeme.Apart v [')'] := .inr (Text.stops_cons (by decide) [])
    rw [Lexeme.scan_mark (by decide) (by decide), Lexeme.scan_append_of_closed hv.closed hapart]
    exact spans_parentheses hv.quiet

theorem endsSolid_parenthesis (hv : Lexeme.Closed v) : EndsSolid (v ++ [')']) :=
  EndsSolid.append hv (by decide) (.inr (Text.stops_cons (by decide) []))

/-- BETWEEN with its bounds. -/
theorem continues_between (hu : Quiet u) (hv : Quiet v) :
    Continues (" BETWEEN ".toList ++ (u ++ (" AND ".toList ++ v))) := by
  have hlow : Quiet (' ' :: (u ++ [' '])) :=
    (hu.append (by decide) (apart_space u [])).after_space
  have hhigh : Quiet (' ' :: v) := hv.after_space
  -- the blanks go with the bounds, so that the two words stand alone
  have htext : " BETWEEN ".toList ++ (u ++ (" AND ".toList ++ v)) =
      [' '] ++ ("BETWEEN".toList ++ ((' ' :: (u ++ [' '])) ++ ("AND".toList ++ ' ' :: v))) := by
    simp
  have hand : Lexeme.Apart (' ' :: (u ++ [' '])) ("AND".toList ++ ' ' :: v) := by
    refine .inl fun c hc => ?_
    rw [← List.cons_append, List.getLast?_concat] at hc
    cases hc
    decide
  have hend : Lexeme.scan false ("AND".toList ++ ' ' :: v) =
      .word "AND".toList :: Lexeme.scan false (' ' :: v) := by
    rw [Lexeme.scan_append_of_closed (u := "AND".toList) (by decide) (apart_space _ _)]
    rfl
  have hscan : Lexeme.scan false ("BETWEEN".toList ++
      ((' ' :: (u ++ [' '])) ++ ("AND".toList ++ ' ' :: v))) =
      .word "BETWEEN".toList :: (Lexeme.scan false (' ' :: (u ++ [' '])) ++
        .word "AND".toList :: Lexeme.scan false (' ' :: v)) := by
    have hbetween : Lexeme.Apart "BETWEEN".toList
        ((' ' :: (u ++ [' '])) ++ ("AND".toList ++ ' ' :: v)) := apart_space _ _
    rw [Lexeme.scan_append_of_closed (by decide) hbetween,
      Lexeme.scan_append_of_closed hlow.closed hand, hend]
    rfl
  rw [htext]
  refine (Quiet.continues (by decide)).append ⟨?_, ?_⟩ (.inl (by decide))
  · exact Lexeme.Closed.append (by decide)
      (hlow.closed.append (Lexeme.Closed.append (by decide) hhigh.closed))
  · rw [hscan]
    exact spans_between rfl rfl rfl hlow.quiet hhigh.quiet

theorem isPredicate_nullTest (ho : Starts o.toList) {test : Token}
    (htest : test ∈ [Token.isNull, Token.isNotNull]) :
    IsPredicate (sqlText d [.fragment o, .space, test]).toList := by
  have htext : (sqlText d [.fragment o, .space, test]).toList =
      o.toList ++ ' ' :: (test.text d).toList := by
    simp [toList_sqlText, Token.text]
  have hfixed : test ∈ Token.fixed :=
    (show ∀ t ∈ [Token.isNull, Token.isNotNull], t ∈ Token.fixed by decide) test htest
  have hwords : ∀ t ∈ [Token.isNull, Token.isNotNull],
      Quiet (' ' :: (t.text (Dialect.new .ansi)).toList) ∧
        EndsSolid (' ' :: (t.text (Dialect.new .ansi)).toList) := by
    decide
  obtain ⟨hquiet, hsolid⟩ := hwords test htest
  rw [htext, Token.text_of_fixed d (Dialect.new .ansi) hfixed]
  exact ho.isPredicate hquiet.continues hsolid (apart_space _ _)

theorem isPredicate_comparison (op : Comparison) (ho : Starts o.toList)
    (hr : IsOperand r.toList) :
    IsPredicate (sqlText d [.fragment o, op.token, .fragment r]).toList := by
  have htext : (sqlText d [.fragment o, op.token, .fragment r]).toList =
      o.toList ++ ((op.token.text d).toList ++ r.toList) := by
    simp [toList_sqlText, Token.text]
  have hfixed : op.token ∈ Token.fixed := by cases op <;> decide
  have hmark : Separates (op.token.text (Dialect.new .ansi)).toList := by cases op <;> decide
  rw [htext, Token.text_of_fixed d (Dialect.new .ansi) hfixed]
  exact ho.separated hmark hr.quiet.continues hr.solid

theorem isPredicate_member (negated : Bool) (ho : Starts o.toList) (hr : Quiet r.toList) :
    IsPredicate (sqlText d (Token.fragment o :: .space :: negation negated ++
      [Token.in, .space, .leftParen, .fragment r, .rightParen])).toList := by
  have htext : (sqlText d (Token.fragment o :: .space :: negation negated ++
      [Token.in, .space, .leftParen, .fragment r, .rightParen])).toList =
      o.toList ++ ((if negated then " NOT IN " else " IN ").toList ++
        '(' :: (r.toList ++ [')'])) := by
    cases negated <;> simp [toList_sqlText, negation, Token.text]
  have hwords : Separates (if negated then " NOT IN " else " IN ").toList := by
    cases negated <;> decide
  have hsolid : EndsSolid ('(' :: (r.toList ++ [')'])) :=
    endsSolid_parenthesis (v := '(' :: r.toList) (Lexeme.Closed.append (u := ['(']) (by decide)
      hr.closed)
  rw [htext]
  exact ho.separated hwords hr.parentheses hsolid

theorem isPredicate_between (ho : Starts o.toList) (hl : IsOperand l.toList)
    (hr : IsOperand r.toList) :
    IsPredicate (sqlText d [.fragment o, .space, .between, .space, .fragment l, .space, .and,
      .space, .fragment r]).toList := by
  have htext : (sqlText d [.fragment o, .space, .between, .space, .fragment l, .space, .and,
      .space, .fragment r]).toList =
      o.toList ++ (" BETWEEN ".toList ++ (l.toList ++ (" AND ".toList ++ r.toList))) := by
    simp [toList_sqlText, Token.text]
  have hand : EndsSolid (" AND ".toList ++ r.toList) :=
    hr.solid.append (by decide) (.inl (by decide))
  have hbounds : EndsSolid (l.toList ++ (" AND ".toList ++ r.toList)) :=
    hand.append hl.quiet.closed (apart_space _ _)
  rw [htext]
  exact ho.isPredicate (continues_between hl.quiet hr.quiet)
    (hbounds.append (by decide) (.inl (by decide))) (apart_space _ _)

/-- A name, or a call with a name. -/
theorem starts_operand (ignoreCase : Bool) (ho : Starts o.toList) (hquiet : Quiet o.toList) :
    Starts (Like.operand d o ignoreCase).toList := by
  cases ignoreCase with
  | false => exact ho
  | true =>
    have htext : (Like.operand d o true).toList = "LOWER".toList ++ '(' :: (o.toList ++ [')']) := by
      simp [Like.operand, function_lower, SqlFunction.render]
    have hlower : Starts "LOWER".toList := ⟨by decide, _, [], rfl, rfl, spans_quiet (by simp)⟩
    rw [htext]
    exact hlower.append hquiet.parentheses (.inr (Text.stops_cons (by decide) _))

theorem isPredicate_like (ho : Starts o.toList) (hr : IsOperand r.toList) :
    IsPredicate (sqlText d (Like.tokens d o r)).toList := by
  have htext : (sqlText d (Like.tokens d o r)).toList = o.toList ++ (" LIKE ".toList ++
      (r.toList ++ if d.info.likeEscape then " ESCAPE '!'".toList else [])) := by
    cases hescape : d.info.likeEscape <;>
      simp [Like.tokens, toList_sqlText, hescape, Token.text, quote_escapeChar]
  have hpattern : Quiet (r.toList ++ if d.info.likeEscape then " ESCAPE '!'".toList else []) ∧
      EndsSolid (r.toList ++ if d.info.likeEscape then " ESCAPE '!'".toList else []) := by
    cases d.info.likeEscape with
    | false => simpa using ⟨hr.quiet, hr.solid⟩
    | true =>
      have hescape : Quiet " ESCAPE '!'".toList := by decide
      exact ⟨hr.quiet.append hescape (apart_space _ _),
        EndsSolid.append hr.quiet.closed (by decide) (apart_space _ _)⟩
  rw [htext]
  exact ho.separated (by decide) hpattern.1.continues hpattern.2

end Texts

/-! ## Predicates -/

/-- A predicate over paths and values: its left operand is a path, the others are paths and
literals, and a list stands only behind IN. -/
def Filter.isPredicate : Filter → Bool
  | .nullTest _ operand => operand.isPath
  | .compare _ left right => left.isPath && right.isScalar
  | .member _ left right => left.isPath && right.isSimple
  | .between operand low high => operand.isPath && low.isScalar && high.isScalar
  | .like operand _ _ _ => operand.isPath
  | .junction _ _ | .not _ | .rows _ _ => false

/-- The number of values that a filter binds. -/
def Filter.valueCount (f : Filter) (d : Dialect) : Nat := (Item.allValues (f.outline d)).length

section Predicates

variable {d : Dialect}

theorem Expression.isSimple_of_isPath {e : Expression} (h : e.isPath = true) :
    e.isSimple = true := by
  cases e with
  | path p => rfl
  | _ => cases h

theorem Expression.outline_of_isSimple {e : Expression} (h : e.isSimple = true) (enclosed : Bool) :
    e.outline d enclosed = e.outline d false := by
  cases e with
  | path p => rfl
  | literal l => rfl
  | _ => cases h

/-- A predicate is written as one. -/
theorem Compose.Adds.predicate (h : ctx.IsOrdinary scope names) {f : Filter} (hf : f.isPredicate = true)
    (hvalid : f.validate = .ok ()) (hnames : f.names ⊆ names) :
    f.toTokens.Adds ctx scope (f.valueCount ctx.dialect) fun _ tokens _ =>
      IsPredicate (sqlText ctx.dialect tokens).toList := by
  cases f with
  | nullTest negated operand =>
    have ho := Compose.Adds.pathExpression h hf hvalid hnames
    have hcount : (Filter.nullTest negated operand).valueCount ctx.dialect =
        operand.valueCount ctx.dialect + 0 := rfl
    rw [Filter.toTokens, hcount]
    refine ho.step fun o ho => .done (isPredicate_nullTest (starts_of_isName ho) ?_)
    cases negated <;> decide
  | compare op left right =>
    obtain ⟨hleft, hright⟩ := Bool.and_eq_true_iff.mp hf
    rw [Filter.names, List.append_subset] at hnames
    rw [Filter.validate, ok_then_iff, ok_unless_iff] at hvalid
    have hl := Compose.Adds.pathExpression h hleft hvalid.1 hnames.1
    have hr := Compose.Adds.scalar h hright hvalid.2.2 hnames.2
    rw [Filter.toTokens, Filter.valueCount, Filter.outline, Item.allValues_append,
      List.length_append]
    cases right.isNullLiteral with
    | true =>
      -- the null is a word of the test and binds no value
      refine hl.step fun l hl => .done (isPredicate_nullTest (starts_of_isName hl) ?_)
      cases op <;> decide
    | false =>
      refine hl.step fun l hl => hr.step fun r hr => .done ?_
      exact isPredicate_comparison op (starts_of_isName hl) hr
  | member negated left right =>
    obtain ⟨hleft, hright⟩ := Bool.and_eq_true_iff.mp hf
    rw [Filter.names, List.append_subset] at hnames
    rw [Filter.validate, ok_then_iff, ok_unless_iff] at hvalid
    have hempty : right.isEmptyList = false := Bool.eq_false_iff.mpr hvalid.2.1
    have hl := Compose.Adds.pathExpression h hleft hvalid.1 hnames.1
    have hr := Compose.Adds.listed h hright hempty hvalid.2.2 hnames.2
    rw [Filter.toTokens, Filter.valueCount, Filter.outline, Item.allValues_append,
      List.length_append, Expression.outline_of_isSimple hright]
    refine hl.step fun l hl => hr.step fun r hr => .done ?_
    exact isPredicate_member negated (starts_of_isName hl) hr
  | between operand low high =>
    obtain ⟨hfirst, hhigh⟩ := Bool.and_eq_true_iff.mp hf
    obtain ⟨hoperand, hlow⟩ := Bool.and_eq_true_iff.mp hfirst
    rw [Filter.names, List.append_subset, List.append_subset] at hnames
    rw [Filter.validate, ok_then_iff, ok_then_iff] at hvalid
    have ho := Compose.Adds.pathExpression h hoperand hvalid.1 hnames.1.1
    have hl := Compose.Adds.scalar h hlow hvalid.2.1 hnames.1.2
    have hu := Compose.Adds.scalar h hhigh hvalid.2.2 hnames.2
    rw [Filter.toTokens, Filter.valueCount, Filter.outline, Item.allValues_append,
      Item.allValues_append, List.length_append, List.length_append, Nat.add_assoc]
    refine ho.step fun o ho => hl.step fun l hl => hu.step fun u hu => .done ?_
    exact isPredicate_between (starts_of_isName ho) hl hu
  | like operand text mode ignoreCase =>
    have ho := Compose.Adds.pathExpression h hf hvalid hnames
    have hpattern : (Literal.resolveSql
        { value := .string (Like.pattern ctx.dialect text mode ignoreCase) }).Adds ctx scope 1
          fun _ marker _ => IsOperand marker.toList :=
      .resolveText h.literal rfl (.placeholder h rfl rfl) fun _ hmarker => hmarker.visible
    have hcount : (Filter.like operand text mode ignoreCase).valueCount ctx.dialect =
        operand.valueCount ctx.dialect + (0 + (1 + 0)) := by
      rw [Filter.valueCount, Filter.outline, Item.allValues_append, List.length_append,
        Expression.outline_of_isSimple (Expression.isSimple_of_isPath hf)]
      rfl
    rw [Filter.toTokens, hcount]
    -- the operand starts the predicate with its name, or with the call around it
    refine ho.step fun o ho => Compose.Adds.dialect.step fun d hd => ?_
    subst hd
    refine hpattern.step fun marker hmarker => .done (isPredicate_like ?_ hmarker)
    exact starts_operand ignoreCase (starts_of_isName ho) (quiet_of_isName ho)
  | junction op children => cases hf
  | not child => cases hf
  | rows negated query => cases hf

end Predicates

end SqlCompose
