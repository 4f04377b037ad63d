import SqlCompose.Proofs.Alongside
import SqlCompose.Proofs.Prepared

/-!
# SqlCompose.Proofs.Hiding -- the text of a statement tells nothing of its values

A value can be masked: all that is left of it is its variant. Two statements
that mask to the same one are put together like the masked one, so their texts
are the same, with a parameter for each value wherever the other has one.
-/

namespace SqlCompose

open Compose Coupling

/-! ## Masks -/

namespace Value

mutual

/-- What is left of a value without its payload: its variant, and for a list
those of its items. -/
def mask : Value → Value
  | .null => .null
  | .list items => .list (maskAll items)
  | v => .string v.typeName

/-- What is left of several values. -/
def maskAll : List Value → List Value
  | [] => []
  | v :: rest => mask v :: maskAll rest

end

theorem maskAll_eq (items : List Value) : maskAll items = items.map mask := by
  induction items with
  | nil => rfl
  | cons v rest ih => rw [maskAll, ih, List.map_cons]

end Value

/-- A parameter without the payload of its value. The temporal kind and the text
around its marker stay. -/
def Parameter.mask (p : Parameter) : Parameter :=
  { p with value := p.value.mask, logicalType := none }

/-- Mask every value, and forget the texts that are matched. -/
def Exchange.masked : Exchange where
  value := Value.mask
  text _ := ""
  parameter := Parameter.mask
  isNull_value v := by cases v <;> rfl
  isList_value v := by cases v <;> rfl
  value_list items := by rw [Value.mask, Value.maskAll_eq]
  valid_parameter p h := by
    obtain ⟨value, logicalType, temporal, template⟩ := p
    cases value with
    | list items => cases h
    | _ => rfl

/-- A statement beside its masked one. Of parameters only the markers are alike. -/
def Coupling.masking (base : Context) : Coupling base where
  plain _ := True
  admits _ _ := trivial
  exchange := .masked
  left := []
  right := []
  depth := 0
  modes := modes_outermost base
  alike p p' := p'.template = p.template
  alike_value _ := rfl
  alike_temporal _ h := h
  alike_template _ _ := rfl
  alike_parameter _ := rfl
  alike_pattern _ _ _ _ := rfl

/-! ## Two statements with the same mask -/

theorem Coupling.masking_meetsAll (base : Context) (needs : List Need) :
    (masking base).MeetsAll (fun _ => True) needs := by
  intro need _
  cases need with
  | key k => trivial
  | mode m => exact .inl rfl

/-- Both runs start in the outermost scope without parameters. -/
theorem Coupling.masking_related (base : Context) (streams : StreamStore) :
    (masking base).Related (fun _ => True) [] [] (Session.initial streams) (Session.initial {}) where
  scope := rfl
  plain := Scope.isPlain_root
  chain_plain := by simp
  depth := rfl
  own := .inl rfl
  known := fun _ _ => .inr rfl
  keys := .inr fun _ => trivial
  grown := ⟨[], [], rfl, rfl, .nil⟩

theorem Numbering.columns_eq {N : Numbering} (hN : N.left = N.right)
    {columns columns' : List ProjectedColumn} (h : List.Forall₂ N.Columns columns columns') :
    columns = columns' := by
  induction h with
  | nil => rfl
  | @cons a b _ _ hab _ ih =>
    obtain ⟨sql, aliasName⟩ := a
    obtain ⟨sql', aliasName'⟩ := b
    obtain ⟨hsql, heq, _⟩ := hab
    cases heq
    have hsql : sql = sql' := Texts.eq hN hsql
    rw [ih, hsql]

/-- What a compiled statement tells besides the values it binds: its text, its
columns and the number of its parameters. -/
def CompiledStatement.shape (s : CompiledStatement) : String × List ProjectedColumn × Nat :=
  (s.statement.sql, s.columns, s.statement.parameters.length)

/-- The text with placeholders, the columns and the markers of a compiled
statement are those of the masked one. -/
theorem rendered_of_compile {c : Compiler} (hregistry : c.registry = none) {st : Statement}
    {streams streams' : StreamStore} {compiled : CompiledStatement}
    (h : c.compile st streams = (.ok compiled, streams')) :
    ∃ rendered t, (st.exchange .masked).rendered.Yields c.context (Session.initial {}) rendered t ∧
      ∃ ps, t.parameters.named? rendered.sql.toList = some ps ∧
        compiled.shape = (String.ofList (t.parameters.fill rendered.sql.toList), rendered.columns,
          ps.length) := by
  have hcontext := Compiler.registry_isPlain hregistry
  obtain ⟨rendered, t, u, hrendered, hprepared, _, hcolumns⟩ := compile_eq_ok h
  have hnames : AllPlain (masking c.context).plain st.names := fun _ _ _ _ => trivial
  -- the same statement over masked values runs along, with the same markers
  have hfollows := Statement.follows (C := masking c.context) hcontext
    (fun _ _ _ _ => trivial) (masking_meetsAll c.context) hnames
  obtain ⟨rendered', t', hmasked, hrel, hrelated, _⟩ :=
    @hfollows [] [] _ _ _ _ (masking_related c.context streams) (.inl (Nat.le_refl 0)) hrendered
  obtain ⟨ps, bounds, hps, hbounds, hstatement⟩ := (yields_prepare hcontext).mp hprepared
  have hsql : rendered.sql = rendered'.sql := Numbering.Texts.eq rfl hrel.1
  have hmarker : ∀ p p', (masking c.context).alike p p' → p'.marker = p.marker := by
    intro p p' halike
    have halike : p'.template = p.template := halike
    rw [Parameter.marker, Parameter.marker, halike]
  obtain ⟨⟨ps', hps', hall⟩, hfill⟩ := Accumulator.named?_of_corresponds hmarker
    (corresponds_self rfl rfl hrelated.grown _) hps
  refine ⟨rendered', t', hmasked, ps', hsql ▸ hps', ?_⟩
  rw [CompiledStatement.shape, hcolumns, hstatement, List.length_map, length_bindAll hbounds,
    hall.length_eq, ← hfill, hsql, Numbering.columns_eq rfl hrel.2]

/-- No value shows in what is compiled: statements that differ in nothing but the
payloads of their values have the same text, the same columns and as many
parameters. -/
theorem compile_hides_values {c : Compiler} (hregistry : c.registry = none) {st st' : Statement}
    (hmask : st.exchange .masked = st'.exchange .masked)
    {streams streams₁ streams' streams₁' : StreamStore} {compiled compiled' : CompiledStatement}
    (h : c.compile st streams = (.ok compiled, streams₁))
    (h' : c.compile st' streams' = (.ok compiled', streams₁')) :
    compiled'.statement.sql = compiled.statement.sql ∧ compiled'.columns = compiled.columns ∧
      compiled'.statement.parameters.length = compiled.statement.parameters.length := by
  obtain ⟨rendered, t, hrendered, ps, hps, hshape⟩ := rendered_of_compile hregistry h
  obtain ⟨rendered', t', hrendered', ps', hps', hshape'⟩ := rendered_of_compile hregistry h'
  rw [hmask] at hrendered
  obtain ⟨rfl, rfl⟩ := hrendered.unique hrendered'
  rw [hps, Option.some.injEq] at hps'
  subst hps'
  have hsame := hshape'.trans hshape.symm
  simp only [CompiledStatement.shape, Prod.mk.injEq] at hsame
  exact hsame

/-- A search with a matched text, a list of bounds and a raw condition. -/
def searchQuery (name : String) (low high : Int32) (text : String) : SelectQuery :=
  let raw : RawSql := { text := "t.note = ?", parameters := [.string text] }
  { SelectQuery.ofSource (.target {
      schema := none, table := "t", aliasName := none, joins := [], entity := none }) with
    filter := some (.junction .and [
      .like (.path (.ofName "name")) name .startsWith true,
      .member false (.path (.ofName "size")) (.lit (.list [.int low, .int high])),
      .nullTest true (.sql raw)]) }

theorem searchQuery_masked (name name' : String) (low high low' high' : Int32)
    (text text' : String) :
    (Statement.select (searchQuery name low high text)).exchange .masked =
      (Statement.select (searchQuery name' low' high' text')).exchange .masked := by
  simp only [Statement.exchange, SelectQuery.exchange_eq, searchQuery, Option.map_some,
    Filter.exchange, Filter.exchangeAll, Expression.exchange, RawSql.exchange, Expression.lit,
    Literal.exchange, Exchange.masked, Value.mask, Value.maskAll, Value.typeName, List.map_cons,
    List.map_nil]

/-- A text made to break out of the statement reads like the empty one. -/
theorem compile_hides_values_of_search :
    ∃ compiled compiled' streams streams',
      (⟨.new .ansi, .auto, none, none, none⟩ : Compiler).compile
          (.select (searchQuery "O%" 1 2 "'; DROP TABLE t --")) {} = (.ok compiled, streams) ∧
        (⟨.new .ansi, .auto, none, none, none⟩ : Compiler).compile
            (.select (searchQuery "" 3 4 "?")) {} = (.ok compiled', streams') ∧
          compiled'.statement.sql = compiled.statement.sql ∧
            compiled'.columns = compiled.columns ∧
              compiled'.statement.parameters.length = compiled.statement.parameters.length := by
  obtain ⟨compiled, streams, h⟩ := succeeds_of_isOk ⟨.new .ansi, .auto, none, none, none⟩
    (.select (searchQuery "O%" 1 2 "'; DROP TABLE t --")) {} (by decide +kernel)
  obtain ⟨compiled', streams', h'⟩ := succeeds_of_isOk ⟨.new .ansi, .auto, none, none, none⟩
    (.select (searchQuery "" 3 4 "?")) {} (by decide +kernel)
  have hmask := searchQuery_masked "O%" "" 1 2 3 4 "'; DROP TABLE t --" "?"
  exact ⟨compiled, compiled', streams, streams', h, h', compile_hides_values rfl hmask h h'⟩

end SqlCompose
