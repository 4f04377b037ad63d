import SqlCompose.Resolution.Answer
import SqlCompose.Value.Temporal

/-!
# SqlCompose.Resolution.Leaf -- paths, values and raw SQL

The leaves of an expression refer to columns or carry values. No value is ever
written into a statement: it is added to the parameters, and the placeholder of
its place is written.
-/

namespace SqlCompose

/-! ## Paths -/

/-- A reference to a column. A path of one name belongs to the target of the
nearest scope that has one. The names before the last one are the key of a
table in this scope or in one around it; what no scope knows is kept as it is. -/
def Path.sql (p : Path) : Compose String := do
  match p.parent with
  | none =>
    let b ← Compose.lookup findRoot
    let column ← Compose.column b p.name
    match b with
    | some b => pure (b.qualifier ++ "." ++ column)
    | none => pure column
  | some parent =>
    let mode ← Compose.aliasMode
    let b ← Compose.lookup (findBinding parent.key true)
    let aliasName ← Compose.lookup (findAlias mode parent true)
    let column ← Compose.column b p.name
    let qualifier := (aliasName.or (b.map Binding.qualifier)).getD parent.key
    pure (qualifier ++ "." ++ column)

/-! ## Literals -/

/-- The parameter of a literal. One that is marked with a temporal kind gets the
text that the dialect puts around such markers. -/
def Literal.parameter (d : Dialect) (l : Literal) : Parameter :=
  match l.temporal with
  | none => Parameter.ofValue l.value
  | some kind =>
    let p := (Parameter.ofValue l.value).withTemporal kind
    match d.temporalTemplate kind with
    | some template => p.withTemplate template
    | none => p

/-- Resolve a literal into a parameter. A list is no single parameter. -/
def Literal.resolveParameter (l : Literal) : Compose Parameter := do
  let (_, resolved) ← Request.resolve
    { expr := .literal l, form := .parameter
      standard := do
        let d ← Compose.dialect
        pure (if l.value.isList then none else some (.parameter (l.parameter d))) }
  Compose.ofResult resolved.intoParameter

/-- The placeholder of a literal that is no list. -/
def Literal.placeholder (l : Literal) : Compose String := do
  let p ← l.resolveParameter
  Compose.addParameter p

/-- The placeholders of a literal: one for each item of a list. -/
def Literal.sql (l : Literal) : Compose String :=
  match l.value with
  | .list items => do
    let names ← items.mapM fun item => Literal.placeholder ⟨item, l.temporal⟩
    pure (", ".intercalate names)
  | _ => l.placeholder

/-- Resolve a literal into SQL. -/
def Literal.resolveSql (l : Literal) : Compose String := resolveText (.literal l) l.sql

/-! ## Parameters -/

/-- A parameter with the text that stands for it. -/
def Parameter.bound (p : Parameter) : BoundParameter := ⟨p.marker, p⟩

/-- What a bind rule makes of a value, if it is for values of that kind. -/
def BindRule.text? (rule : BindRule) (v : Value) : Compose (Option String) :=
  match rule, v with
  | .characterStream, .charStream handle => do
    let text ← Compose.ofStreaming (Streaming.readText handle)
    pure (some text)
  | .temporalText, v => pure (Value.isoText? v)
  | _, _ => pure none

/-- A parameter bound by a rule of the dialect: as a string. -/
def Parameter.bindBy (p : Parameter) (rule : BindRule) : Compose (Option Resolved) := do
  let text ← rule.text? p.value
  pure (text.map fun s => .bindable (p.withValue (.string s) (some .string)).bound)

/-- Resolve a parameter into what is bound. -/
def Parameter.resolveBound (p : Parameter) : Compose BoundParameter := do
  let (_, resolved) ← Request.resolve
    { expr := .parameter p, form := .bindable
      standard := pure (some (.bindable p.bound))
      bind := p.bindBy }
  Compose.ofResult resolved.intoBindable

/-! ## Raw SQL -/

/-- The characters of raw SQL with a placeholder for each question mark outside
single quotes. There are as many question marks as values. -/
def RawSql.fill (raw : RawSql) : Bool → List Value → List Char → Compose (List Char)
  | _, [], [] => pure []
  | _, _ :: _, [] =>
    throw (.preparation (.fewerMarkers raw.text raw.parameters.length))
  | quoted, values, c :: rest =>
    if c = '?' ∧ quoted = false then
      match values with
      | [] => throw (.preparation (.moreMarkers raw.text raw.parameters.length))
      | v :: others => do
        let name ← Compose.addParameter (Parameter.ofValue v)
        let out ← raw.fill quoted others rest
        pure (name.toList ++ out)
    else do
      let out ← raw.fill (if c = '\'' then !quoted else quoted) values rest
      pure (c :: out)

/-- Raw SQL with placeholders for its values. -/
def RawSql.sql (raw : RawSql) : Compose String := do
  let out ← raw.fill false raw.parameters raw.text.toList
  pure (String.ofList out)

end SqlCompose
