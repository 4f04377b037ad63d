import SqlCompose.Resolution.Registry
import SqlCompose.Sql.Token

/-!
# SqlCompose.Resolution.Compose -- the computations that put a statement together

A computation reads what surrounds it and the registry, and changes the session.
What has changed stays so even if the statement is refused in the end.
-/

namespace SqlCompose

/-- What stays the same. -/
structure Context extends Surroundings where
  registry : Registry

/-- A computation in a context that may change the session and may be refused. -/
abbrev Compose := ReaderT Context (ExceptT SqlError (StateM Session))

namespace Compose

/-! ## Lifting -/

/-- A computation that does not look at the session. -/
def ofResult (x : Except SqlError α) : Compose α := fun _ s => (x, s)

/-- A computation that only reads streams. -/
def ofStreaming (x : Streaming α) : Compose α := fun _ s =>
  let (result, streams) := x s.streams
  (result, { s with streams := streams })

/-- A computation of an application. -/
def ofForeign (x : Foreign α) : Compose α := fun ctx s => x ctx.toSurroundings s

/-- Refuse an invalid expression. -/
def refuse (defect : Defect) : Compose α := ofResult (SqlCompose.refuse defect)

/-! ## The context -/

/-- The dialect. -/
def dialect : Compose Dialect := fun ctx s => (.ok ctx.dialect, s)

/-- The alias mode. -/
def aliasMode : Compose AliasMode := fun ctx s => (.ok ctx.aliasMode, s)

/-- The column of a property of what a binding was mapped from, else the property itself. -/
def column (b : Option Binding) (property : String) : Compose String := fun ctx s =>
  let mapped := do
    let entity ← (← b).entity
    (← ctx.model).column? entity property
  (.ok (mapped.getD property), s)

/-! ## The scopes -/

/-- Look something up in the chain of scopes, innermost first. -/
def lookup (find : List Scope → α) : Compose α := fun ctx s =>
  (.ok (find (s.scope :: ctx.enclosing)), s)

/-- The number of the current scope. -/
def sequence : Compose Nat := fun _ s => (.ok s.scope.sequence, s)

/-- Change the current scope. -/
def updateScope (change : AliasMode → Scope → Scope) : Compose Unit := fun ctx s =>
  (.ok (), { s with scope := change ctx.aliasMode s.scope })

/-- Bind a target and its joins in the current scope. -/
def seed (t : RelationalTarget) : Compose Unit := updateScope fun mode scope => scope.seed mode t

/-- Bind a target that is written to. -/
def seedUnaliased (t : RelationalTarget) : Compose Unit :=
  updateScope fun mode scope => scope.seedUnaliased mode t

/-- Run a computation in a statement scope of its own. The scope around it is
the current one again afterwards. -/
def inStatement (t : RelationalTarget) (body : Compose α) : Compose α := fun ctx s =>
  let chain := s.scope :: ctx.enclosing
  let inner := (Scope.inside chain .statement).seed ctx.aliasMode t
  let (result, after) := body { ctx with enclosing := chain } { s with scope := inner }
  (result, { after with scope := s.scope })

/-! ## The parameters -/

/-- Add a parameter and name its place. -/
def addParameter (p : Parameter) : Compose String := fun _ s =>
  match s.parameters.add p with
  | .ok (name, parameters) => (.ok name, { s with parameters := parameters })
  | .error e => (.error e, s)

/-- The text of tokens in the dialect. -/
def write (tokens : List Token) : Compose String := fun ctx s =>
  (.ok (sqlText ctx.dialect tokens), s)

/-- The text of the tokens that a computation gives. -/
def written (tokens : Compose (List Token)) : Compose String := do
  let tokens ← tokens
  write tokens

/-! ## Descriptions -/

/-- One line about the current scope. -/
def describe : Compose String := fun ctx s =>
  let shown := [("scope", s.scope.kind.shown), ("sequence", toString s.scope.sequence),
    ("alias_mode", ctx.aliasMode.shown), ("dialect", Text.Escaped.quoted ctx.dialect.name),
    ("bindings", toString s.scope.bindings.length), ("parameters", toString s.parameters.size)]
  let fields := ", ".intercalate (shown.map fun (name, text) => name ++ ": " ++ text)
  (.ok ("CompositionContext \x7b " ++ fields ++ " \x7d"), s)

end Compose

end SqlCompose
