import SqlCompose.Dialect.Basic
import SqlCompose.Scope.Basic

/-!
# SqlCompose.Resolution.Session -- what surrounds an expression, and what resolving it changes

While a statement is put together, the dialect, the alias mode, the data model and
the enclosing scopes stay as they are. The current scope, the parameters and the
streams change. An application's own code sees all of it and may change what the
library may change.
-/

namespace SqlCompose

/-- What surrounds an expression. `enclosing` holds the scopes around the current one,
innermost first. -/
structure Surroundings where
  dialect : Dialect
  aliasMode : AliasMode
  model : Option DataModel
  enclosing : List Scope := []

/-- What changes. -/
structure Session where
  scope : Scope
  parameters : Accumulator := {}
  streams : StreamStore := {}

/-- A computation of an application. It may fail with any error, and what it has changed
stays so. -/
abbrev Foreign := ReaderT Surroundings (ExceptT SqlError (StateM Session))

end SqlCompose
