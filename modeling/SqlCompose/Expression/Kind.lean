/-!
# SqlCompose.Expression.Kind -- what an expression is and what it can become

The kind of an expression and the form it is wanted in together choose the
resolvers that are asked.
-/

namespace SqlCompose

/-- The kinds of expression. -/
inductive ExpressionKind where
  | path
  | dataTarget
  | target
  | filter
  | sort
  | function
  | literal
  | parameter
  | sql
  | query
  deriving DecidableEq, Repr

/-- Every kind of expression. -/
def ExpressionKind.all : List ExpressionKind :=
  [.path, .dataTarget, .target, .filter, .sort, .function, .literal, .parameter, .sql, .query]

/-- The name of a kind in messages. -/
def ExpressionKind.shown : ExpressionKind → String
  | .path => "Path"
  | .dataTarget => "DataTarget"
  | .target => "Target"
  | .filter => "Filter"
  | .sort => "Sort"
  | .function => "Function"
  | .literal => "Literal"
  | .parameter => "Parameter"
  | .sql => "Sql"
  | .query => "Query"

/-- The forms an expression can be resolved into. -/
inductive Form where
  /-- A fragment of SQL, possibly with placeholders. -/
  | sql
  /-- A table with its joins. -/
  | relational
  /-- A typed parameter that has no place in a statement yet. -/
  | parameter
  /-- The marker of a parameter together with the value to bind. -/
  | bindable
  deriving DecidableEq, Repr

/-- The name of a form in messages. -/
def Form.shown : Form → String
  | .sql => "Sql"
  | .relational => "Relational"
  | .parameter => "Parameter"
  | .bindable => "Bindable"

end SqlCompose
