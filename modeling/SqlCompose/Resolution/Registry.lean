import SqlCompose.Expression.Validate
import SqlCompose.Resolution.Session

/-!
# SqlCompose.Resolution.Registry -- which resolvers are asked, and in which order

A resolver turns expressions of one kind into one form. The registry keeps the
resolvers by descending priority, and those of equal priority in the order in
which they were registered. A dialect puts its own resolvers before the
library's, and an application can add its own.
-/

namespace SqlCompose

/-- A parameter with the text that stands for it at its place. -/
structure BoundParameter where
  marker : String
  parameter : Parameter

/-- What an expression was resolved into. -/
inductive Resolved where
  | sql (text : String)
  | relational (target : RelationalTarget)
  | parameter (parameter : Parameter)
  | bindable (bound : BoundParameter)

/-- The form of what an expression was resolved into. -/
def Resolved.form : Resolved → Form
  | .sql _ => .sql
  | .relational _ => .relational
  | .parameter _ => .parameter
  | .bindable _ => .bindable

/-- What a resolver does. -/
inductive ResolverAction where
  /-- What the library does for the kind and form. -/
  | standard
  /-- What a dialect does when a parameter is bound. -/
  | bind (rule : BindRule)
  /-- What an application does. An answer of nothing leaves the expression to the next resolver. -/
  | custom (action : Expression → Foreign (Option Resolved))

/-- A resolver from one kind of expression to one form. -/
structure Resolver where
  name : String
  kind : ExpressionKind
  form : Form
  priority : Int := 0
  action : ResolverAction := .standard

/-- A resolver that was added by an application. -/
def Resolver.isCustom (r : Resolver) : Bool :=
  match r.action with
  | .custom _ => true
  | _ => false

/-- Resolvers by descending priority. A table that an application answers with brings
expressions of its own, in the conditions of its joins. They are no part of the expression at
hand, and resolving them may ask for further tables without a bound, so what it comes to is
given along with the resolvers: in a program, what resolving with all of them comes to. Where no
application answers it is never asked for, and until it is given such conditions are refused. -/
structure Registry where
  resolvers : List Resolver := []
  foreignSql : Expression → Foreign String := fun e => throw (.unresolved e.kind .sql)

namespace Registry

/-- Put a resolver before the first one of lower priority. -/
def insertByPriority (r : Resolver) : List Resolver → List Resolver
  | [] => [r]
  | s :: rest => if s.priority < r.priority then r :: s :: rest else s :: insertByPriority r rest

/-- Add a resolver. -/
def register (g : Registry) (r : Resolver) : Registry :=
  { g with resolvers := insertByPriority r g.resolvers }

/-- Add several resolvers in order. -/
def extended (g : Registry) (rs : List Resolver) : Registry := rs.foldl register g

/-- The resolvers from a kind to a form, in the order in which they are asked. -/
def resolversFor (g : Registry) (kind : ExpressionKind) (form : Form) : List Resolver :=
  g.resolvers.filter fun r => r.kind == kind && r.form == form

/-- The number of resolvers. -/
def size (g : Registry) : Nat := g.resolvers.length

/-- The library's own resolvers in the order in which they are registered. -/
def standardResolvers : List Resolver :=
  [{ name := "path", kind := .path, form := .sql },
   { name := "data-target", kind := .dataTarget, form := .relational },
   { name := "data-target-sql", kind := .dataTarget, form := .sql },
   { name := "target", kind := .target, form := .relational },
   { name := "target-sql", kind := .target, form := .sql },
   { name := "filter", kind := .filter, form := .sql },
   { name := "sort", kind := .sort, form := .sql },
   { name := "function", kind := .function, form := .sql },
   { name := "literal-parameter", kind := .literal, form := .parameter },
   { name := "literal-sql", kind := .literal, form := .sql },
   { name := "parameter-sql", kind := .parameter, form := .sql },
   { name := "parameter-bindable", kind := .parameter, form := .bindable },
   { name := "sql-expression", kind := .sql, form := .sql },
   { name := "query", kind := .query, form := .sql }]

/-- The registry of the library's own resolvers. -/
def standard : Registry := ({} : Registry).extended standardResolvers

/-- The priority of a dialect's resolvers. -/
def dialectPriority : Int := 10

/-- The resolver of a bind rule. -/
def bindResolver (rule : BindRule) : Resolver :=
  { name := rule.name, kind := .parameter, form := .bindable, priority := dialectPriority
    action := .bind rule }

end Registry

/-- The library's resolvers with those of the dialect before them. -/
def Dialect.registry (d : Dialect) : Registry :=
  Registry.standard.extended (d.vendor.bindRules.map Registry.bindResolver)

end SqlCompose
