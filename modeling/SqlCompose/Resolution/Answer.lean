import SqlCompose.Resolution.Compose

/-!
# SqlCompose.Resolution.Answer -- asking resolvers until one answers

An expression is validated before any resolver sees it. The resolvers for its
kind and the wanted form are asked in the registry's order, and the first
answer counts. It has to have the wanted form, and SQL has to say something.
-/

namespace SqlCompose

/-- An expression to resolve, with what the library itself does about it. A
computation that gives nothing leaves the expression to the next resolver. -/
structure Request where
  expr : Expression
  form : Form
  standard : Compose (Option Resolved) := pure none
  bind : BindRule → Compose (Option Resolved) := fun _ => pure none

/-- The answer of one resolver to a request. -/
def Resolver.ask (r : Resolver) (q : Request) : Compose (Option Resolved) :=
  match r.action with
  | .standard => q.standard
  | .bind rule => q.bind rule
  | .custom action => Compose.ofForeign (action q.expr)

/-- The first answer of several resolvers, with the resolver that gave it. -/
def firstAnswer (q : Request) : List Resolver → Compose (Option (Resolver × Resolved))
  | [] => pure none
  | r :: rest => do
    match ← r.ask q with
    | some resolved => pure (some (r, resolved))
    | none => firstAnswer q rest

/-- An answer has the wanted form, and SQL is not blank. -/
def Resolved.check (wanted : Form) (resolved : Resolved) : Except SqlError Unit :=
  if resolved.form != wanted then refuse (.wrongForm resolved.form wanted)
  else match resolved with
    | .sql text => checkSqlText text
    | _ => .ok ()

namespace Request

/-- The answer to a request, with the resolver that gave it. -/
def resolve (q : Request) : Compose (Resolver × Resolved) := do
  Compose.ofResult q.expr.validate
  let ctx ← read
  match ← firstAnswer q (ctx.registry.resolversFor q.expr.kind q.form) with
  | none => throw (.unresolved q.expr.kind q.form)
  | some (resolver, resolved) =>
    Compose.ofResult (resolved.check q.form)
    pure (resolver, resolved)

end Request

namespace Resolved

/-- The text of an answer in SQL. -/
def intoSql : Resolved → Except SqlError String
  | .sql text => .ok text
  | other => refuse (.wrongForm other.form .sql)

/-- The table of an answer. -/
def intoRelational : Resolved → Except SqlError RelationalTarget
  | .relational t => .ok t
  | other => refuse (.wrongForm other.form .relational)

/-- The parameter of an answer. -/
def intoParameter : Resolved → Except SqlError Parameter
  | .parameter p => .ok p
  | other => refuse (.wrongForm other.form .parameter)

/-- The bound parameter of an answer. -/
def intoBindable : Resolved → Except SqlError BoundParameter
  | .bindable b => .ok b
  | other => refuse (.wrongForm other.form .bindable)

end Resolved

/-- Resolve into SQL, where the library itself would write `standard`. -/
def resolveText (e : Expression) (standard : Compose String) : Compose String := do
  let (_, resolved) ← Request.resolve
    { expr := e, form := .sql
      standard := do
        let text ← standard
        pure (some (.sql text)) }
  Compose.ofResult resolved.intoSql

end SqlCompose
