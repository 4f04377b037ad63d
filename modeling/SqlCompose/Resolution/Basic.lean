import SqlCompose.Resolution.Fragment

/-!
# SqlCompose.Resolution.Basic -- resolving an expression into a form

A form decides which part of the library's work is wanted: the text of an
expression, its table, or its parameter. Whatever has no such form can only be
resolved by an application.
-/

namespace SqlCompose

namespace Compose

/-- Resolve an expression into SQL. -/
def resolveSql (e : Expression) : Compose String := e.toSql

/-- Resolve an expression into a source. -/
def resolveSource (e : Expression) : Compose Source := e.toSource

/-- Resolve an expression into a parameter, as the library does for literals. -/
def resolveParameter : Expression → Compose Parameter
  | .literal l => l.resolveParameter
  | e => do
    let (_, resolved) ← Request.resolve { expr := e, form := .parameter }
    ofResult resolved.intoParameter

/-- Resolve an expression into what is bound, as the library does for parameters. -/
def resolveBound : Expression → Compose BoundParameter
  | .parameter p => p.resolveBound
  | e => do
    let (_, resolved) ← Request.resolve { expr := e, form := .bindable }
    ofResult resolved.intoBindable

/-- Resolve an expression into a form. -/
def resolve (e : Expression) : Form → Compose Resolved
  | .sql => do
    let text ← resolveSql e
    pure (.sql text)
  | .relational => do
    let source ← resolveSource e
    pure (.relational source.target)
  | .parameter => do
    let p ← resolveParameter e
    pure (.parameter p)
  | .bindable => do
    let bound ← resolveBound e
    pure (.bindable bound)

/-- The condition that a filter writes. It is not validated as a whole. -/
def filterSql (f : Filter) : Compose String := written f.toTokens

/-- The order that a sort writes. It is not validated as a whole. -/
def sortSql (s : SortOrder) : Compose String := ordered s.toTerms

/-- The columns of a projection. -/
def project (p : Projection) : Compose (List ProjectedColumn) := p.toColumns

/-- A query in a scope in which its source is bound. -/
def render (q : SelectQuery) (s : Source) : Compose RenderedSelect := q.renderFrom s

end Compose

end SqlCompose
