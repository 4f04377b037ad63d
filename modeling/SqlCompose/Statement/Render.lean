import SqlCompose.Resolution.Basic
import SqlCompose.Statement.Basic

/-!
# SqlCompose.Statement.Render -- the text of statements that change rows

The table that is written to has no alias. Columns stand by themselves, values
are resolved in the order in which they are written, and the condition is
resolved like any other filter.
-/

namespace SqlCompose

namespace Compose

/-- Bind the table that is written to, and name it. -/
def writtenTable (target : Expression) : Compose Token := do
  let source ← resolveSource target
  seedUnaliased source.target
  pure (.qualified source.target.schema source.target.table)

/-- The column of an assignment, which belongs to the table that is written to. -/
def assignedColumn (p : Path) : Compose String := do
  ofResult p.validate
  if p.parent.isSome then refuse (.foreignColumn p.key)
  else
    let root ← lookup findRoot
    column root p.name

/-- The value of an assignment. -/
def assignedValue (e : Expression) : Compose String := do
  let sql ← resolveSql e
  pure (enclosed e.isQuery sql)

/-- The condition of a statement, if it has one. -/
def conditionClause : Option Filter → Compose (List Token)
  | none => pure []
  | some f => do
    let sql ← resolveSql (.filter f)
    pure (optionalClause .where (some sql))

/-- One assignment of an update: the column, then the value. -/
def assignment (a : Assignment) : Compose String := do
  let column ← assignedColumn a.column
  let value ← assignedValue a.value
  write [.ident column, .eq, .fragment value]

end Compose

open Compose

/-- The text of an insertion: all columns, then all values. -/
def InsertStatement.render (s : InsertStatement) : Compose String := do
  ofResult s.validate
  let table ← writtenTable s.target
  let columns ← s.values.mapM fun a => assignedColumn a.column
  let values ← s.values.mapM fun a => assignedValue a.value
  write ([Token.insert, .space, .into, .space, table, .space, .leftParen] ++
    commaSeparated columns ++ [Token.rightParen, .space, .values, .space, .leftParen] ++
    commaSeparated values ++ [Token.rightParen])

/-- The text of an update. -/
def UpdateStatement.render (s : UpdateStatement) : Compose String := do
  ofResult s.validate
  let table ← writtenTable s.target
  let assignments ← s.assignments.mapM assignment
  let condition ← conditionClause s.filter
  write ([Token.update, .space, table, .space, .set, .space] ++ commaSeparated assignments ++
    condition)

/-- The text of a deletion. -/
def DeleteStatement.render (s : DeleteStatement) : Compose String := do
  ofResult s.validate
  let table ← writtenTable s.target
  let condition ← conditionClause s.filter
  write ([Token.delete, .space, .from, .space, table] ++ condition)

/-- The text of a query over its own source. -/
def SelectQuery.renderOuter (q : SelectQuery) : Compose RenderedSelect := do
  let source ← resolveSource q.source
  seed source.target
  render q source

end SqlCompose
