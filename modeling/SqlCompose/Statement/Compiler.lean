import SqlCompose.Resolution.Prepare
import SqlCompose.Settings.Basic
import SqlCompose.Statement.Render

/-!
# SqlCompose.Statement.Compiler -- from statements to what a database executes

A compiler holds what all statements of an application have in common. Each
statement starts in a scope of its own with no parameters, so that placeholders
are numbered anew. Only what was read from streams carries over.
-/

namespace SqlCompose

/-- What all statements of an application have in common. -/
structure Compiler where
  dialect : Dialect
  aliasMode : AliasMode := .explicitOnly
  model : Option DataModel := none
  /-- Resolvers that replace those of the dialect. -/
  registry : Option Registry := none
  /-- The type of nulls that have no type of their own, where it is not the dialect's. -/
  nullType : Option SqlType := none

/-- A compiled query. -/
structure CompiledQuery where
  statement : SqlStatement
  columns : List ProjectedColumn
  converter : Option RowConverter

/-- A compiled insertion. -/
structure CompiledInsert where
  statement : SqlStatement
  generatedKeys : GeneratedKeys

/-- A compiled statement of any kind. -/
inductive CompiledStatement where
  | query (query : CompiledQuery)
  | insert (insert : CompiledInsert)
  | change (statement : SqlStatement)

namespace Compiler

/-- The compiler that settings describe. -/
def ofSettings (s : Settings) (vars : Variables) : Except SettingsError Compiler := do
  let dialect ← s.dialectFor vars
  .ok { dialect := dialect, aliasMode := s.compiler.aliasMode, nullType := s.nullType }

/-- The context of a statement. -/
def context (c : Compiler) : Context :=
  { dialect := c.dialect, aliasMode := c.aliasMode, model := c.model
    registry := c.registry.getD c.dialect.registry }

/-- The choice of SQL types for binding. -/
def typeConverter (c : Compiler) : TypeConverter := ⟨c.dialect, c.nullType⟩

/-- Run a computation as a statement of its own. -/
def run (c : Compiler) (x : Compose α) : Streaming α := fun streams =>
  let (result, s) := x c.context { scope := Scope.root, streams := streams }
  (result, s.streams)

/-- Compile a query. -/
def compileSelect (c : Compiler) (q : SelectQuery) : Streaming CompiledQuery := c.run do
  let rendered ← q.renderOuter
  let statement ← Compose.prepare rendered.sql
  pure ⟨statement, rendered.columns, q.projection.bind Projection.converter⟩

/-- Compile an insertion. -/
def compileInsert (c : Compiler) (s : InsertStatement) : Streaming CompiledInsert := c.run do
  let sql ← s.render
  let statement ← Compose.prepare sql
  pure ⟨statement, c.dialect.generatedKeys s.generatedKeys⟩

/-- Compile an update. -/
def compileUpdate (c : Compiler) (s : UpdateStatement) : Streaming SqlStatement := c.run do
  let sql ← s.render
  Compose.prepare sql

/-- Compile a deletion. -/
def compileDelete (c : Compiler) (s : DeleteStatement) : Streaming SqlStatement := c.run do
  let sql ← s.render
  Compose.prepare sql

/-- Compile a statement of any kind. -/
def compile (c : Compiler) : Statement → Streaming CompiledStatement
  | .select q => do
    let compiled ← c.compileSelect q
    pure (.query compiled)
  | .insert s => do
    let compiled ← c.compileInsert s
    pure (.insert compiled)
  | .update s => do
    let statement ← c.compileUpdate s
    pure (.change statement)
  | .delete s => do
    let statement ← c.compileDelete s
    pure (.change statement)

end Compiler

end SqlCompose
