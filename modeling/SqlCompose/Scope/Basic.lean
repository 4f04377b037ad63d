import SqlCompose.Expression.Basic
import SqlCompose.Expression.Model
import SqlCompose.Scope.Alias
import SqlCompose.Scope.Placeholder

/-!
# SqlCompose.Scope.Basic -- the tables that paths can name

A scope binds keys to tables. A statement scope belongs to a statement or a
sub-select and has a target of its own; a query scope is a helper inside one.
Scopes form a chain, innermost first. A look-up passes through query scopes to
what encloses them, and leaves a statement scope only if it is asked to, which
is how a sub-select sees the tables around it.
-/

namespace SqlCompose

/-- The two kinds of scope. -/
inductive ScopeKind where
  | statement
  | query
  deriving DecidableEq, Repr

/-- The name of a kind in descriptions. -/
def ScopeKind.shown : ScopeKind → String
  | .statement => "Statement"
  | .query => "Query"

/-- A table that paths can name. -/
structure Binding where
  schema : Option String
  table : String
  aliasName : Option String
  /-- The entity the table was mapped from. -/
  entity : Option String
  deriving DecidableEq, Repr

namespace Binding

/-- The name before the dot in references to its columns: the alias, else the table. -/
def qualifier (b : Binding) : String := b.aliasName.getD b.table

/-- The table with its schema. -/
def qualifiedTable (b : Binding) : String := TableName.qualified ⟨b.schema, b.table⟩

end Binding

/-- Keys with what they are bound to. -/
abbrev Bindings := List (String × Binding)

/-- Bind a key, to something else if it was bound already. -/
def Bindings.insert (bs : Bindings) (key : String) (b : Binding) : Bindings :=
  (key, b) :: bs.filter fun entry => entry.1 != key

/-- One scope. `sequence` counts the scopes of its kind that enclose it. -/
structure Scope where
  kind : ScopeKind
  sequence : Nat
  bindings : Bindings := []
  aliases : AliasGenerator := {}
  deriving DecidableEq, Repr

namespace Scope

/-- The key of a scope's own target. -/
def rootKey : String := ""

/-- The outermost scope of a statement. -/
def root : Scope := { kind := .statement, sequence := 0 }

/-- A new scope inside a chain of scopes. -/
def inside (chain : List Scope) (kind : ScopeKind) : Scope :=
  { kind := kind, sequence := chain.countP fun s => s.kind == kind }

/-- The next alias for a name in this scope. -/
def generateAlias (s : Scope) (name : String) : String × Scope :=
  let (aliasName, aliases) := s.aliases.next name s.sequence
  (aliasName, { s with aliases := aliases })

/-- The alias of a table: the given one, a generated one, or none, as the mode has it. -/
def tableAlias (s : Scope) (mode : AliasMode) (given : Option String) (name : String) :
    Option String × Scope :=
  match mode with
  | .unsupported => (none, s)
  | .explicitOnly => (given, s)
  | .auto =>
    match given with
    | some aliasName => (some aliasName, s)
    | none =>
      let (aliasName, s) := s.generateAlias name
      (some aliasName, s)

/-- Bind a key in this scope. -/
def bind (s : Scope) (key : String) (b : Binding) : Scope :=
  { s with bindings := s.bindings.insert key b }

/-- Bind a join under its qualifier and under its name. -/
def bindJoin (s : Scope) (mode : AliasMode) (j : Join) : Scope :=
  let (aliasName, s) := s.tableAlias mode j.aliasName j.name
  let b : Binding := ⟨none, j.source, aliasName, j.entity⟩
  let s := if b.qualifier != j.name then s.bind b.qualifier b else s
  s.bind j.name b

/-- Bind a target under its qualifier, its table, its entity and the root key,
and then its joins in order. -/
def bindTarget (s : Scope) (mode : AliasMode) (t : RelationalTarget) (aliasName : Option String) :
    Scope :=
  let b : Binding := ⟨t.schema, t.table, aliasName, t.entity⟩
  let s := (s.bind b.qualifier b).bind t.table b
  let s := match t.entity with
    | some entity => s.bind entity b
    | none => s
  t.joins.foldl (fun s j => s.bindJoin mode j) (s.bind rootKey b)

/-- Bind a target with the alias the mode gives it. A scope that already has a
target of the same table stays as it is. -/
def seed (s : Scope) (mode : AliasMode) (t : RelationalTarget) : Scope :=
  let bound := match s.bindings.lookup rootKey with
    | some b => b.table == t.table
    | none => false
  if bound then s
  else
    let (aliasName, s) := s.tableAlias mode t.aliasName t.table
    s.bindTarget mode t aliasName

/-- Bind a target that is written to, which never has an alias. -/
def seedUnaliased (s : Scope) (mode : AliasMode) (t : RelationalTarget) : Scope :=
  s.bindTarget mode t none

end Scope

/-! ## Look-ups along a chain -/

/-- What a key is bound to, seen from the innermost scope of a chain. -/
def findBinding (key : String) (useParent : Bool) : List Scope → Option Binding
  | [] => none
  | s :: outer =>
    match s.bindings.lookup key with
    | some b => some b
    | none =>
      match s.kind with
      | .query => findBinding key useParent outer
      | .statement => if useParent then findBinding key true outer else none

/-- The target of the nearest scope that has one. -/
def findRoot (chain : List Scope) : Option Binding := findBinding Scope.rootKey false chain

/-- The alias of a path: its own, else that of what its key is bound to. -/
def findAlias (mode : AliasMode) (p : Path) (useParent : Bool) (chain : List Scope) :
    Option String :=
  match mode with
  | .unsupported => none
  | _ => p.aliasName.or ((findBinding p.key useParent chain).bind (·.aliasName))

end SqlCompose
