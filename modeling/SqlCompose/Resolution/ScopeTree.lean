import SqlCompose.Resolution.Compose

/-!
# SqlCompose.Resolution.ScopeTree -- all scopes of one statement

While one statement is put together scopes are opened inside one another. Every
scope keeps its own bindings and aliases, and all of them share the parameters.
A computation runs in one scope and sees the scopes around it.
-/

namespace SqlCompose

/-- A scope, and the number of the one it was opened in. -/
structure ScopeNode where
  scope : Scope
  parent : Option Nat
  deriving DecidableEq, Repr

/-- Scopes by number. Each one has a greater number than the one around it. -/
structure ScopeTree where
  context : Context
  nodes : Array ScopeNode := #[⟨Scope.root, none⟩]
  parameters : Accumulator := {}

namespace ScopeTree

/-- The scopes from one of them outwards; `fuel` bounds their number. -/
def chainUpTo (t : ScopeTree) : Nat → Nat → List Scope
  | 0, _ => []
  | fuel + 1, n =>
    match t.nodes[n]? with
    | some node => node.scope :: (match node.parent with
      | some parent => t.chainUpTo fuel parent
      | none => [])
    | none => []

/-- The scopes from one of them outwards. -/
def chain (t : ScopeTree) (n : Nat) : List Scope := t.chainUpTo t.nodes.size n

/-- Add a scope inside another one. Its number is the number of scopes before it. -/
def push (t : ScopeTree) (n : Nat) (scope : Scope) : ScopeTree :=
  { t with nodes := t.nodes.push ⟨scope, some n⟩ }

/-- Open a query scope inside a scope. -/
def openQuery (t : ScopeTree) (n : Nat) : ScopeTree := t.push n (Scope.inside (t.chain n) .query)

/-- Open a statement scope with a target of its own inside a scope. -/
def openStatement (t : ScopeTree) (n : Nat) (target : RelationalTarget) : ScopeTree :=
  t.push n ((Scope.inside (t.chain n) .statement).seed t.context.aliasMode target)

/-- Run a computation in a scope. A number that no scope has changes nothing. -/
def run (t : ScopeTree) (n : Nat) (x : Compose α) (streams : StreamStore) :
    Except SqlError α × ScopeTree × StreamStore :=
  let chain := t.chain n
  let scope := chain.head?.getD Scope.root
  let (result, s) := x { t.context with enclosing := chain.tail }
    { scope := scope, parameters := t.parameters, streams := streams }
  (result,
    { t with
      nodes := t.nodes.modify n fun node => { node with scope := s.scope }
      parameters := s.parameters },
    s.streams)

end ScopeTree

namespace Compose

/-- The alias of a table in the current scope. -/
def tableAlias (given : Option String) (name : String) : Compose (Option String) := fun ctx s =>
  let (aliasName, scope) := s.scope.tableAlias ctx.aliasMode given name
  (.ok aliasName, { s with scope := scope })

/-- The next alias for a name in the current scope. -/
def generateAlias (name : String) : Compose String := fun _ s =>
  let (aliasName, scope) := s.scope.generateAlias name
  (.ok aliasName, { s with scope := scope })

end Compose

end SqlCompose
