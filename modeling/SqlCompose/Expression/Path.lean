import SqlCompose.Error
import SqlCompose.Text.Blank
import SqlCompose.Text.Pieces

/-!
# SqlCompose.Expression.Path -- dotted property paths

A path such as `address.city` is a chain of names. The last one is the path's
own name, the others lead to it. Every path of the chain may have an alias that
replaces the one the scope would give.
-/

namespace SqlCompose

/-- A chain of names, innermost last. -/
inductive Path where
  | root (name : String) (aliasName : Option String)
  | child (parent : Path) (name : String) (aliasName : Option String)
  deriving DecidableEq, Repr

namespace Path

/-- The last name. -/
def name : Path → String
  | .root name _ => name
  | .child _ name _ => name

/-- The explicit alias. -/
def aliasName : Path → Option String
  | .root _ aliasName => aliasName
  | .child _ _ aliasName => aliasName

/-- The path one name shorter. -/
def parent : Path → Option Path
  | .root _ _ => none
  | .child parent _ _ => some parent

/-- A path of one name. -/
def ofName (name : String) : Path := .root name none

/-- The path one name longer. -/
def extend (p : Path) (name : String) : Path := .child p name none

/-- The path with an explicit alias. -/
def withAlias : Path → String → Path
  | .root name _, aliasName => .root name (some aliasName)
  | .child parent name _, aliasName => .child parent name (some aliasName)

/-- The path whose names stand between the dots of a text. -/
def parse (dotted : String) : Path :=
  let (first, others) := Text.pieces '.' dotted.toList
  others.foldl (fun p piece => p.extend (String.ofList piece)) (ofName (String.ofList first))

/-- The names joined by dots. Aliases do not show. -/
def key : Path → String
  | .root name _ => name
  | .child parent name _ => parent.key ++ "." ++ name

/-- The names from the first to the last. -/
def segments : Path → List String
  | .root name _ => [name]
  | .child parent name _ => parent.segments ++ [name]

/-- A name is not blank and holds no dot, and an alias is not blank. -/
def validateOwn (p : Path) : Except SqlError Unit :=
  if Text.allBlank p.name then refuse .blankSegment
  else if p.name.toList.contains '.' then refuse (.dottedSegment p.name)
  else match p.aliasName with
    | some aliasName => if Text.allBlank aliasName then refuse (.blankAlias p.key) else .ok ()
    | none => .ok ()

/-- Every path of the chain is checked, the longest first. -/
def validate : Path → Except SqlError Unit
  | .root name aliasName => validateOwn (.root name aliasName)
  | .child parent name aliasName =>
    match validateOwn (.child parent name aliasName) with
    | .ok () => parent.validate
    | .error e => .error e

end Path

end SqlCompose
