import SqlCompose.Text.Letter

/-!
# SqlCompose.Dialect.Info -- what is known about a database

A dialect starts from the capabilities its vendor promises and can learn those
of a live database once.
-/

namespace SqlCompose

/-- How a database stores names that are not quoted. -/
inductive IdentifierCase where
  | upper
  | lower
  /-- As they are written. -/
  | mixed
  deriving DecidableEq, Repr

namespace IdentifierCase

/-- The word of a case in settings. -/
def word : IdentifierCase → String
  | .upper => "upper"
  | .lower => "lower"
  | .mixed => "mixed"

/-- The characters that open a quoted name. -/
def opensQuoted (c : Char) : Bool := c == '"' || c.toNat == 0x60 || c == '['

/-- A name as the database stores it. A quoted name stays as it is. -/
def apply (case : IdentifierCase) (name : String) : String :=
  let quoted := match name.toList with
    | c :: _ => opensQuoted c
    | [] => false
  if quoted then name
  else match case with
    | .upper => Text.upper name
    | .lower => Text.lower name
    | .mixed => name

end IdentifierCase

/-- What a database reports about itself. -/
structure DatabaseMetadata where
  product : String
  version : String
  major : Nat
  minor : Nat
  generatedKeys : Bool
  alwaysReturned : Bool
  likeEscape : Bool
  storesUpper : Bool
  storesLower : Bool
  deriving DecidableEq, Repr

/-- The capabilities a dialect writes for. -/
structure DatabaseInfo where
  product : String
  major : Nat
  minor : Nat
  generatedKeys : Bool := false
  alwaysReturned : Bool := false
  likeEscape : Bool := true
  identifierCase : IdentifierCase := .mixed
  deriving DecidableEq, Repr

namespace DatabaseInfo

/-- Whether the version is at least the given one. -/
def isAtLeast (i : DatabaseInfo) (major minor : Nat) : Bool :=
  major < i.major || (i.major == major && minor ≤ i.minor)

/-- The capabilities that follow from a database's report. -/
def ofMetadata (m : DatabaseMetadata) : DatabaseInfo :=
  { product := m.product
    major := m.major
    minor := m.minor
    generatedKeys := m.generatedKeys
    alwaysReturned := m.alwaysReturned
    likeEscape := m.likeEscape
    identifierCase := if m.storesUpper then .upper else if m.storesLower then .lower else .mixed }

end DatabaseInfo

end SqlCompose
