import SqlCompose.Dialect.Function
import SqlCompose.Dialect.Info
import SqlCompose.Dialect.Literal
import SqlCompose.Dialect.Pagination
import SqlCompose.Value.SqlType

/-!
# SqlCompose.Dialect.Vendor -- what a database product does its own way

A vendor is a record with one field per decision. The defaults are those of the
SQL standard, so a record names only what differs.
-/

namespace SqlCompose

/-- Errors of a database that a caller can act on. -/
inductive ErrorClass where
  | lockTimeout
  | deadlock
  deriving DecidableEq, Repr

/-- Ways to change a parameter when it is bound. -/
inductive BindRule where
  /-- Character streams are read and bound as strings. -/
  | characterStream
  /-- Dates and times are bound as text. -/
  | temporalText
  deriving DecidableEq, Repr

/-- Steps applied to a value read from a database before it is converted. -/
inductive Processor where
  /-- Literal text is reduced to the value it writes. -/
  | typedLiteral
  /-- Text and epoch numbers become dates and times. -/
  | storedTemporal
  /-- Text with an offset becomes a moment at that offset. -/
  | offsetTimestamp
  deriving DecidableEq, Repr

/-- The name of a bind rule. -/
def BindRule.name : BindRule → String
  | .characterStream => "character-stream"
  | .temporalText => "temporal-text"

/-- The name of a processor. -/
def Processor.name : Processor → String
  | .typedLiteral => "typed-literal"
  | .storedTemporal => "sqlite-temporal"
  | .offsetTimestamp => "offset-timestamp"

namespace RowLock

/-- The clause for an exclusive lock; a timeout of zero does not wait. -/
def forUpdate (timeout : Option Nat) : String :=
  match timeout with
  | some 0 => "FOR UPDATE NOWAIT"
  | _ => "FOR UPDATE"

/-- The clause for an exclusive lock with a timeout in whole seconds, rounded up. -/
def forUpdateWait (timeout : Option Nat) : String :=
  match timeout with
  | none => "FOR UPDATE"
  | some 0 => "FOR UPDATE NOWAIT"
  | some millis => s!"FOR UPDATE WAIT {(millis + 999) / 1000}"

/-- Exclusive locks only. -/
def exclusiveOnly (clause : Option Nat → String) (mode : LockMode) (timeout : Option Nat) :
    Option String :=
  match mode with
  | .exclusive => some (clause timeout)
  | .shared => none

end RowLock

/-- The decisions of one database product. -/
structure Vendor where
  name : String
  /-- The capabilities assumed until the database has described itself. -/
  defaultInfo : DatabaseInfo
  quote : String → String := SqlLiteral.plainString
  boolText : Bool → String := SqlLiteral.wordBool
  bytesText : List UInt8 → String := SqlLiteral.hexString
  temporalText : TemporalKind → String → String := SqlLiteral.typedTemporal
  limitStyle : DatabaseInfo → Option LimitStyle := fun _ => none
  lockClause : LockMode → Option Nat → Option String := RowLock.exclusiveOnly RowLock.forUpdate
  /-- Generated keys have to be asked for by name. -/
  keysByName : Bool := false
  function : FunctionKind → Option SqlFunction := fun _ => none
  /-- Other names for custom functions, by the name in capitals. -/
  renames : List (String × String) := []
  sqlType : LogicalType → Option SqlType := fun _ => none
  logicalType : SqlType → Option LogicalType := fun _ => none
  /-- A null may be bound without a type. -/
  supportsNullType : Bool := true
  /-- The text around the marker of a parameter of a temporal kind. -/
  temporalTemplate : TemporalKind → Option String := fun _ => none
  bindRules : List BindRule := []
  processors : List Processor := [.typedLiteral]
  classify : Int → Option String → Option ErrorClass := fun _ _ => none

namespace Vendor

/-- The name a custom function has with this vendor, if it is another one. -/
def rename (v : Vendor) (name : String) : Option String := v.renames.lookup (Text.upper name)

/-- The type of a null that has no type of its own. -/
def nullType (v : Vendor) : SqlType := if v.supportsNullType then .null else .varchar

end Vendor

end SqlCompose
