import SqlCompose.Text.Escaped

/-!
# SqlCompose.Value.LogicalType -- the types callers see

A logical type names what a caller reads or writes; databases have types of
their own. Enumerations are stored by the position of the constant.
-/

namespace SqlCompose

/-- An enumeration: its name and its constants in order. -/
structure EnumType where
  name : String
  variants : List String
  deriving DecidableEq, Repr

/-- A constant of an enumeration: its position and its name. -/
structure EnumValue where
  ordinal : Nat
  name : String
  deriving DecidableEq, Repr

namespace EnumType

/-- The constant at a position. -/
def at? (e : EnumType) (ordinal : Nat) : Option EnumValue :=
  (e.variants[ordinal]?).map fun name => ⟨ordinal, name⟩

/-- The first constant of a name. -/
def named? (e : EnumType) (name : String) : Option EnumValue :=
  (e.variants.findIdx? (· == name)).map fun ordinal => ⟨ordinal, name⟩

/-- Whether a constant stands at its own position. -/
def holds (e : EnumType) (v : EnumValue) : Bool := e.variants[v.ordinal]? == some v.name

end EnumType

/-- The kinds of temporal value. -/
inductive TemporalKind where
  | date
  | time
  | dateTime
  deriving DecidableEq, Repr

/-- The types callers see. -/
inductive LogicalType where
  | string
  | boolean
  | byte
  | short
  | int
  | long
  | float
  | double
  | bigDecimal
  | bigInteger
  | bytes
  | byteStream
  | charStream
  | date
  | time
  | dateTime
  | zonedDateTime
  | clob
  | blob
  | enum (type : EnumType)
  deriving DecidableEq, Repr

/-- The name of a temporal kind in messages. -/
def TemporalKind.shown : TemporalKind → String
  | .date => "Date"
  | .time => "Time"
  | .dateTime => "DateTime"

/-- The logical type of a temporal kind. -/
def TemporalKind.logicalType : TemporalKind → LogicalType
  | .date => .date
  | .time => .time
  | .dateTime => .dateTime

namespace LogicalType

/-- The types other than the enumerations. -/
def plain : List LogicalType :=
  [.string, .boolean, .byte, .short, .int, .long, .float, .double, .bigDecimal, .bigInteger, .bytes,
   .byteStream, .charStream, .date, .time, .dateTime, .zonedDateTime, .clob, .blob]

/-- The types of dates and times. -/
def isTemporal : LogicalType → Bool
  | .date | .time | .dateTime | .zonedDateTime => true
  | _ => false

/-- The types of numbers. -/
def isNumeric : LogicalType → Bool
  | .byte | .short | .int | .long | .float | .double | .bigDecimal | .bigInteger => true
  | _ => false

/-- The temporal kind of a temporal type. -/
def temporalKind? : LogicalType → Option TemporalKind
  | .date => some .date
  | .time => some .time
  | .dateTime | .zonedDateTime => some .dateTime
  | _ => none

/-- The name of a type in messages. -/
def shown : LogicalType → String
  | .string => "String"
  | .boolean => "Boolean"
  | .byte => "Byte"
  | .short => "Short"
  | .int => "Int"
  | .long => "Long"
  | .float => "Float"
  | .double => "Double"
  | .bigDecimal => "BigDecimal"
  | .bigInteger => "BigInteger"
  | .bytes => "Bytes"
  | .byteStream => "ByteStream"
  | .charStream => "CharStream"
  | .date => "Date"
  | .time => "Time"
  | .dateTime => "DateTime"
  | .zonedDateTime => "ZonedDateTime"
  | .clob => "Clob"
  | .blob => "Blob"
  | .enum e =>
    "Enum(EnumType \x7b name: " ++ Text.Escaped.quoted e.name ++ ", variants: [" ++
      ", ".intercalate (e.variants.map Text.Escaped.quoted) ++ "] \x7d)"

end LogicalType

end SqlCompose
