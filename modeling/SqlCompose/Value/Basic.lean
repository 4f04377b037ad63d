import SqlCompose.Number.DecimalFloat
import SqlCompose.Number.Int128
import SqlCompose.Value.Stream

/-!
# SqlCompose.Value.Basic -- logical values

A value is what a caller supplies or what is read back from a database. Null,
lists and constants of enumerations do not tell their own type.
-/

namespace SqlCompose

/-- A logical value. -/
inductive Value where
  | null
  | bool (b : Bool)
  | byte (n : Int8)
  | short (n : Int16)
  | int (n : Int32)
  | long (n : Int64)
  | float (x : Float32)
  | double (x : Float)
  | decimal (d : Decimal)
  | bigInt (n : Int128)
  | string (s : String)
  | bytes (content : List UInt8)
  | byteStream (handle : StreamHandle)
  | charStream (handle : StreamHandle)
  | date (d : Date)
  | time (t : TimeOfDay)
  | dateTime (t : DateTime)
  | zoned (t : ZonedDateTime)
  | clob (s : String)
  | blob (content : List UInt8)
  | enum (v : EnumValue)
  | list (items : List Value)

namespace Value

/-- The value that stands for none. -/
def isNull : Value → Bool
  | .null => true
  | _ => false

/-- A list of values. -/
def isList : Value → Bool
  | .list _ => true
  | _ => false

/-- The type a value has by itself. -/
def logicalType? : Value → Option LogicalType
  | .null | .list _ | .enum _ => none
  | .bool _ => some .boolean
  | .byte _ => some .byte
  | .short _ => some .short
  | .int _ => some .int
  | .long _ => some .long
  | .float _ => some .float
  | .double _ => some .double
  | .decimal _ => some .bigDecimal
  | .bigInt _ => some .bigInteger
  | .string _ => some .string
  | .bytes _ => some .bytes
  | .byteStream _ => some .byteStream
  | .charStream _ => some .charStream
  | .date _ => some .date
  | .time _ => some .time
  | .dateTime _ => some .dateTime
  | .zoned _ => some .zonedDateTime
  | .clob _ => some .clob
  | .blob _ => some .blob

/-- Whether a value may stand for a type as it is. Null stands for every type. -/
def assignable (v : Value) (type : LogicalType) : Bool :=
  match v, type with
  | .null, _ => true
  | .enum c, .enum e => e.holds c
  | v, type => v.logicalType? == some type

/-- The short name of a value's variant in messages. -/
def typeName : Value → String
  | .null => "null"
  | .bool _ => "bool"
  | .byte _ => "byte"
  | .short _ => "short"
  | .int _ => "int"
  | .long _ => "long"
  | .float _ => "float"
  | .double _ => "double"
  | .decimal _ => "decimal"
  | .bigInt _ => "biginteger"
  | .string _ => "string"
  | .bytes _ => "bytes"
  | .byteStream _ => "byte stream"
  | .charStream _ => "character stream"
  | .date _ => "date"
  | .time _ => "time"
  | .dateTime _ => "datetime"
  | .zoned _ => "zoned datetime"
  | .clob _ => "clob"
  | .blob _ => "blob"
  | .enum _ => "enum"
  | .list _ => "list"

mutual

/-- Equality of values. Numbers compare as numbers, so what is no number differs
from itself; moments at an offset compare as instants; streams are equal when
they share a place in the store. -/
def same : Value → Value → Bool
  | .null, .null => true
  | .bool a, .bool b => a == b
  | .byte a, .byte b => a == b
  | .short a, .short b => a == b
  | .int a, .int b => a == b
  | .long a, .long b => a == b
  | .float a, .float b => a == b
  | .double a, .double b => a == b
  | .decimal a, .decimal b => a.sameValue b
  | .bigInt a, .bigInt b => a == b
  | .string a, .string b => a == b
  | .bytes a, .bytes b => a == b
  | .byteStream a, .byteStream b => a == b
  | .charStream a, .charStream b => a == b
  | .date a, .date b => a == b
  | .time a, .time b => a == b
  | .dateTime a, .dateTime b => a == b
  | .zoned a, .zoned b => a.sameInstant b
  | .clob a, .clob b => a == b
  | .blob a, .blob b => a == b
  | .enum a, .enum b => a == b
  | .list a, .list b => sameItems a b
  | _, _ => false

/-- Equality of values item by item. -/
def sameItems : List Value → List Value → Bool
  | [], [] => true
  | a :: as, b :: bs => same a b && sameItems as bs
  | _, _ => false

end

end Value

end SqlCompose
