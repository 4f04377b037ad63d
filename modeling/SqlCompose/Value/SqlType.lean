import SqlCompose.Value.LogicalType

/-!
# SqlCompose.Value.SqlType -- the types databases see

A SQL type is a number, standard ones and vendors' own, with an optional name
that the vendor gives it.
-/

namespace SqlCompose

/-- A SQL type: its number and the vendor's name for it. -/
structure SqlType where
  code : Int
  vendor : Option String := none
  deriving DecidableEq, Repr

namespace SqlType

def null : SqlType := ⟨0, none⟩
def char : SqlType := ⟨1, none⟩
def numeric : SqlType := ⟨2, none⟩
def decimal : SqlType := ⟨3, none⟩
def integer : SqlType := ⟨4, none⟩
def smallint : SqlType := ⟨5, none⟩
def float : SqlType := ⟨6, none⟩
def real : SqlType := ⟨7, none⟩
def double : SqlType := ⟨8, none⟩
def varchar : SqlType := ⟨12, none⟩
def boolean : SqlType := ⟨16, none⟩
def date : SqlType := ⟨91, none⟩
def time : SqlType := ⟨92, none⟩
def timestamp : SqlType := ⟨93, none⟩
def blob : SqlType := ⟨2004, none⟩
def clob : SqlType := ⟨2005, none⟩
def nclob : SqlType := ⟨2011, none⟩
def timestampWithTimezone : SqlType := ⟨2014, none⟩
def longvarchar : SqlType := ⟨-1, none⟩
def binary : SqlType := ⟨-2, none⟩
def varbinary : SqlType := ⟨-3, none⟩
def longvarbinary : SqlType := ⟨-4, none⟩
def bigint : SqlType := ⟨-5, none⟩
def tinyint : SqlType := ⟨-6, none⟩
def bit : SqlType := ⟨-7, none⟩
def nvarchar : SqlType := ⟨-9, none⟩
def nchar : SqlType := ⟨-15, none⟩

/-- The type of a null that has no type of its own. -/
def isNull (t : SqlType) : Bool := t.code == 0

/-- The vendor's name with the number, or the number alone. -/
def text (t : SqlType) : String :=
  match t.vendor with
  | some name => s!"{name} ({t.code})"
  | none => toString t.code

/-- The type a logical type is bound as, where the dialect has no other. -/
def ofLogical : LogicalType → SqlType
  | .string => varchar
  | .boolean => boolean
  | .byte => tinyint
  | .short => smallint
  | .int => integer
  | .long => bigint
  | .float => real
  | .double => double
  | .bigDecimal => decimal
  | .bigInteger => numeric
  | .bytes => varbinary
  | .byteStream => longvarbinary
  | .charStream => longvarchar
  | .date => date
  | .time => time
  | .dateTime => timestamp
  | .zonedDateTime => timestampWithTimezone
  | .clob => clob
  | .blob => blob
  | .enum _ => integer

/-- The numbers of the types that a logical type is read from. -/
def logicalByCode : List (LogicalType × List Int) :=
  [(.string, [1, 12, -1, -15, -9]),
   (.boolean, [16, -7]),
   (.byte, [-6]),
   (.short, [5]),
   (.int, [4]),
   (.long, [-5]),
   (.float, [7]),
   (.double, [6, 8]),
   (.bigDecimal, [3, 2]),
   (.bytes, [-2, -3, -4]),
   (.date, [91]),
   (.time, [92]),
   (.dateTime, [93]),
   (.zonedDateTime, [2014]),
   (.clob, [2005, 2011]),
   (.blob, [2004])]

/-- The logical type that a type is read as, where the dialect has no other. -/
def toLogical? (t : SqlType) : Option LogicalType :=
  (logicalByCode.find? fun entry => entry.2.contains t.code).map (·.1)

end SqlType

end SqlCompose
