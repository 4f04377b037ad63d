import SqlCompose.Text.Hex
import SqlCompose.Text.Quoted
import SqlCompose.Value.LogicalType

/-!
# SqlCompose.Dialect.Literal -- the written forms of constants

Dialects choose among these forms for strings, truth values, bytes and dates.
-/

namespace SqlCompose.SqlLiteral

/-! ## Strings -/

/-- A string between single quotes. -/
def plainString (s : String) : String := Text.Quoted.quote s

/-- A string whose backslashes would be read as escapes. -/
def backslashString (s : String) : String := Text.Quoted.quote (Text.Quoted.doubleBackslashes s)

/-- A string that is marked when it goes beyond ASCII. -/
def nationalString (s : String) : String :=
  if s.toList.all (fun c => c.toNat < 128) then Text.Quoted.quote s else "N" ++ Text.Quoted.quote s

/-! ## Truth values -/

/-- A truth value as a word. -/
def wordBool (b : Bool) : String := if b then "true" else "false"

/-- A truth value as a number. -/
def digitBool (b : Bool) : String := if b then "1" else "0"

/-! ## Bytes -/

/-- Bytes as a marked string of digits. -/
def hexString (bytes : List UInt8) : String := "X'" ++ Text.Hex.encode bytes ++ "'"

/-- Bytes as an escaped string with a cast. -/
def escapedBytes (bytes : List UInt8) : String := "'\\x" ++ Text.Hex.encode bytes ++ "'::bytea"

/-- Bytes as the result of a function. -/
def hexToRaw (bytes : List UInt8) : String := "HEXTORAW('" ++ Text.Hex.encode bytes ++ "')"

/-! ## Dates and times -/

/-- The keyword of a temporal kind. -/
def temporalKeyword : TemporalKind → String
  | .date => "DATE"
  | .time => "TIME"
  | .dateTime => "TIMESTAMP"

/-- A keyword before the text. -/
def typedTemporal (kind : TemporalKind) (text : String) : String :=
  temporalKeyword kind ++ " " ++ Text.Quoted.quote text

/-- A function of the text. -/
def temporalCall (kind : TemporalKind) (text : String) : String :=
  temporalKeyword kind ++ "(" ++ Text.Quoted.quote text ++ ")"

/-- The text alone. -/
def plainTemporal (_ : TemporalKind) (text : String) : String := Text.Quoted.quote text

/-- A keyword before the text, but a time of day stands alone. -/
def typedDateTemporal (kind : TemporalKind) (text : String) : String :=
  match kind with
  | .time => Text.Quoted.quote text
  | kind => typedTemporal kind text

end SqlCompose.SqlLiteral
