import SqlCompose.Codec.LiteralText
import SqlCompose.Dialect.Vendor
import SqlCompose.Time.Reading
import SqlCompose.Value.Basic

/-!
# SqlCompose.Codec.Processing -- what a database returns in place of a value

A processor looks at a raw value and at the type that is wanted. It changes the
value only where it recognises it, and leaves all others as they are.
-/

namespace SqlCompose

namespace Processor

/-! ## Literals -/

/-- The bytes of hexadecimal digits. -/
def hexValue (digits : String) : Except SqlError Value :=
  match Text.Hex.decode? digits with
  | some content => .ok (.bytes content)
  | none => .error (.conversion (.oddHexDigits digits))

/-- The value that a literal writes: a date or a time, bytes, or text. -/
def readLiteral (text : String) (type : LogicalType) : Except SqlError Value :=
  if type.isTemporal then .ok (.string ((LiteralText.temporal? text).getD text))
  else match type with
    | .bytes | .blob | .byteStream =>
      match LiteralText.hexDigits? text with
      | some digits => hexValue digits
      | none => .ok (.string text)
    | .string | .clob | .charStream => .ok (.string ((LiteralText.string? text).getD text))
    | _ => .ok (.string text)

/-! ## Dates and times -/

/-- The forms in which moments are stored as text. -/
def storedForms : List Time.Format :=
  [Time.Format.dateTime, Time.Format.dateTimeT, Time.Format.dateHourMinute]

/-- A date, a time or a moment that is stored as text. -/
def readStored? (text : String) : Option Value :=
  let text := Text.trim text
  let moment := storedForms.findSome? fun form => (Time.readDateTime form text).toOption
  ((moment.map Value.dateTime).or ((Time.readDate text).toOption.map Value.date)).or
    ((Time.readTime text).toOption.map Value.time)

/-- A moment that was counted from the epoch; `number` is the count as text. -/
def counted (number : String) : Option DateTime → Except SqlError Value
  | some t => .ok (.dateTime t)
  | none => .error (.conversion (.epochOutOfRange number))

/-- Milliseconds from seconds, a half going away from zero. -/
def millis (seconds : Float) : Int := (seconds * 1000.0).round.toInt64.toInt

/-- A stored date or time: text, milliseconds in a long number, or seconds in
another one. -/
def readStored : Value → Except SqlError Value
  | .long n => counted (String.ofList (Text.intDigits n.toInt)) (DateTime.ofEpochMillis? n.toInt)
  | .int n => counted (String.ofList (Text.intDigits n.toInt)) (DateTime.ofEpoch? n.toInt 0)
  | .double x => counted (Number.doubleText x) (DateTime.ofEpochMillis? (millis x))
  | .string text => .ok ((readStored? text).getD (.string text))
  | v => .ok v

/-- A moment at an offset that is written in one of several forms. -/
def readOffset? (text : String) : Option ZonedDateTime :=
  let text := Text.trim text
  ((Time.readInterchange text).toOption.or (Time.readZoned Time.Format.zoned text).toOption).or
    (Time.readZoned Time.Format.zonedPermissive text).toOption

/-! ## All processors -/

/-- What a processor makes of a raw value where a type is wanted. -/
def process (p : Processor) (v : Value) (type : LogicalType) : Except SqlError Value :=
  match p, v with
  | .typedLiteral, .string text => readLiteral text type
  | .storedTemporal, v => if type.isTemporal then readStored v else .ok v
  | .offsetTimestamp, .string text =>
    match type with
    | .zonedDateTime => .ok (((readOffset? text).map Value.zoned).getD (.string text))
    | _ => .ok (.string text)
  | _, v => .ok v

end Processor

end SqlCompose
