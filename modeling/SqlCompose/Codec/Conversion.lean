import SqlCompose.Text.Letter
import SqlCompose.Time.Reading
import SqlCompose.Value.Temporal

/-!
# SqlCompose.Codec.Conversion -- from one type of value to another

A value that is of the wanted type already stays as it is. A value for which no
conversion is known stays as it is too, and the caller refuses it. What a
conversion knows but cannot represent is refused here.
-/

namespace SqlCompose.Value

/-- Refuse a conversion. -/
def unconverted (fault : ConversionFault) : Except SqlError α := .error (.conversion fault)

/-! ## Numbers -/

/-- The whole number of a value; text may hold one between blanks. -/
def integer? : Value → Option Int
  | .byte n => some n.toInt
  | .short n => some n.toInt
  | .int n => some n.toInt
  | .long n => some n.toInt
  | .bigInt n => some n.val
  | .bool b => some (if b then 1 else 0)
  | .decimal d => d.toInt?
  | .enum c => some c.ordinal
  | .string s => (Int128.read? (Text.trimmed s.toList)).map Int128.val
  | _ => none

/-- The floating-point number of a value. -/
def float? : Value → Option Float
  | .float x => some x.toFloat
  | .double x => some x
  | .decimal d => some d.toFloat
  | .string s => Number.readDouble? (Text.trim s)
  | v => v.integer?.map Number.doubleOfInt

/-- The whole number of a value, between bounds. -/
def narrowed (v : Value) (target : String) (least most : Int) : Except SqlError Int :=
  match v.integer? with
  | none => unconverted (.inconvertible v.typeName target)
  | some n => if least ≤ n ∧ n ≤ most then .ok n else unconverted (.outOfRange n target)

/-- A value as a whole number of 128 bits. -/
def toBigInt (v : Value) : Except SqlError Value :=
  match v.integer? with
  | none => unconverted (.inconvertible v.typeName "biginteger")
  | some n =>
    match Int128.ofInt? n with
    | some wide => .ok (.bigInt wide)
    | none => unconverted (.outOfRange n "biginteger")

/-- A value as a decimal. -/
def toDecimal : Value → Except SqlError Value
  | .string s =>
    match Decimal.read (Text.trim s) with
    | .ok d => .ok (.decimal d)
    | .error fault => unconverted (.notDecimal s fault)
  | .float x => ofFloat x.toFloat
  | .double x => ofFloat x
  | v =>
    match v.integer? with
    | none => .ok v
    | some n =>
      match Decimal.ofInt n with
      | .ok d => .ok (.decimal d)
      | .error fault => unconverted (.numberNotDecimal (String.ofList (Text.intDigits n)) fault)
where
  /-- A floating-point number as a decimal. -/
  ofFloat (x : Float) : Except SqlError Value :=
    match Decimal.ofFloat x with
    | .ok d => .ok (.decimal d)
    | .error fault => unconverted (.numberNotDecimal (Number.doubleText x) fault)

/-- A value as a truth value. -/
def toBoolean : Value → Value
  | .string s =>
    let word := Text.lower (Text.trim s)
    if ["true", "t", "y", "1"].contains word then .bool true
    else if ["false", "f", "n", "0"].contains word then .bool false
    else .string s
  | v =>
    match v.integer? with
    | some n => .bool (n != 0)
    | none => v

/-! ## Text and bytes -/

/-- A value as a string. -/
def toText : Value → Streaming Value
  | .clob s => pure (.string s)
  | .charStream h => do
    let s ← Streaming.readText h
    pure (.string s)
  | .enum c => pure (.string c.name)
  | .decimal d => pure (.string d.text)
  | .byte n => pure (.string (String.ofList (Text.intDigits n.toInt)))
  | .short n => pure (.string (String.ofList (Text.intDigits n.toInt)))
  | .int n => pure (.string (String.ofList (Text.intDigits n.toInt)))
  | .long n => pure (.string (String.ofList (Text.intDigits n.toInt)))
  | .bigInt n => pure (.string n.text)
  | v => pure v

/-- A value as a large text. -/
def toClob : Value → Streaming Value
  | .string s => pure (.clob s)
  | .charStream h => do
    let s ← Streaming.readText h
    pure (.clob s)
  | v => pure v

/-- A value as a stream of characters. -/
def toCharStream : Value → Streaming Value
  | .string s | .clob s => do
    let h ← Streaming.openText s
    pure (.charStream h)
  | v => pure v

/-- A value as bytes. -/
def toBytes : Value → Streaming Value
  | .blob content => pure (.bytes content)
  | .byteStream h => do
    let content ← Streaming.readBytes h
    pure (.bytes content)
  | v => pure v

/-- A value as large bytes. -/
def toBlob : Value → Streaming Value
  | .bytes content => pure (.blob content)
  | .byteStream h => do
    let content ← Streaming.readBytes h
    pure (.blob content)
  | v => pure v

/-- A value as a stream of bytes. -/
def toByteStream : Value → Streaming Value
  | .bytes content | .blob content => do
    let h ← Streaming.openBytes content
    pure (.byteStream h)
  | v => pure v

/-! ## Dates and times -/

/-- The moment that a text writes; a date alone is its midnight. -/
def readMoment? (s : String) : Option DateTime :=
  let s := Text.trim s
  ((Time.readDateTime Time.Format.dateTime s).toOption.or
    (Time.readDateTime Time.Format.dateTimeT s).toOption).or
    ((Time.readDate s).toOption.map fun d => ⟨d, TimeOfDay.midnight⟩)

/-- The local moment of a moment at an offset. Asking for one that the calendar does not have
stops the program. -/
def localMoment (t : ZonedDateTime) : Except SqlError DateTime :=
  match t.local? with
  | some moment => .ok moment
  | none => .error .stopped

/-- A value as a date. -/
def toDate : Value → Except SqlError Value
  | .dateTime t => .ok (.date t.date)
  | .zoned t => (localMoment t).map fun moment => .date moment.date
  | .string s =>
    match readMoment? s with
    | some t => .ok (.date t.date)
    | none => unconverted (.notDate s)
  | v => .ok v

/-- A value as a time of day. -/
def toTime : Value → Except SqlError Value
  | .dateTime t => .ok (.time t.time)
  | .zoned t => .ok (.time t.localTime)
  | .string s =>
    match (Time.readTime (Text.trim s)).toOption.or ((readMoment? s).map DateTime.time) with
    | some t => .ok (.time t)
    | none => unconverted (.notTime s)
  | v => .ok v

/-- A value as a moment. -/
def toDateTime : Value → Except SqlError Value
  | .date d => .ok (.dateTime ⟨d, TimeOfDay.midnight⟩)
  | .zoned t => (localMoment t).map .dateTime
  | .string s =>
    match readMoment? s with
    | some t => .ok (.dateTime t)
    | none => unconverted (.notDateTime s)
  | v => .ok v

/-- A value as a moment at an offset; a moment without one is in universal time. -/
def toZoned : Value → Except SqlError Value
  | .dateTime t => .ok (.zoned (ZonedDateTime.ofUniversal t))
  | .string s =>
    match Time.readInterchange (Text.trim s) with
    | .ok t => .ok (.zoned t)
    | .error _ =>
      match Time.readZoned Time.Format.zoned (Text.trim s) with
      | .ok t => .ok (.zoned t)
      | .error fault => unconverted (.notZoned s fault)
  | v => .ok v

/-! ## Enumerations -/

/-- A value as a constant of an enumeration, by name or by position. -/
def toConstant (e : EnumType) : Value → Except SqlError Value
  | .string name =>
    match e.named? (Text.trim name) with
    | some c => .ok (.enum c)
    | none => unconverted (.unknownConstant name e.name)
  | v => do
    let n ← v.narrowed e.name 0 4294967295
    match e.at? n.toNat with
    | some c => .ok (.enum c)
    | none => unconverted (.ordinalOutOfRange n.toNat e.name)

/-! ## All types -/

/-- A value as one of another type. -/
def converted (v : Value) : LogicalType → Streaming Value
  | .string => v.toText
  | .boolean => pure v.toBoolean
  | .byte => Streaming.ofResult do .ok (.byte (Int8.ofInt (← v.narrowed "byte" (-128) 127)))
  | .short =>
    Streaming.ofResult do .ok (.short (Int16.ofInt (← v.narrowed "short" (-32768) 32767)))
  | .int => Streaming.ofResult do
    .ok (.int (Int32.ofInt (← v.narrowed "int" (-2147483648) 2147483647)))
  | .long => Streaming.ofResult do
    .ok (.long (Int64.ofInt (← v.narrowed "long" (-9223372036854775808) 9223372036854775807)))
  | .bigInteger => Streaming.ofResult v.toBigInt
  | .float => pure ((v.float?.map fun x => .float x.toFloat32).getD v)
  | .double => pure ((v.float?.map .double).getD v)
  | .bigDecimal => Streaming.ofResult v.toDecimal
  | .bytes => v.toBytes
  | .blob => v.toBlob
  | .byteStream => v.toByteStream
  | .clob => v.toClob
  | .charStream => v.toCharStream
  | .date => Streaming.ofResult v.toDate
  | .time => Streaming.ofResult v.toTime
  | .dateTime => Streaming.ofResult v.toDateTime
  | .zonedDateTime => Streaming.ofResult v.toZoned
  | .enum e => Streaming.ofResult (v.toConstant e)

/-- A value as one of a type, which it may be already. -/
def convert (v : Value) (type : LogicalType) : Streaming Value :=
  if v.assignable type then pure v else v.converted type

end SqlCompose.Value
