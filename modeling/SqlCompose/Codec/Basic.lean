import SqlCompose.Codec.Conversion
import SqlCompose.Codec.Processing
import SqlCompose.Dialect.Basic

/-!
# SqlCompose.Codec.Basic -- values as literals, and values from a database

A codec writes a value as a literal of its dialect and turns what a database
returned into a value of the wanted type. Whatever comes out is of that type.
-/

namespace SqlCompose

/-- A dialect, and processors that are applied after its own. -/
structure Codec where
  dialect : Dialect
  extra : List Processor := []

namespace Codec

/-- The processors in the order in which they are applied. -/
def processors (c : Codec) : List Processor := c.dialect.vendor.processors ++ c.extra

/-! ## Writing -/

/-- The text of a value as a date, a time or a moment. Strings are taken as they are. -/
def temporalText (v : Value) (kind : TemporalKind) : Streaming String :=
  match v, kind with
  | .zoned t, .dateTime => pure (Time.writeZoned t)
  | .string s, _ => pure s
  | v, kind => do
    let w ← v.convert kind.logicalType
    match w with
    | .date d => pure (Time.writeDate d)
    | .time t => pure (Time.writeTime t)
    | .dateTime t => pure (Time.writeDateTime t)
    | w => throw (.conversion (.notTemporal w.typeName kind))

/-- A value as a literal of a temporal kind. -/
def temporalLiteral (d : Dialect) (kind : TemporalKind) (v : Value) : Streaming String := do
  let text ← temporalText v kind
  pure (d.vendor.temporalText kind text)

/-- The text of a number that has a literal. -/
def finiteText (x : Float) : Except SqlError String :=
  if x.isFinite then .ok (Number.doubleText x)
  else .error (.conversion (.noLiteralForm (Number.doubleText x)))

/-- A value as a literal of a temporal kind if one is given, else as `plain`. -/
def markedLiteral (d : Dialect) (kind : Option TemporalKind) (v : Value)
    (plain : Streaming String) : Streaming String :=
  match kind with
  | some kind => temporalLiteral d kind v
  | none => plain

/-- The digits of a whole number. -/
def digits (n : Int) : Streaming String := pure (String.ofList (Text.intDigits n))

mutual

/-- A value as a literal, as one of a temporal kind if one is given. Null has no
kind, and the items of a list stand side by side. -/
def literal (d : Dialect) (kind : Option TemporalKind) : Value → Streaming String
  | .null => pure "NULL"
  | .list items => do
    let texts ← literals d kind items
    pure (", ".intercalate texts)
  | .bool b => markedLiteral d kind (.bool b) (pure (d.vendor.boolText b))
  | .byte n => markedLiteral d kind (.byte n) (digits n.toInt)
  | .short n => markedLiteral d kind (.short n) (digits n.toInt)
  | .int n => markedLiteral d kind (.int n) (digits n.toInt)
  | .long n => markedLiteral d kind (.long n) (digits n.toInt)
  | .bigInt n => markedLiteral d kind (.bigInt n) (pure n.text)
  | .decimal n => markedLiteral d kind (.decimal n) (pure n.text)
  | .float x => markedLiteral d kind (.float x) (Streaming.ofResult (finiteText x.toFloat))
  | .double x => markedLiteral d kind (.double x) (Streaming.ofResult (finiteText x))
  | .string s => markedLiteral d kind (.string s) (pure (d.vendor.quote s))
  | .clob s => markedLiteral d kind (.clob s) (pure (d.vendor.quote s))
  | .charStream h => markedLiteral d kind (.charStream h) do
      let s ← Streaming.readText h
      pure (d.vendor.quote s)
  | .bytes content => markedLiteral d kind (.bytes content) (pure (d.vendor.bytesText content))
  | .blob content => markedLiteral d kind (.blob content) (pure (d.vendor.bytesText content))
  | .byteStream h => markedLiteral d kind (.byteStream h) do
      let content ← Streaming.readBytes h
      pure (d.vendor.bytesText content)
  | .date t => markedLiteral d kind (.date t) (temporalLiteral d .date (.date t))
  | .time t => markedLiteral d kind (.time t) (temporalLiteral d .time (.time t))
  | .dateTime t => markedLiteral d kind (.dateTime t) (temporalLiteral d .dateTime (.dateTime t))
  | .zoned t => markedLiteral d kind (.zoned t) (temporalLiteral d .dateTime (.zoned t))
  | .enum c => markedLiteral d kind (.enum c) (digits c.ordinal)

/-- Several values as literals, in order. -/
def literals (d : Dialect) (kind : Option TemporalKind) : List Value → Streaming (List String)
  | [] => pure []
  | v :: rest => do
    let text ← literal d kind v
    let others ← literals d kind rest
    pure (text :: others)

end

/-- A value as a literal of the codec's dialect. -/
def serialize (c : Codec) (v : Value) (kind : Option TemporalKind) : Streaming String :=
  literal c.dialect kind v

/-! ## Reading -/

/-- A raw value after several processors. -/
def processed : List Processor → Value → LogicalType → Except SqlError Value
  | [], v, _ => .ok v
  | p :: rest, v, type => do
    let v ← p.process v type
    processed rest v type

/-- A raw value as one of a type. Null is a value of every type. -/
def deserialize (c : Codec) (raw : Value) (type : LogicalType) : Streaming Value :=
  if raw.isNull then pure .null
  else do
    let v ← Streaming.ofResult (processed c.processors raw type)
    let w ← v.convert type
    if w.assignable type then pure w
    else throw (.conversion (.inconvertible w.typeName type.shown))

end Codec

end SqlCompose
