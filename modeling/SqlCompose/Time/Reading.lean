import SqlCompose.Number.Power
import SqlCompose.Time.Format

/-!
# SqlCompose.Time.Reading -- reading dates and times

Each item of a form takes what it can from the front of the text. Blanks before
a number are skipped, a blank in the form takes any run of blanks, and a
fraction may be missing. The whole text has to be used up.
-/

namespace SqlCompose.Time

/-- Why a text does not have a form. -/
inductive Fault where
  | tooShort
  | unexpected
  | outOfRange
  | trailing
  | impossible
  deriving DecidableEq, Repr

/-- The wording of a fault. -/
def Fault.message : Fault → String
  | .tooShort => "premature end of input"
  | .unexpected => "input contains invalid characters"
  | .outOfRange => "input is out of range"
  | .trailing => "trailing input"
  | .impossible => "no possible date and time matching input"

/-! ## Numbers -/

/-- At least `least` and at most `most` digits from the front of a text. -/
def takeNumber (least most : Nat) (cs : List Char) : Except Fault (Nat × List Char) :=
  let ds := (cs.take most).takeWhile Text.isDecimalDigit
  if cs.length < least then .error .tooShort
  else if ds.length < least then .error .unexpected
  else
    let n := Text.digitsValue 0 ds
    if n < 9223372036854775808 then .ok (n, cs.drop ds.length) else .error .outOfRange

/-- A number of at most `most` digits that lies between two bounds. -/
def takeField (most low high : Nat) (cs : List Char) : Except Fault (Nat × List Char) := do
  let (n, rest) ← takeNumber 1 most (Text.trimFront cs)
  if low ≤ n ∧ n ≤ high then pure (n, rest) else throw .outOfRange

/-- Up to four digits, or a sign and any number of digits. -/
def takeSigned : List Char → Except Fault (Int × List Char)
  | '-' :: cs => (takeNumber 1 cs.length cs).map fun (n, rest) => (-(n : Int), rest)
  | '+' :: cs => (takeNumber 1 cs.length cs).map fun (n, rest) => ((n : Int), rest)
  | cs => (takeNumber 1 4 cs).map fun (n, rest) => ((n : Int), rest)

/-- A year, which has to fit into 32 bits. -/
def takeYear (cs : List Char) : Except Fault (Int × List Char) := do
  let (year, rest) ← takeSigned (Text.trimFront cs)
  if -2147483648 ≤ year ∧ year < 2147483648 then pure (year, rest) else throw .outOfRange

/-- The digits of a fraction as nanoseconds; digits past the ninth are dropped. -/
def takeFraction : List Char → Except Fault (Nat × List Char)
  | '.' :: more => do
    let (n, rest) ← takeNumber 1 9 more
    let digits := more.length - rest.length
    pure (n * Number.tenTo (9 - digits), rest.dropWhile Text.isDecimalDigit)
  | cs => pure (0, cs)

/-! ## Offsets -/

/-- Two digits from the front of a text. A text too short for two is told apart
from one with other characters. -/
def takePair : List Char → Except Fault (Char × Char × List Char)
  | [] => .error .tooShort
  | [c] => if c.toNat < 128 then .error .tooShort else .error .unexpected
  | a :: b :: rest =>
    if Text.isDecimalDigit a && Text.isDecimalDigit b then .ok (a, b, rest) else .error .unexpected

/-- The value of two digits. -/
def pairValue (a b : Char) : Nat := Text.decimalValue a * 10 + Text.decimalValue b

/-- The minutes of an offset, which the permissive form may omit. -/
def takeOffsetMinutes (mayOmit : Bool) (cs : List Char) : Except Fault (Nat × List Char) :=
  match takePair cs with
  | .ok (a, b, rest) =>
    if pairValue a b < 60 then .ok (pairValue a b, rest) else .error .outOfRange
  | .error .tooShort => if mayOmit && cs.isEmpty then .ok (0, []) else .error .tooShort
  | .error fault => .error fault

/-- A signed offset in seconds. `separator` takes what stands between hours and minutes. -/
def takeOffset (zulu mayOmit : Bool) (separator : List Char → Except Fault (List Char))
    (cs : List Char) : Except Fault (Int × List Char) := do
  match cs with
  | [] => throw .tooShort
  | c :: rest =>
    if zulu && (c == 'Z' || c == 'z') then pure (0, rest)
    else
      let negative ← if c = '+' then pure false
        else if c = '-' ∨ c = Char.ofNat 0x2212 then pure true
        else throw .unexpected
      let (a, b, rest) ← takePair rest
      let (minutes, rest) ← takeOffsetMinutes mayOmit (← separator rest)
      let seconds : Int := pairValue a b * 3600 + minutes * 60
      pure (if negative then -seconds else seconds, rest)

/-- Any run of colons and blanks. -/
def looseSeparator (cs : List Char) : Except Fault (List Char) :=
  .ok (cs.dropWhile fun c => c == ':' || Text.isBlank c)

/-! ## Forms -/

/-- The fields read so far. -/
structure Fields where
  year : Int := 0
  month : Nat := 0
  day : Nat := 0
  hour : Nat := 0
  minute : Nat := 0
  second : Nat := 0
  nanos : Nat := 0
  offset : Int := 0

/-- One given character. -/
def takeLiteral (expected : Char) : List Char → Except Fault (List Char)
  | [] => .error .tooShort
  | c :: rest => if c = expected then .ok rest else .error .unexpected

/-- One item of a form. -/
def Item.read (p : Fields) (cs : List Char) : Item → Except Fault (Fields × List Char)
  | .year => do let (n, rest) ← takeYear cs; pure ({ p with year := n }, rest)
  | .month => do let (n, rest) ← takeField 2 1 12 cs; pure ({ p with month := n }, rest)
  | .day => do let (n, rest) ← takeField 2 1 31 cs; pure ({ p with day := n }, rest)
  | .hour => do let (n, rest) ← takeField 2 0 23 cs; pure ({ p with hour := n }, rest)
  | .minute => do let (n, rest) ← takeField 2 0 59 cs; pure ({ p with minute := n }, rest)
  | .second => do let (n, rest) ← takeField 2 0 60 cs; pure ({ p with second := n }, rest)
  | .fraction => do let (n, rest) ← takeFraction cs; pure ({ p with nanos := n }, rest)
  | .offset permissive => do
    let (n, rest) ← takeOffset permissive permissive looseSeparator (Text.trimFront cs)
    pure ({ p with offset := n }, rest)
  | .blank => pure (p, Text.trimFront cs)
  | .literal c => do pure (p, ← takeLiteral c cs)

/-- The items of a form in order. -/
def readItems : Format → Fields → List Char → Except Fault (Fields × List Char)
  | [], p, cs => .ok (p, cs)
  | item :: items, p, cs => do
    let (p, rest) ← item.read p cs
    readItems items p rest

/-- A whole text in a form. -/
def Format.read (f : Format) (s : String) : Except Fault Fields := do
  let (p, rest) ← readItems f {} s.toList
  if rest.isEmpty then pure p else throw .trailing

/-! ## Values -/

/-- The date of the fields. -/
def Fields.date (p : Fields) : Except Fault Date :=
  match Date.of? p.year p.month p.day with
  | some d => .ok d
  | none => .error .outOfRange

/-- The time of the fields. The second 60 is a leap second. -/
def Fields.time (p : Fields) : Except Fault TimeOfDay :=
  let (second, nanos) := if p.second = 60 then (59, 1000000000 + p.nanos) else (p.second, p.nanos)
  match TimeOfDay.of? p.hour p.minute second nanos with
  | some t => .ok t
  | none => .error .outOfRange

/-- The moment of the fields. -/
def Fields.dateTime (p : Fields) : Except Fault DateTime := do
  let date ← p.date
  let time ← p.time
  pure ⟨date, time⟩

/-- The moment of the fields at their offset. -/
def Fields.zoned (p : Fields) : Except Fault ZonedDateTime := do
  let moment ← p.dateTime
  if p.offset.natAbs < 86400 then
    match ZonedDateTime.of? moment p.offset with
    | some t => pure t
    | none => throw .impossible
  else throw .outOfRange

/-- Read a date. -/
def readDate (s : String) : Except Fault Date := do (← Format.date.read s).date

/-- Read a time of day. -/
def readTime (s : String) : Except Fault TimeOfDay := do (← Format.time.read s).time

/-- Read a moment in a form. -/
def readDateTime (f : Format) (s : String) : Except Fault DateTime := do (← f.read s).dateTime

/-- Read a moment at an offset in a form. -/
def readZoned (f : Format) (s : String) : Except Fault ZonedDateTime := do (← f.read s).zoned

/-! ## The interchange form

Every field has its full width, a letter or a blank stands before the time, and
the offset is a sign with hours and minutes or the letter Z. -/

/-- A number of exactly `width` digits between two bounds. -/
def takeExact (width low high : Nat) (cs : List Char) : Except Fault (Nat × List Char) := do
  let (n, rest) ← takeNumber width width cs
  if low ≤ n ∧ n ≤ high then pure (n, rest) else throw .outOfRange

/-- The mark between date and time. -/
def takeTimeMark : List Char → Except Fault (List Char)
  | [] => .error .tooShort
  | c :: rest => if c = 'T' ∨ c = 't' ∨ c = ' ' then .ok rest else .error .unexpected

/-- The fields of the interchange form. -/
def readInterchangeFields (cs : List Char) : Except Fault (Fields × List Char) := do
  let (year, cs) ← takeExact 4 0 9999 cs
  let cs ← takeLiteral '-' cs
  let (month, cs) ← takeExact 2 1 12 cs
  let cs ← takeLiteral '-' cs
  let (day, cs) ← takeExact 2 1 31 cs
  let cs ← takeTimeMark cs
  let (hour, cs) ← takeExact 2 0 23 cs
  let cs ← takeLiteral ':' cs
  let (minute, cs) ← takeExact 2 0 59 cs
  let cs ← takeLiteral ':' cs
  let (second, cs) ← takeExact 2 0 60 cs
  let (nanos, cs) ← takeFraction cs
  let (offset, cs) ← takeOffset true false (takeLiteral ':') cs
  if offset.natAbs ≤ 86340 then
    pure (⟨year, month, day, hour, minute, second, nanos, offset⟩, cs)
  else throw .outOfRange

/-- Read a moment in the interchange form. -/
def readInterchange (s : String) : Except Fault ZonedDateTime := do
  let (p, rest) ← readInterchangeFields s.toList
  if rest.isEmpty then p.zoned else throw .trailing

end SqlCompose.Time
