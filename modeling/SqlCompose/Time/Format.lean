import SqlCompose.Time.Calendar
import SqlCompose.Text.Digits
import SqlCompose.Text.Blank

/-!
# SqlCompose.Time.Format -- the written forms of dates and times

A form is a list of items, and the same list drives writing and reading. Years
outside 0 to 9999 are written with a sign. A fraction of a second has no, three,
six or nine digits, whichever is the shortest that loses nothing.
-/

namespace SqlCompose.Time

/-- One part of a written form. -/
inductive Item where
  | year
  | month
  | day
  | hour
  | minute
  | second
  | fraction
  /-- An offset from universal time; the permissive one may omit its minutes. -/
  | offset (permissive : Bool)
  | blank
  | literal (c : Char)
  deriving DecidableEq, Repr

/-- A written form. -/
abbrev Format := List Item

namespace Format

/-- Year, month and day. -/
def date : Format := [.year, .literal '-', .month, .literal '-', .day]

/-- Hour and minute. -/
def hourMinute : Format := [.hour, .literal ':', .minute]

/-- Hour, minute and second with a fraction. -/
def time : Format := hourMinute ++ [Item.literal ':', .second, .fraction]

/-- Date and time with a blank between them. -/
def dateTime : Format := date ++ Item.blank :: time

/-- Date and time with a letter between them. -/
def dateTimeT : Format := date ++ Item.literal 'T' :: time

/-- Date, hour and minute. -/
def dateHourMinute : Format := date ++ Item.blank :: hourMinute

/-- Date, time and offset. -/
def zoned : Format := dateTime ++ [Item.offset false]

/-- Date, time and an offset that may omit its minutes. -/
def zonedPermissive : Format := dateTime ++ [Item.offset true]

end Format

/-! ## Writing -/

/-- The fields a form is written from. A leap second counts as the second after its own, which is
the second 60 where it ends its minute. -/
structure Parts where
  year : Int := 0
  month : Nat := 0
  day : Nat := 0
  hour : Nat := 0
  minute : Nat := 0
  second : Nat := 0
  nanos : Nat := 0
  offset : Int := 0

/-- A year: four digits, or a sign and at least four digits. -/
def writeYear (year : Int) : List Char :=
  if 0 ≤ year ∧ year ≤ 9999 then Text.zeroPadded 4 year.natAbs
  else (if year < 0 then '-' else '+') :: Text.zeroPadded 4 year.natAbs

/-- A fraction of a second. -/
def writeFraction (nanos : Nat) : List Char :=
  if nanos = 0 then []
  else if nanos % 1000000 = 0 then '.' :: Text.zeroPadded 3 (nanos / 1000000)
  else if nanos % 1000 = 0 then '.' :: Text.zeroPadded 6 (nanos / 1000)
  else '.' :: Text.zeroPadded 9 nanos

/-- An offset to the minute; half a minute goes up in magnitude. -/
def writeOffset (offset : Int) : List Char :=
  let minutes := (offset.natAbs + 30) / 60
  (if offset < 0 then '-' else '+') ::
    Text.zeroPadded 2 (minutes / 60) ++ ':' :: Text.zeroPadded 2 (minutes % 60)

/-- One item of a form. -/
def Item.write (p : Parts) : Item → List Char
  | .year => writeYear p.year
  | .month => Text.zeroPadded 2 p.month
  | .day => Text.zeroPadded 2 p.day
  | .hour => Text.zeroPadded 2 p.hour
  | .minute => Text.zeroPadded 2 p.minute
  | .second => Text.zeroPadded 2 p.second
  | .fraction => writeFraction p.nanos
  | .offset _ => writeOffset p.offset
  | .blank => [' ']
  | .literal c => [c]

/-- The text of a form. -/
def Format.write (f : Format) (p : Parts) : String := String.ofList (f.flatMap (Item.write p))

/-- The fields of a date. -/
def dateParts (d : Date) : Parts :=
  { year := d.year, month := d.month, day := d.day }

/-- The fields of a time of day. -/
def timeParts (t : TimeOfDay) : Parts :=
  { hour := t.hour, minute := t.minute, second := t.second + t.nanos / 1000000000,
    nanos := t.nanos % 1000000000 }

/-- The fields of a moment. -/
def dateTimeParts (t : DateTime) : Parts :=
  { timeParts t.time with year := t.date.year, month := t.date.month, day := t.date.day }

/-- The local fields of a moment at an offset. -/
def zonedParts (t : ZonedDateTime) : Parts :=
  { timeParts t.localTime with
    year := t.localDay.year, month := t.localDay.month, day := t.localDay.day, offset := t.offset }

/-- The written form of a date. -/
def writeDate (d : Date) : String := Format.date.write (dateParts d)

/-- The written form of a time of day. -/
def writeTime (t : TimeOfDay) : String := Format.time.write (timeParts t)

/-- The written form of a moment. -/
def writeDateTime (t : DateTime) : String := Format.dateTime.write (dateTimeParts t)

/-- The written form of a moment at an offset. -/
def writeZoned (t : ZonedDateTime) : String := Format.zoned.write (zonedParts t)

end SqlCompose.Time
