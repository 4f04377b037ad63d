import SqlCompose.Number.FloatText
import SqlCompose.Text.Digits
import SqlCompose.Text.Hex
import SqlCompose.Time.Calendar
import SqlCompose.Toml.Value

/-!
# SqlCompose.Toml.Scalar -- numbers, truth values, dates and times in TOML

A value that is not in quotes or brackets is one word, and the word as a whole
tells what it is. A word has to look like a number, a date or a time to stand in
a document. Whether the digits of a number make one that has a place is decided
apart: such a number spoils only those readers that look at it.
-/

namespace SqlCompose.Toml

/-! ## Underscores -/

/-- The characters of a number without the underscores between them. `behind`
tells whether an underscore may follow what was passed already. -/
def joined (isDigit : Char → Bool) (behind : Bool) : List Char → Option (List Char)
  | [] => some []
  | [c] => if c = '_' then none else some [c]
  | c :: d :: rest =>
    if c = '_' then
      if behind && isDigit d then joined isDigit true (d :: rest) else none
    else (joined isDigit (isDigit c) (d :: rest)).map (c :: ·)

/-- The characters of a number without its underscores. An underscore stands
behind a digit or the first character, and in front of a digit. -/
def withoutUnderscores (isDigit : Char → Bool) : List Char → Option (List Char)
  | [] => some []
  | [c] => if c = '_' then none else some [c]
  | c :: rest => if c = '_' then none else (joined isDigit true rest).map (c :: ·)

/-! ## Whole numbers -/

/-- The number that digits of a base stand for. -/
def valueOf (base : Nat) (digits : List Char) : Nat :=
  digits.foldl (fun acc c => base * acc + (Text.Hex.value? c).getD 0) 0

/-- The digits of a base of at most sixteen. -/
def isBelow (limit : Nat) (c : Char) : Bool :=
  match Text.Hex.value? c with
  | some n => n < limit
  | none => false

/-- The widest whole numbers that a value can hold. -/
def fits (n : Int) : Bool := -(Number.twoTo 127 : Int) ≤ n && n < Number.twoTo 128

/-- A whole number, if there is one and it fits. -/
def ofInteger : Option Int → Toml
  | some n => if fits n then .integer n else .unreadable
  | none => .unreadable

/-- A whole number in a base, without the mark of the base. -/
def based? (base : Nat) (cs : List Char) : Option Toml := do
  if cs.all fun c => isBelow base c || c == '_' then
    let digits ← withoutUnderscores Text.Hex.isDigit cs
    some (ofInteger (if digits.isEmpty then none else some (valueOf base digits)))
  else none

/-! ## Fractions and powers -/

/-- Digits with underscores from the front of a number; at least one is a digit.
If `strict`, a zero in front stands alone. -/
def takeDigits (strict : Bool) (cs : List Char) : Option (List Char) := do
  let taken := cs.takeWhile fun c => Text.isDecimalDigit c || c == '_'
  let count := (taken.filter Text.isDecimalDigit).length
  if count = 0 ∨ (strict ∧ count > 1 ∧ cs.head? = some '0') then none
  else some (cs.drop taken.length)

/-- Drop a sign. -/
def dropSign : List Char → List Char
  | '+' :: rest | '-' :: rest => rest
  | cs => cs

/-- Whether a character starts a power of ten. -/
def isPowerMark (c : Char) : Bool := c == 'e' || c == 'E'

/-- A power of ten at the end of a number, or nothing. -/
def endsWithPower : List Char → Bool
  | [] => true
  | c :: rest => isPowerMark c && takeDigits false (dropSign rest) == some []

/-- The parts of a number with a fraction or a power of ten, or both. -/
def hasFloatForm (cs : List Char) : Bool :=
  match takeDigits true cs with
  | none => false
  | some ('.' :: rest) =>
    match takeDigits false rest with
    | some rest => endsWithPower rest
    | none => false
  | some rest => endsWithPower rest

/-- A number with a fraction or a power of ten. One that is too large for a
double has no value. -/
def ofFloat (text : List Char) : Toml :=
  match Number.readDouble? (String.ofList text) with
  | some x => if x.isFinite then .float (String.ofList text) else .unreadable
  | none => .unreadable

/-! ## Dates and times -/

/-- A number of exactly two digits. -/
def pair? (a b : Char) : Option Nat := Text.readNat? [a, b]

/-- The end of a time: nothing, or a fraction of a second. -/
def isFraction : List Char → Bool
  | [] => true
  | '.' :: rest => (Text.readNat? rest).isSome
  | _ => false

/-- A time of day. The seconds may be missing. -/
def isTime : List Char → Bool
  | a :: b :: ':' :: c :: d :: rest =>
    let hourMinute := match pair? a b, pair? c d with
      | some hour, some minute => hour < 24 && minute < 60
      | _, _ => false
    hourMinute && (match rest with
      | [] => true
      | ':' :: e :: f :: fraction =>
        (match pair? e f with
          | some second => second ≤ 60
          | none => false) && isFraction fraction
      | _ => false)
  | _ => false

/-- A day of the calendar. -/
def isDate : List Char → Bool
  | [a, b, c, d, '-', e, f, '-', g, h] =>
    match Text.readNat? [a, b, c, d], pair? e f, pair? g h with
    | some year, some month, some day => (Date.of? year month day).isSome
    | _, _, _ => false
  | _ => false

/-- An offset from universal time. -/
def isOffset : List Char → Bool
  | ['Z'] | ['z'] => true
  | [sign, a, b, ':', c, d] =>
    (sign == '+' || sign == '-') && (match pair? a b, pair? c d with
      | some hour, some minute => hour < 24 && minute < 60
      | _, _ => false)
  | _ => false

/-- The characters that start an offset. -/
def startsOffset (c : Char) : Bool := c == 'Z' || c == 'z' || c == '+' || c == '-'

/-- A date, a time, or both, possibly with an offset. -/
def isMoment (cs : List Char) : Bool :=
  isTime cs || isDate cs ||
    (isDate (cs.take 10) && (match cs.drop 10 with
      | mark :: rest =>
        (mark == 'T' || mark == 't' || mark == ' ') &&
          isTime (rest.takeWhile fun c => !startsOffset c) &&
          (match rest.dropWhile fun c => !startsOffset c with
            | [] => true
            | offset => isOffset offset)
      | [] => false))

/-! ## Words -/

/-- A word that starts with a digit, possibly behind a sign: `unsigned` is the
word without the sign. -/
def number? (word unsigned : List Char) : Option Toml :=
  match unsigned.dropWhile Text.isDecimalDigit with
  | [] => if unsigned.head? = some '0' then none else some (ofInteger (Text.readInt? word))
  | c :: rest =>
    if c = '-' ∨ c = ':' then
      if isMoment word then some (.moment (String.ofList word)) else none
    else if (c :: rest).any fun c => c == '.' || isPowerMark c then
      if hasFloatForm unsigned then (withoutUnderscores Text.isDecimalDigit word).map ofFloat
      else none
    else if c = '_' ∧ unsigned.head? ≠ some '0' then
      (withoutUnderscores Text.Hex.isDigit word).map fun text => ofInteger (Text.readInt? text)
    else none

/-- A number, a date or a time. Numbers with the mark of a base have no sign. -/
def numeral? (word unsigned : List Char) : Option Toml :=
  match unsigned with
  | ['0'] => some (.integer 0)
  | '0' :: 'x' :: rest => if word = unsigned then based? 16 rest else none
  | '0' :: 'o' :: rest => if word = unsigned then based? 8 rest else none
  | '0' :: 'b' :: rest => if word = unsigned then based? 2 rest else none
  | c :: _ => if Text.isDecimalDigit c || c == '_' then number? word unsigned else none
  | [] => none

/-- What a word says. -/
def scalar? (word : List Char) : Option Toml :=
  if word = "true".toList then some (.boolean true)
  else if word = "false".toList then some (.boolean false)
  else
    let unsigned := dropSign word
    if unsigned = "inf".toList ∨ unsigned = "nan".toList then some (.float (String.ofList word))
    else numeral? word unsigned

end SqlCompose.Toml
