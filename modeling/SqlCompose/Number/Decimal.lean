import SqlCompose.Number.Power
import SqlCompose.Text.Digits

/-!
# SqlCompose.Number.Decimal -- decimal fractions with a scale

A decimal is a sign, a mantissa of 96 bits and a count of places behind the
point, at most 28. The scale is part of the value: `1.50` and `1.5` are equal
numbers with different texts.
-/

namespace SqlCompose

/-- The largest mantissa plus one: two to the power of 96. -/
def Decimal.mantissaBound : Nat := 79228162514264337593543950336

/-- The largest count of places behind the point. -/
def Decimal.maxScale : Nat := 28

/-- The number `mantissa / 10 ^ scale` with a sign. -/
structure Decimal where
  negative : Bool
  mantissa : Nat
  scale : Nat
  mantissa_lt : mantissa < Decimal.mantissaBound
  scale_le : scale ≤ Decimal.maxScale
  deriving DecidableEq

namespace Decimal

open Number (tenTo)

/-- Why a text or a number is no decimal. -/
inductive Fault where
  | empty
  | unknownCharacter
  | noDigits
  | secondPoint
  | leadingSeparator
  | tooManyDigits
  | roundingOverflow
  | malformedExponent
  | scaleTooLarge (scale : Nat)
  | aboveRange
  | belowRange
  | notRepresentable
  deriving DecidableEq, Repr

/-- The wording of a fault. -/
def Fault.message : Fault → String
  | .empty => "Invalid decimal: empty"
  | .unknownCharacter => "Invalid decimal: unknown character"
  | .noDigits => "Invalid decimal: no digits found"
  | .secondPoint => "Invalid decimal: two decimal points"
  | .leadingSeparator => "Invalid decimal: must start lead with a number"
  | .tooManyDigits => "Invalid decimal: overflow from too many digits"
  | .roundingOverflow => "Invalid decimal: overflow from mantissa after rounding"
  | .malformedExponent => "Failed to parse"
  | .scaleTooLarge n => s!"Scale exceeds the maximum precision allowed: {n} > {maxScale}"
  | .aboveRange => "Number exceeds maximum value that can be represented."
  | .belowRange => "Number less than minimum value that can be represented."
  | .notRepresentable => "Error while converting to Decimal"

/-- A decimal of parts known to be in range. -/
def ofParts? (negative : Bool) (mantissa scale : Nat) : Option Decimal :=
  if h : mantissa < mantissaBound ∧ scale ≤ maxScale then
    some ⟨negative, mantissa, scale, h.1, h.2⟩
  else none

/-- The whole number that a decimal holds before its point, without its sign. -/
def whole (d : Decimal) : Nat := d.mantissa / tenTo d.scale

/-- Nothing but zeros behind the point. -/
def isWhole (d : Decimal) : Bool := d.mantissa % tenTo d.scale == 0

/-- The mantissa with its sign. -/
def signed (d : Decimal) : Int := if d.negative then -(d.mantissa : Int) else d.mantissa

/-- Equality of the numbers, whatever the scales. -/
def sameValue (a b : Decimal) : Bool := a.signed * tenTo b.scale == b.signed * tenTo a.scale

/-- The whole number that a decimal is, if it is one. -/
def toInt? (d : Decimal) : Option Int :=
  if d.isWhole then some (if d.negative then -(d.whole : Int) else d.whole) else none

/-- A whole number as a decimal. -/
def ofInt (i : Int) : Except Fault Decimal :=
  match ofParts? (decide (i < 0)) i.natAbs 0 with
  | some d => .ok d
  | none => .error (if i < 0 then .belowRange else .aboveRange)

/-! ## Writing -/

/-- A mantissa with a point before its last `scale` digits. -/
def placed (mantissa scale : Nat) : List Char :=
  let ds := Text.zeroPadded (scale + 1) mantissa
  if scale = 0 then ds else ds.take (ds.length - scale) ++ '.' :: ds.drop (ds.length - scale)

/-- The text of a decimal, all its places kept. -/
def text (d : Decimal) : String :=
  String.ofList (if d.negative then '-' :: placed d.mantissa d.scale else placed d.mantissa d.scale)

/-! ## Reading -/

/-- A decimal that was read; a zero has no sign. -/
def finish (negative : Bool) (mantissa scale : Nat) : Except Fault Decimal :=
  match ofParts? (negative && mantissa != 0) mantissa scale with
  | some d => .ok d
  | none => .error .tooManyDigits

/-- A character that cannot stand where it does. -/
def misplaced (c : Char) : Fault :=
  if c = '.' then .secondPoint
  else if c = '_' then .leadingSeparator
  else .unknownCharacter

/-- Behind the last place that is kept nothing but digits and separators may stand. -/
def checkRest : List Char → Except Fault Unit
  | [] => .ok ()
  | c :: rest => if Text.isDecimalDigit c ∨ c = '_' then checkRest rest else .error (misplaced c)

/-- Settle the last place by the digit after it: from five on it goes up. A
mantissa that then no longer fits gives up one place. -/
def roundUp (negative : Bool) (mantissa scale digit : Nat) : Except Fault Decimal :=
  let m := if digit ≥ 5 then mantissa + 1 else mantissa
  if m < mantissaBound then finish negative m scale
  else if scale = 0 then .error .roundingOverflow
  else finish negative ((m + 4) / 10) (scale - 1)

/-- Settle the last place by the text after it, which starts with a digit. A
separator there counts as a zero. -/
def roundBy (negative : Bool) (mantissa scale : Nat) (cs : List Char) : Except Fault Decimal := do
  checkRest cs
  let digit := match cs with
    | [] => 0
    | c :: _ => if Text.isDecimalDigit c then Text.decimalValue c else 0
  roundUp negative mantissa scale digit

/-- The mantissas from which on the digits are counted in more than 64 bits. -/
def wideBound : Nat := 18446744073709551615 / 10 - 255

/-- Read digits, separators and one point. `seen` tells whether a digit was
read, `point` whether the point was. Once the mantissa is `wide`, separators in
front of the digit that settles the last place are skipped. -/
def readFrom (negative seen point wide : Bool) (mantissa scale : Nat) :
    List Char → Except Fault Decimal
  | [] => if seen then finish negative mantissa scale else .error .noDigits
  | c :: rest =>
    if point && scale ≥ maxScale then
      roundBy negative mantissa scale (if wide then (c :: rest).dropWhile (· == '_') else c :: rest)
    else
      let wide := wide || decide (mantissa ≥ wideBound)
      if Text.isDecimalDigit c then
        let next := 10 * mantissa + Text.decimalValue c
        if next < mantissaBound then
          readFrom negative true point wide next (if point then scale + 1 else scale) rest
        else if point then roundBy negative mantissa scale (c :: rest)
        else .error .tooManyDigits
      else if c = '.' ∧ !point then readFrom negative seen true wide mantissa scale rest
      else if c = '_' ∧ seen then readFrom negative seen point wide mantissa scale rest
      else .error (misplaced c)

/-- Read a sign and the digits after it. -/
def readPlain : List Char → Except Fault Decimal
  | [] => .error .empty
  | '-' :: rest => readFrom true false false false 0 0 rest
  | '+' :: rest => readFrom false false false false 0 0 rest
  | cs => readFrom false false false false 0 0 cs

/-- Drop the last `n` digits. The first digit of those that are dropped rounds. -/
def dropDigits (mantissa : Nat) : Nat → Nat
  | 0 => mantissa
  | n + 1 =>
    let m := mantissa / tenTo n
    m / 10 + (if m % 10 ≥ 5 then 1 else 0)

/-- Move the point to the left. Digits that would come to stand behind the last
place are dropped. -/
def shiftLeft (d : Decimal) (power : Nat) : Except Fault Decimal :=
  if power > maxScale then .error (.scaleTooLarge power)
  else
    match ofParts? d.negative (dropDigits d.mantissa (d.scale + power - maxScale))
        (min (d.scale + power) maxScale) with
    | some r => .ok r
    | none => .error .aboveRange

/-- Move the point to the right. A number that grows past its places is written
without any. -/
def shiftRight (d : Decimal) (power : Nat) : Except Fault Decimal :=
  if power ≤ d.scale then
    match ofParts? d.negative d.mantissa (d.scale - power) with
    | some r => .ok r
    | none => .error .aboveRange
  else if power > maxScale then .error (.scaleTooLarge power)
  else
    match ofParts? d.negative (d.mantissa * tenTo (power - d.scale)) 0 with
    | some r => .ok r
    | none => .error .aboveRange

/-- The digits of a power, which fits in 32 bits and may have a plus in front. -/
def readPower (cs : List Char) : Option Nat := do
  let n ← Text.readNat? (match cs with
    | '+' :: rest => rest
    | cs => cs)
  if n < 4294967296 then some n else none

/-- Move the point by the power of ten that a text writes. -/
def shift (d : Decimal) : List Char → Except Fault Decimal
  | '-' :: cs =>
    match readPower cs with
    | some power => d.shiftLeft power
    | none => .error .malformedExponent
  | cs =>
    match readPower cs with
    | some power => d.shiftRight power
    | none => .error .malformedExponent

/-- The mark between a number and its exponent. -/
def isExponentMark (c : Char) : Bool := c == 'e' || c == 'E'

/-- Read a decimal: a plain one, or one with an exponent. -/
def read (s : String) : Except Fault Decimal :=
  let cs := s.toList
  match cs.dropWhile (fun c => !isExponentMark c) with
  | [] => readPlain cs
  | _ :: exponent => do
    let d ← readPlain (cs.takeWhile fun c => !isExponentMark c)
    d.shift exponent

end Decimal

end SqlCompose
