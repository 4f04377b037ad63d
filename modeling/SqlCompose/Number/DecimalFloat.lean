import SqlCompose.Number.Decimal
import SqlCompose.Number.FloatText

/-!
# SqlCompose.Number.DecimalFloat -- decimals and floating-point numbers

A whole number becomes a decimal if its mantissa has room for it. A fraction has
its power of two moved into a power of ten: each factor of one half is a factor
of five tenths. The mantissa is kept below 96 bits on the way, then cut to about
sixteen digits, and zeros at its end are dropped.
-/

namespace SqlCompose.Decimal

open SqlCompose.Number

/-! ## From floating point -/

/-- A mantissa with a power of ten. -/
structure Scaled where
  mantissa : Nat
  power : Int
  deriving DecidableEq, Repr

/-- Turn `n` factors of one half into tenths: halve an even mantissa, else take
it five times, and give up the lowest bit where that does not fit. -/
def takeHalves (s : Scaled) : Nat → Scaled
  | 0 => s
  | n + 1 =>
    let next : Scaled :=
      if s.mantissa % 2 = 0 then ⟨s.mantissa / 2, s.power + 1⟩
      else if 5 * s.mantissa < mantissaBound then ⟨5 * s.mantissa, s.power⟩
      else ⟨s.mantissa / 2, s.power + 1⟩
    takeHalves next n

/-- Drop the last digit, rounding a half up. -/
def dropDigit (s : Scaled) : Scaled :=
  let up := if s.mantissa % 10 ≥ 5 then 1 else 0
  ⟨s.mantissa / 10 + up, s.power + 1⟩

/-- Drop digits until no more than 28 places are left; a mantissa that runs out
of digits is zero. -/
def cutPlaces (s : Scaled) : Nat → Scaled
  | 0 => s
  | n + 1 =>
    if s.power < -(maxScale : Int) then
      if s.mantissa / 10 = 0 then ⟨0, 0⟩ else cutPlaces (dropDigit s) n
    else s

/-- Drop digits that binary numbers of this size do not carry. -/
def cutDigits (s : Scaled) : Nat → Scaled
  | 0 => s
  | n + 1 => if s.power < 0 ∧ s.mantissa ≥ twoTo 52 then cutDigits (dropDigit s) n else s

/-- Drop zeros at the end of the places. -/
def cutZeros (s : Scaled) : Nat → Scaled
  | 0 => s
  | n + 1 =>
    if s.power < 0 ∧ s.mantissa % 10 = 0 then cutZeros ⟨s.mantissa / 10, s.power + 1⟩ n else s

/-- The decimal of `mantissa / 2 ^ halves`. -/
def ofHalves (negative : Bool) (mantissa halves : Nat) : Except Fault Decimal :=
  let s := takeHalves ⟨mantissa, -(halves : Int)⟩ halves
  let s := cutPlaces s (-s.power).toNat
  let s := cutDigits s (-s.power).toNat
  let s := cutZeros s (-s.power).toNat
  match ofParts? negative s.mantissa (-s.power).toNat with
  | some d => .ok d
  | none => .error .notRepresentable

/-- The decimal of `mantissa * 2 ^ exponent`. -/
def ofBinary (negative : Bool) (mantissa : Nat) (exponent : Int) : Except Fault Decimal :=
  if exponent < 0 then ofHalves negative mantissa (-exponent).toNat
  else
    match ofParts? negative (mantissa * twoTo exponent.toNat) 0 with
    | some d => .ok d
    | none => .error .notRepresentable

/-- The decimal of a number of sixty-four bits. -/
def ofFloat (x : Float) : Except Fault Decimal :=
  match Binary.ofBits .double x.toBits.toNat with
  | .finite negative mantissa exponent =>
    if mantissa = 0 then
      match ofParts? negative 0 0 with
      | some d => .ok d
      | none => .error .notRepresentable
    else ofBinary negative mantissa exponent
  | _ => .error .notRepresentable

/-! ## To floating point -/

/-- The floating-point number of a decimal. Places behind the point are added to
the whole part and the sum is rounded again to the decimal's scale. -/
def toFloat (d : Decimal) : Float :=
  if d.scale = 0 then doubleOfInt d.signed
  else
    let precision := tenTo d.scale
    let fraction := doubleOfInt (d.mantissa % precision : Nat) / doubleOfInt (precision : Nat)
    let whole := doubleOfInt (d.mantissa / precision : Nat)
    let unsigned :=
      if fraction == 0 then whole
      else
        let rounding := doubleOfInt (precision : Nat)
        ((whole + fraction) * rounding).round / rounding
    if d.negative then -unsigned else unsigned

end SqlCompose.Decimal
