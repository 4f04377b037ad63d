import SqlCompose.Number.Power

/-!
# SqlCompose.Number.Binary -- binary floating point as exact numbers

A finite floating-point number is `mantissa * 2 ^ exponent` with a sign. This
module takes the bits of a number apart and rounds an exact fraction to the
nearest number of a format, a half going to the even neighbour.
-/

namespace SqlCompose.Number

/-- A binary interchange format: the stored bits of the mantissa and of the exponent. -/
structure BinaryFormat where
  mantissaBits : Nat
  exponentBits : Nat

namespace BinaryFormat

/-- Thirty-two bits. -/
def single : BinaryFormat := ⟨23, 8⟩

/-- Sixty-four bits. -/
def double : BinaryFormat := ⟨52, 11⟩

/-- The exponent of the smallest numbers, those that share the lowest exponent field. -/
def minExponent (f : BinaryFormat) : Int :=
  2 - (twoTo (f.exponentBits - 1) : Nat) - (f.mantissaBits : Nat)

/-- The exponent field of infinities and of what is no number. -/
def topField (f : BinaryFormat) : Nat := twoTo f.exponentBits - 1

/-- The bits of infinity, without its sign. -/
def infinity (f : BinaryFormat) : Nat := f.topField * twoTo f.mantissaBits

/-- The bit that holds the sign. -/
def signBit (f : BinaryFormat) : Nat := twoTo (f.mantissaBits + f.exponentBits)

/-- A quiet bit pattern that is no number. -/
def quietNaN (f : BinaryFormat) : Nat := f.infinity + twoTo (f.mantissaBits - 1)

end BinaryFormat

/-- What the bits of a format stand for. -/
inductive Binary where
  | nan
  | infinite (negative : Bool)
  | finite (negative : Bool) (mantissa : Nat) (exponent : Int)
  deriving DecidableEq, Repr

/-- Take bits apart. -/
def Binary.ofBits (f : BinaryFormat) (bits : Nat) : Binary :=
  let negative := bits / f.signBit % 2 == 1
  let field := bits / twoTo f.mantissaBits % twoTo f.exponentBits
  let fraction := bits % twoTo f.mantissaBits
  if field = f.topField then
    if fraction = 0 then .infinite negative else .nan
  else if field = 0 then .finite negative fraction f.minExponent
  else .finite negative (fraction + twoTo f.mantissaBits) (f.minExponent + (field - 1 : Nat))

/-- A quotient rounded to the nearest whole number, a half to the even neighbour. -/
def roundHalfEven (num den : Nat) : Nat :=
  let q := num / den
  let r := num % den
  if 2 * r < den then q
  else if 2 * r > den then q + 1
  else q + q % 2

/-- The fraction `num / den` divided by a power of two. -/
def scaleDown (num den : Nat) (exponent : Int) : Nat × Nat :=
  if exponent ≥ 0 then (num, den * twoTo exponent.toNat)
  else (num * twoTo (-exponent).toNat, den)

/-- The bits, without a sign, of the number of a format nearest to `num / den`. -/
def nearestBits (f : BinaryFormat) (num den : Nat) : Nat :=
  if num = 0 then 0
  else
    let d : Int := (Nat.log2 num : Int) - (Nat.log2 den : Int)
    let (a, b) := scaleDown num den d
    let top : Int := if b ≤ a then d else d - 1
    let exponent := max (top - (f.mantissaBits : Nat)) f.minExponent
    let (a, b) := scaleDown num den exponent
    let q := roundHalfEven a b
    let bits :=
      if q < twoTo f.mantissaBits then q
      else
        ((exponent - f.minExponent).toNat + 1) * twoTo f.mantissaBits + (q - twoTo f.mantissaBits)
    min bits f.infinity

/-- Bits with the given sign. -/
def withSign (f : BinaryFormat) (negative : Bool) (bits : Nat) : Nat :=
  if negative then f.signBit + bits else bits

end SqlCompose.Number
