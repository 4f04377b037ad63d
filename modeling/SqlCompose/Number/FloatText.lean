import SqlCompose.Number.Shortest
import SqlCompose.Text.Digits

/-!
# SqlCompose.Number.FloatText -- floating-point numbers as text

A number is written with the fewest digits that read back, always
positionally and never with an exponent. Reading takes a sign, digits with an
optional point, an optional exponent, and the names of infinity and of what is
no number in any case; the result is rounded once.
-/

namespace SqlCompose.Number

/-! ## Writing -/

/-- Drop the zeros at the end of a digit row, counting them. -/
def dropZeros (ds : List Char) : List Char × Nat :=
  let kept := (ds.reverse.dropWhile (· == '0')).reverse
  (kept, ds.length - kept.length)

/-- A decimal `digits * 10 ^ k` written positionally. -/
def positional (digits : Nat) (k : Int) : List Char :=
  let (ds, zeros) := dropZeros (Text.natDigits digits)
  let k := k + zeros
  if k ≥ 0 then ds ++ List.replicate k.toNat '0'
  else
    let places := (-k).toNat
    if places < ds.length then
      ds.take (ds.length - places) ++ '.' :: ds.drop (ds.length - places)
    else '0' :: '.' :: List.replicate (places - ds.length) '0' ++ ds

/-- The text of what the bits of a format stand for. -/
def Binary.text (f : BinaryFormat) : Binary → String
  | .nan => "NaN"
  | .infinite negative => if negative then "-inf" else "inf"
  | .finite negative mantissa exponent =>
    let body :=
      if mantissa = 0 then ['0']
      else
        let (digits, k) := shortest f mantissa exponent
        positional digits k
    String.ofList (if negative then '-' :: body else body)

/-- The text of a number of sixty-four bits. -/
def doubleText (x : Float) : String :=
  Binary.text .double (Binary.ofBits .double x.toBits.toNat)

/-- The text of a number of thirty-two bits. -/
def singleText (x : Float32) : String :=
  Binary.text .single (Binary.ofBits .single x.toBits.toNat)

/-! ## Reading -/

/-- What the text of a number stands for, before rounding: an infinity, no
number, or `digits * 10 ^ exponent`. -/
inductive FloatSource where
  | nan
  | infinite
  | decimal (digits : Nat) (exponent : Int)

/-- An exponent mark and its number; nothing at all is the exponent zero. -/
def readExponent? : List Char → Option Int
  | [] => some 0
  | c :: rest => if c = 'e' ∨ c = 'E' then Text.readInt? rest else none

/-- The number without its sign. -/
def readUnsigned? (cs : List Char) : Option FloatSource :=
  let whole := cs.takeWhile Text.isDecimalDigit
  let rest := cs.dropWhile Text.isDecimalDigit
  let (fraction, rest) := match rest with
    | '.' :: more => (more.takeWhile Text.isDecimalDigit, more.dropWhile Text.isDecimalDigit)
    | _ => ([], rest)
  if whole ++ fraction ≠ [] then
    (readExponent? rest).map fun e =>
      .decimal (Text.digitsValue 0 (whole ++ fraction)) (e - (fraction.length : Nat))
  else
    let name := String.ofList (cs.map Char.toLower)
    if name = "inf" ∨ name = "infinity" then some .infinite
    else if name = "nan" then some .nan
    else none

/-- Bits without a sign for a number that was read. Exponents far outside every
format are settled without computing the power. -/
def FloatSource.bits (f : BinaryFormat) : FloatSource → Nat
  | .nan => f.quietNaN
  | .infinite => f.infinity
  | .decimal digits exponent =>
    let top := exponent + (digitCount digits : Nat)
    if digits = 0 ∨ top < -400 then 0
    else if top > 400 then f.infinity
    else if exponent ≥ 0 then nearestBits f (digits * tenTo exponent.toNat) 1
    else nearestBits f digits (tenTo (-exponent).toNat)

/-- The bits of the number that a text stands for. -/
def readBits? (f : BinaryFormat) (s : String) : Option Nat :=
  match s.toList with
  | '-' :: rest => (readUnsigned? rest).map fun x => withSign f true (x.bits f)
  | '+' :: rest => (readUnsigned? rest).map fun x => x.bits f
  | cs => (readUnsigned? cs).map fun x => x.bits f

/-- Read a number of sixty-four bits. -/
def readDouble? (s : String) : Option Float :=
  (readBits? .double s).map fun n => Float.ofBits (UInt64.ofNat n)

/-- Read a number of thirty-two bits. -/
def readSingle? (s : String) : Option Float32 :=
  (readBits? .single s).map fun n => Float32.ofBits (UInt32.ofNat n)

/-- The number of sixty-four bits nearest to a whole number. -/
def doubleOfInt (i : Int) : Float :=
  Float.ofBits (UInt64.ofNat (withSign .double (i < 0) (nearestBits .double i.natAbs 1)))

end SqlCompose.Number
