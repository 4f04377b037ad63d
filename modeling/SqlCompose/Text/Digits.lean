/-!
# SqlCompose.Text.Digits -- whole numbers in decimal digits

Reading takes ASCII digits only; a sign may stand before the digits where a
signed number is read. Nothing else may surround them.
-/

namespace SqlCompose.Text

/-- The ten decimal digits. -/
def isDecimalDigit (c : Char) : Bool := 48 ≤ c.toNat && c.toNat ≤ 57

/-- The value of a decimal digit. -/
def decimalValue (c : Char) : Nat := c.toNat - 48

/-- The number that a row of digits stands for, after `acc`. -/
def digitsValue (acc : Nat) : List Char → Nat
  | [] => acc
  | c :: rest => digitsValue (10 * acc + decimalValue c) rest

/-- The number that at least one digit, and digits only, stand for. -/
def readNat? (cs : List Char) : Option Nat :=
  if cs ≠ [] ∧ cs.all isDecimalDigit then some (digitsValue 0 cs) else none

/-- A whole number with an optional sign. -/
def readInt? : List Char → Option Int
  | '+' :: rest => (readNat? rest).map Int.ofNat
  | '-' :: rest => (readNat? rest).map fun n => -(n : Int)
  | cs => (readNat? cs).map Int.ofNat

/-- The digits of a number. -/
def natDigits (n : Nat) : List Char := Nat.toDigits 10 n

/-- At least `width` digits, with zeros in front. -/
def zeroPadded (width n : Nat) : List Char :=
  let ds := natDigits n
  List.replicate (width - ds.length) '0' ++ ds

/-- The digits of a number, with a minus sign in front of a negative one. -/
def intDigits (i : Int) : List Char :=
  if i < 0 then '-' :: natDigits i.natAbs else natDigits i.natAbs

end SqlCompose.Text
