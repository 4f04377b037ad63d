import SqlCompose.Number.Binary

/-!
# SqlCompose.Number.Shortest -- the fewest digits that read back

Every finite binary number lies inside an interval of reals that round to it.
The shortest decimal in that interval is found grid by grid: on the grid of
`10 ^ k` only the two neighbours of the number can lie inside, so it is enough
to test those, from the coarsest grid on. Of two hits the nearer is taken, and
the upper one when both are equally near.
-/

namespace SqlCompose.Number

/-- The reals that round to a number, as fractions over one denominator. The
ends belong to the interval exactly when the mantissa is even. -/
structure Interval where
  low : Nat
  value : Nat
  high : Nat
  den : Nat
  closed : Bool

/-- The rounding interval of `mantissa * 2 ^ exponent`. Below a power of two the
numbers lie twice as dense, so the lower half of the interval is half as wide. -/
def Interval.around (f : BinaryFormat) (mantissa : Nat) (exponent : Int) : Interval :=
  let narrow := mantissa = twoTo f.mantissaBits ∧ exponent > f.minExponent
  let below := if narrow then 1 else 2
  let e := exponent - 2
  let scale := if e ≥ 0 then twoTo e.toNat else 1
  let den := if e ≥ 0 then 1 else twoTo (-e).toNat
  ⟨(4 * mantissa - below) * scale, 4 * mantissa * scale, (4 * mantissa + 2) * scale, den,
    mantissa % 2 == 0⟩

/-- A fraction over the grid of `10 ^ k`: numerator and denominator of the grid count. -/
def onGrid (num den : Nat) (k : Int) : Nat × Nat :=
  if k ≥ 0 then (num, den * tenTo k.toNat) else (num * tenTo (-k).toNat, den)

/-- Whether the grid point `g * 10 ^ k` lies in an interval. -/
def Interval.holds (i : Interval) (g : Nat) (k : Int) : Bool :=
  let (low, den) := onGrid i.low i.den k
  let (high, _) := onGrid i.high i.den k
  if i.closed then low ≤ g * den && g * den ≤ high else low < g * den && g * den < high

/-- The grid point of `10 ^ k` in an interval that is nearest to its number, if there is one. -/
def Interval.pointOn (i : Interval) (k : Int) : Option Nat :=
  let (num, den) := onGrid i.value i.den k
  let down := num / den
  let up := down + 1
  let downOk := down ≠ 0 && i.holds down k
  let upOk := i.holds up k
  if downOk && upOk then
    if num - down * den < up * den - num then some down else some up
  else if downOk then some down
  else if upOk then some up
  else none

/-- The number of decimal digits of a whole number. -/
def digitCount (n : Nat) : Nat := (Nat.toDigits 10 n).length

/-- The exponent of the first digit of a positive fraction. -/
def leadingExponent (num den : Nat) : Int :=
  if den ≤ num then (digitCount (num / den) - 1 : Nat)
  else match (List.range 400).find? (fun j => den ≤ num * tenTo j) with
    | some j => -(j : Int)
    | none => -400

/-- The first hit on the grids from `10 ^ k` on, `fuel` grids at most. -/
def Interval.firstPoint (i : Interval) (k : Int) : Nat → Option (Nat × Int)
  | 0 => none
  | fuel + 1 =>
    match i.pointOn k with
    | some g => some (g, k)
    | none => i.firstPoint (k - 1) fuel

/-- The shortest decimal `digits * 10 ^ k` that rounds to a positive number. -/
def shortest (f : BinaryFormat) (mantissa : Nat) (exponent : Int) : Nat × Int :=
  let i := Interval.around f mantissa exponent
  match i.firstPoint (leadingExponent i.value i.den) 20 with
  | some hit => hit
  | none => (0, 0)

end SqlCompose.Number
