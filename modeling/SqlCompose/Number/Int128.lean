import SqlCompose.Text.Digits

/-!
# SqlCompose.Number.Int128 -- whole numbers of 128 bits

The widest whole numbers a value can hold. The bounds are part of the type.
-/

namespace SqlCompose

/-- Two to the power of 127. -/
def Int128.bound : Int := 170141183460469231731687303715884105728

/-- A whole number from the negative bound up to, but not including, the bound. -/
structure Int128 where
  val : Int
  lower_le : -Int128.bound ≤ val
  lt_upper : val < Int128.bound
  deriving DecidableEq

namespace Int128

/-- A number as one of 128 bits, if it lies in range. -/
def ofInt? (i : Int) : Option Int128 :=
  if h : -bound ≤ i ∧ i < bound then some ⟨i, h.1, h.2⟩ else none

/-- Read an optional sign and decimal digits. -/
def read? (cs : List Char) : Option Int128 := (Text.readInt? cs).bind ofInt?

/-- The decimal text. -/
def text (n : Int128) : String := String.ofList (Text.intDigits n.val)

theorem ofInt?_eq_some_iff {i : Int} {n : Int128} : ofInt? i = some n ↔ n.val = i := by
  obtain ⟨v, hl, hu⟩ := n
  unfold ofInt?
  split
  · rename_i h
    simp only [Option.some.injEq, Int128.mk.injEq]
    exact ⟨fun e => e.symm, fun e => e.symm⟩
  · rename_i h
    constructor
    · intro e; cases e
    · intro e
      subst e
      exact absurd ⟨hl, hu⟩ h

end Int128

end SqlCompose
