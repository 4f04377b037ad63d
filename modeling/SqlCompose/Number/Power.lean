/-!
# SqlCompose.Number.Power -- powers of two and of ten

The two bases of this library: binary numbers have powers of two for units,
decimal ones powers of ten.
-/

namespace SqlCompose.Number

/-- Two to a power. -/
def twoTo (n : Nat) : Nat := Nat.pow 2 n

/-- Ten to a power. -/
def tenTo (n : Nat) : Nat := Nat.pow 10 n

theorem tenTo_pos (n : Nat) : 0 < tenTo n := Nat.pow_pos (by decide)

end SqlCompose.Number
