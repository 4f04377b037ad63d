import SqlCompose.Scope.AliasMode
import SqlCompose.Text.Digits

/-!
# SqlCompose.Scope.Alias -- generated aliases

A generated alias such as `pers_0_1` has a stem of up to four safe characters
of a name, a counter for aliases of that stem in one scope, and the number of
the scope.
-/

namespace SqlCompose

namespace Alias

/-- The greatest length of a stem. -/
def stemLength : Nat := 4

/-- The characters a stem keeps. -/
def isSafe (c : Char) : Bool :=
  (97 ≤ c.toNat && c.toNat ≤ 122) || (48 ≤ c.toNat && c.toNat ≤ 57) || c == '_'

/-- The first characters of a name in small letters; an underscore stands for
each that is not safe. -/
def stem (name : String) : String :=
  String.ofList
    (((Text.lower name).toList.take stemLength).map fun c => if isSafe c then c else '_')

/-- The alias of a stem, a counter and the number of a scope. -/
def format (stem : String) (duplicate sequence : Nat) : String :=
  stem ++ "_" ++ toString duplicate ++ "_" ++ toString sequence

end Alias

/-- The number of aliases handed out for each stem. -/
structure AliasGenerator where
  counters : List (String × Nat) := []
  deriving DecidableEq, Repr

namespace AliasGenerator

/-- The number of aliases handed out for a stem. -/
def count (g : AliasGenerator) (stem : String) : Nat := (g.counters.lookup stem).getD 0

/-- The same counters, with another one for a stem. -/
def setCount (g : AliasGenerator) (stem : String) (n : Nat) : AliasGenerator :=
  ⟨(stem, n) :: g.counters.filter fun entry => entry.1 != stem⟩

/-- The next alias for a name in the scope of a number. -/
def next (g : AliasGenerator) (name : String) (sequence : Nat) : String × AliasGenerator :=
  let stem := Alias.stem name
  let n := g.count stem
  (Alias.format stem n sequence, g.setCount stem (n + 1))

end AliasGenerator

end SqlCompose
