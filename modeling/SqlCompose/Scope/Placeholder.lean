import SqlCompose.Text.Digits
import SqlCompose.Value.Parameter

/-!
# SqlCompose.Scope.Placeholder -- numbered placeholders and their parameters

While a statement is put together each value stands in it as a placeholder such
as `:[0001]`. The parameters are collected in the order in which they were
added, and the placeholder of a parameter is its position, counted from one.
-/

namespace SqlCompose

namespace Placeholder

/-- The width of a placeholder. -/
def width : Nat := 7

/-- The largest number a placeholder can hold. -/
def maxNumber : Nat := 9999

/-- The placeholder of a number. -/
def name (number : Nat) : String := String.ofList (':' :: '[' :: Text.zeroPadded 4 number ++ [']'])

/-- The number of a text that has the exact shape of a placeholder. -/
def number? : List Char → Option Nat
  | [':', '[', a, b, c, d, ']'] =>
    if [a, b, c, d].all Text.isDecimalDigit then some (Text.digitsValue 0 [a, b, c, d]) else none
  | _ => none

/-- The number of a string that has the exact shape of a placeholder. -/
def parse (s : String) : Option Nat := number? s.toList

end Placeholder

/-- The parameters of a statement in the order in which they were added. -/
structure Accumulator where
  entries : Array Parameter := #[]

namespace Accumulator

/-- The number of parameters. -/
def size (a : Accumulator) : Nat := a.entries.size

/-- Add a parameter and name its place. There is room for as many as a
placeholder can number. -/
def add (a : Accumulator) (p : Parameter) : Except SqlError (String × Accumulator) :=
  if a.size < Placeholder.maxNumber then
    .ok (Placeholder.name (a.size + 1), ⟨a.entries.push p⟩)
  else .error (.preparation (.tooMany Placeholder.maxNumber))

/-- The parameter with a number, counted from one. -/
def numbered? (a : Accumulator) (number : Nat) : Option Parameter :=
  match number with
  | 0 => none
  | n + 1 => a.entries[n]?

/-- The parameter that a placeholder names. -/
def get? (a : Accumulator) (name : String) : Option Parameter :=
  (Placeholder.parse name).bind a.numbered?

/-- All parameters with their placeholders. -/
def named (a : Accumulator) : List (String × Parameter) :=
  a.entries.toList.zipIdx.map fun (p, i) => (Placeholder.name (i + 1), p)

end Accumulator

end SqlCompose
