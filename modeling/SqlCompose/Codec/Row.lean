import SqlCompose.Codec.Basic
import SqlCompose.Expression.Basic

/-!
# SqlCompose.Codec.Row -- rows as they come from a database

A row has labels and values. Labels are found without regard to the case of
ASCII letters; the first label that fits counts.
-/

namespace SqlCompose

/-- A row: the labels of its columns, and its values. -/
structure ResultRow where
  columns : List String
  values : List Value

namespace ResultRow

/-- The value at a position. -/
def get? (r : ResultRow) (index : Nat) : Option Value := r.values[index]?

/-- The value of a label. -/
def named? (r : ResultRow) (name : String) : Option Value :=
  (r.columns.findIdx? fun label => Text.sameIgnoringAsciiCase label name).bind r.get?

end ResultRow

namespace Codec

/-- Values converted to the types at their positions. -/
def deserializeAll (c : Codec) : List LogicalType → List Value → Streaming (List Value)
  | type :: types, raw :: raws => do
    let v ← c.deserialize raw type
    let others ← c.deserializeAll types raws
    pure (v :: others)
  | _, _ => pure []

/-- A row in the wanted shape. -/
def convertRow (c : Codec) (shape : RowShape) (r : ResultRow) : Streaming Value :=
  match shape with
  | .single type =>
    match r.values with
    | [] => throw (.conversion .rowWithoutColumns)
    | raw :: _ => c.deserialize raw type
  | .row types =>
    if r.values.length = types.length then do
      let vs ← c.deserializeAll types r.values
      pure (.list vs)
    else throw (.conversion (.rowWidth types.length r.values.length))

end Codec

end SqlCompose
