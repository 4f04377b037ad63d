import Mathlib.Data.List.Infix
import SqlCompose.Resolution.Leaf
import SqlCompose.Sql.Like
import SqlCompose.Statement.Basic

/-!
# SqlCompose.Proofs.Outline -- the values and sub-selects of a statement in the order of its clauses

The outline of a statement lists what its text is to show besides names and
words: each value that is bound, and each sub-select with its own outline. The
clauses stand in the order in which the text has them, which is not the order
in which they are resolved. Where a sub-select stands decides whether its
position puts it in parentheses.
-/

namespace SqlCompose

/-- Something that a text shows: a value, or a sub-select in or out of parentheses. -/
inductive Item where
  | value (parameter : Parameter)
  | select (query : SelectQuery) (enclosed : Bool) (inner : List Item)

namespace Item

mutual

/-- The values of an item, those of a sub-select included. -/
def values : Item → List Parameter
  | .value p => [p]
  | .select _ _ inner => allValues inner

/-- The values of several items in order. -/
def allValues : List Item → List Parameter
  | [] => []
  | i :: rest => values i ++ allValues rest

end

theorem allValues_append (a b : List Item) : allValues (a ++ b) = allValues a ++ allValues b := by
  induction a with
  | nil => rfl
  | cons i rest ih => simp [allValues, ih]

end Item

/-- A function puts its argument in parentheses of its own: it is called with
one argument, or its template has the slot between parentheses. -/
def SqlFunction.encloses (args : Nat) (distinct : Bool) : SqlFunction → Bool
  | .call _ => args == 1 && !distinct
  | .keyword _ => false
  | .template text => decide (("(" ++ slot 0 ++ ")").toList <:+: text.toList)

/-- The values of a literal: those of a list stand for themselves. -/
def Literal.items (d : Dialect) (l : Literal) : List Item :=
  match l.value with
  | .list items => items.map fun item => .value (Literal.parameter d ⟨item, l.temporal⟩)
  | _ => [.value (l.parameter d)]

mutual

/-- What the text of an expression shows. `enclosed` tells whether the position
of the expression puts a sub-select in parentheses. -/
def Expression.outline (d : Dialect) (enclosed : Bool) : Expression → List Item
  | .path _ => []
  | .dataTarget t => DataTarget.outline d t
  | .target t => RelationalTarget.outline d t
  | .filter f => Filter.outline d f
  | .sort s => SortOrder.outline d s
  | .function f => FunctionCall.outline d f
  | .literal l => l.items d
  | .parameter p => [.value p]
  | .sql r => r.parameters.map fun v => .value (Parameter.ofValue v)
  | .query q => [.select q enclosed (SelectQuery.outline d q)]

/-- What the texts of several expressions show. -/
def Expression.outlines (d : Dialect) (enclosed : Bool) : List Expression → List Item
  | [] => []
  | e :: rest => Expression.outline d enclosed e ++ Expression.outlines d enclosed rest

/-- What the text of a filter shows. A null on the right of a comparison is a
word and no value, and a match shows its operand and its pattern. -/
def Filter.outline (d : Dialect) : Filter → List Item
  | .nullTest _ operand => Expression.outline d false operand
  | .compare _ left right =>
    Expression.outline d false left ++
      if right.isNullLiteral then [] else Expression.outline d false right
  | .member _ left right => Expression.outline d false left ++ Expression.outline d true right
  | .between operand low high =>
    Expression.outline d false operand ++ Expression.outline d false low ++
      Expression.outline d false high
  | .like operand text mode ignoreCase =>
    Expression.outline d ignoreCase operand ++
      [.value (Parameter.ofValue (.string (Like.pattern d text mode ignoreCase)))]
  | .junction _ children => Filter.outlines d children
  | .not child => Filter.outline d child
  | .rows _ query => Expression.outline d true query

/-- What the texts of several filters show. -/
def Filter.outlines (d : Dialect) : List Filter → List Item
  | [] => []
  | f :: rest => Filter.outline d f ++ Filter.outlines d rest

/-- What the terms of a sort show. -/
def SortOrder.outline (d : Dialect) : SortOrder → List Item
  | .term expr _ => Expression.outline d false expr
  | .composite terms => SortOrder.outlines d terms

/-- What the terms of several sorts show. -/
def SortOrder.outlines (d : Dialect) : List SortOrder → List Item
  | [] => []
  | s :: rest => SortOrder.outline d s ++ SortOrder.outlines d rest

/-- What a function call shows. -/
def FunctionCall.outline (d : Dialect) : FunctionCall → List Item
  | ⟨kind, args, distinct⟩ =>
    Expression.outlines d ((d.function kind).encloses args.length distinct) args

/-- What the conditions of joins show. -/
def Join.outlines (d : Dialect) : List Join → List Item
  | [] => []
  | j :: rest => Join.outline d j ++ Join.outlines d rest

/-- What the condition of a join shows. -/
def Join.outline (d : Dialect) : Join → List Item
  | ⟨_, _, _, _, on, _⟩ =>
    match on with
    | some f => Filter.outline d f
    | none => []

/-- What a target shows. -/
def RelationalTarget.outline (d : Dialect) : RelationalTarget → List Item
  | ⟨_, _, _, joins, _⟩ => Join.outlines d joins

/-- What a data target shows. -/
def DataTarget.outline (d : Dialect) : DataTarget → List Item
  | ⟨_, _, joins⟩ => Join.outlines d joins

/-- What a selection shows. -/
def Selection.outline (d : Dialect) : Selection → List Item
  | ⟨expr, _⟩ => Expression.outline d true expr

/-- What several selections show. -/
def Selection.outlines (d : Dialect) : List Selection → List Item
  | [] => []
  | s :: rest => Selection.outline d s ++ Selection.outlines d rest

/-- What a projection shows. -/
def Projection.outline (d : Dialect) : Projection → List Item
  | ⟨selections, _, _⟩ => Selection.outlines d selections

/-- What a query shows: its selections, its joins, its condition and its order. -/
def SelectQuery.outline (d : Dialect) : SelectQuery → List Item
  | ⟨source, _, projection, filter, sort, _, _, _⟩ =>
    (match projection with
      | some p => Projection.outline d p
      | none => []) ++
    Expression.outline d false source ++
    (match filter with
      | some f => Filter.outline d f
      | none => []) ++
    match sort with
      | some s => SortOrder.outline d s
      | none => []

end

/-- What the assigned values show. -/
def Assignment.outlines (d : Dialect) (assignments : List Assignment) : List Item :=
  assignments.flatMap fun a => a.value.outline d true

/-- What a condition that may be missing shows. -/
def conditionOutline (d : Dialect) : Option Filter → List Item
  | some f => f.outline d
  | none => []

/-- What the text of a statement shows. -/
def Statement.outline (d : Dialect) : Statement → List Item
  | .select q => q.outline d
  | .insert s => Assignment.outlines d s.values
  | .update s => Assignment.outlines d s.assignments ++ conditionOutline d s.filter
  | .delete s => conditionOutline d s.filter

/-- The values of a statement in the order of its clauses. -/
def Statement.leaves (d : Dialect) (st : Statement) : List Parameter :=
  Item.allValues (st.outline d)

end SqlCompose
