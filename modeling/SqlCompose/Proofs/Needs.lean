import SqlCompose.Proofs.Scopes
import SqlCompose.Resolution.Source

/-!
# SqlCompose.Proofs.Needs -- what an expression needs from around it

A qualified path needs its key to be bound. A query binds the keys of its source,
and passes on what its parts need besides. A projection with an alias mode of
its own may have to generate aliases, which tell the scope they were made in.
-/

namespace SqlCompose

/-- Something that an expression takes from outside. -/
inductive Need where
  /-- A table that is bound to a key. -/
  | key (key : String)
  /-- Aliases of a mode. -/
  | mode (mode : AliasMode)
  deriving DecidableEq, Repr

/-- Keys that are bound meet the need for one of them. -/
def Need.isMetBy (keys : List String) : Need → Bool
  | .key k => keys.contains k
  | .mode _ => false

/-- A path needs the key before its last name. -/
def Path.needs (p : Path) : List Need := (p.parent.map fun parent => Need.key parent.key).toList

/-- The keys of the target that an expression is, in a data model. -/
def Expression.keys (model : Option DataModel) : Expression → List String
  | .dataTarget t => (DataTarget.mapped model t).keys
  | .target t => t.keys
  | _ => []

mutual

/-- What an expression needs. -/
def Expression.needs (model : Option DataModel) : Expression → List Need
  | .path p => p.needs
  | .dataTarget t => DataTarget.needs model t
  | .target t => RelationalTarget.needs model t
  | .filter f => Filter.needs model f
  | .sort s => SortOrder.needs model s
  | .function f => FunctionCall.needs model f
  | .literal _ => []
  | .parameter _ => []
  | .sql _ => []
  | .query q => SelectQuery.needs model q

/-- What several expressions need. -/
def Expression.allNeeds (model : Option DataModel) : List Expression → List Need
  | [] => []
  | e :: rest => Expression.needs model e ++ Expression.allNeeds model rest

/-- What a filter needs. -/
def Filter.needs (model : Option DataModel) : Filter → List Need
  | .nullTest _ operand => Expression.needs model operand
  | .compare _ left right => Expression.needs model left ++ Expression.needs model right
  | .member _ left right => Expression.needs model left ++ Expression.needs model right
  | .between operand low high =>
    Expression.needs model operand ++ Expression.needs model low ++ Expression.needs model high
  | .like operand _ _ _ => Expression.needs model operand
  | .junction _ children => Filter.allNeeds model children
  | .not child => Filter.needs model child
  | .rows _ query => Expression.needs model query

/-- What several filters need. -/
def Filter.allNeeds (model : Option DataModel) : List Filter → List Need
  | [] => []
  | f :: rest => Filter.needs model f ++ Filter.allNeeds model rest

/-- What a sort needs. -/
def SortOrder.needs (model : Option DataModel) : SortOrder → List Need
  | .term expr _ => Expression.needs model expr
  | .composite terms => SortOrder.allNeeds model terms

/-- What several sorts need. -/
def SortOrder.allNeeds (model : Option DataModel) : List SortOrder → List Need
  | [] => []
  | s :: rest => SortOrder.needs model s ++ SortOrder.allNeeds model rest

/-- What the arguments of a call need. -/
def FunctionCall.needs (model : Option DataModel) : FunctionCall → List Need
  | ⟨_, args, _⟩ => Expression.allNeeds model args

/-- What the conditions of joins need. -/
def Join.allNeeds (model : Option DataModel) : List Join → List Need
  | [] => []
  | j :: rest => Join.needs model j ++ Join.allNeeds model rest

/-- What the condition of a join needs. -/
def Join.needs (model : Option DataModel) : Join → List Need
  | ⟨_, _, _, _, on, _⟩ =>
    match on with
    | some f => Filter.needs model f
    | none => []

/-- What a target needs, which does not bind itself. -/
def RelationalTarget.needs (model : Option DataModel) : RelationalTarget → List Need
  | ⟨_, _, _, joins, _⟩ => Join.allNeeds model joins

/-- What a data target needs, which does not bind itself. -/
def DataTarget.needs (model : Option DataModel) : DataTarget → List Need
  | ⟨_, _, joins⟩ => Join.allNeeds model joins

/-- What a selection needs. -/
def Selection.needs (model : Option DataModel) : Selection → List Need
  | ⟨expr, _⟩ => Expression.needs model expr

/-- What several selections need. -/
def Selection.allNeeds (model : Option DataModel) : List Selection → List Need
  | [] => []
  | s :: rest => Selection.needs model s ++ Selection.allNeeds model rest

/-- What a projection needs: aliases of its own mode, and what its selections need. -/
def Projection.needs (model : Option DataModel) : Projection → List Need
  | ⟨selections, aliasMode, _⟩ =>
    (aliasMode.map Need.mode).toList ++ Selection.allNeeds model selections

/-- What a query needs. It binds its own source. -/
def SelectQuery.needs (model : Option DataModel) : SelectQuery → List Need
  | ⟨source, _, projection, filter, sort, _, _, _⟩ =>
    (Expression.needs model source ++
      (match projection with
        | some p => Projection.needs model p
        | none => []) ++
      (match filter with
        | some f => Filter.needs model f
        | none => []) ++
      match sort with
        | some s => SortOrder.needs model s
        | none => []).filter fun need => !need.isMetBy (source.keys model)

end

/-! ## Parts that may be missing -/

variable {model : Option DataModel}

/-- What a projection needs, if there is one. -/
def projectionNeeds (model : Option DataModel) : Option Projection → List Need
  | some p => p.needs model
  | none => []

/-- What a condition needs, if there is one. -/
def conditionNeeds (model : Option DataModel) : Option Filter → List Need
  | some f => f.needs model
  | none => []

/-- What an order needs, if there is one. -/
def orderNeeds (model : Option DataModel) : Option SortOrder → List Need
  | some o => o.needs model
  | none => []

/-- What the parts of a query need inside it. -/
def SelectQuery.innerNeeds (model : Option DataModel) (q : SelectQuery) : List Need :=
  q.source.needs model ++ projectionNeeds model q.projection ++ conditionNeeds model q.filter ++
    orderNeeds model q.sort

theorem SelectQuery.needs_eq (q : SelectQuery) :
    q.needs model = (q.innerNeeds model).filter fun need => !need.isMetBy (q.source.keys model) := by
  obtain ⟨source, distinct, projection, filter, sort, limit, offset, lock⟩ := q
  cases projection <;> cases filter <;> cases sort <;> rfl

theorem Join.needs_eq (j : Join) : j.needs model = conditionNeeds model j.on := by
  obtain ⟨kind, name, source, aliasName, on, entity⟩ := j
  cases on <;> rfl

end SqlCompose
