import SqlCompose.Proofs.Names

/-!
# SqlCompose.Proofs.Ingredients -- what is written as it was given

A statement brings three things into its text that the library writes as they
were given: names, raw SQL, and the texts that a caller puts around bind markers.
They are listed in the order of the text, in which the columns of a query stand
before its source.
-/

namespace SqlCompose

/-- Something that is written as it was given. -/
inductive Ingredient where
  | name (s : String)
  | raw (r : RawSql)
  | value (p : Parameter)

/-- Names as ingredients. -/
def named (names : List String) : List Ingredient := names.map .name

mutual

/-- The ingredients of an expression. -/
def Expression.ingredients : Expression → List Ingredient
  | .path p => named p.names
  | .dataTarget t => DataTarget.ingredients t
  | .target t => RelationalTarget.ingredients t
  | .filter f => Filter.ingredients f
  | .sort s => SortOrder.ingredients s
  | .function f => FunctionCall.ingredients f
  | .literal _ => []
  | .parameter p => [.value p]
  | .sql r => [.raw r]
  | .query q => SelectQuery.ingredients q

/-- The ingredients of several expressions. -/
def Expression.allIngredients : List Expression → List Ingredient
  | [] => []
  | e :: rest => Expression.ingredients e ++ Expression.allIngredients rest

/-- The ingredients of a filter. -/
def Filter.ingredients : Filter → List Ingredient
  | .nullTest _ operand => Expression.ingredients operand
  | .compare _ left right => Expression.ingredients left ++ Expression.ingredients right
  | .member _ left right => Expression.ingredients left ++ Expression.ingredients right
  | .between operand low high =>
    Expression.ingredients operand ++ Expression.ingredients low ++ Expression.ingredients high
  | .like operand _ _ _ => Expression.ingredients operand
  | .junction _ children => Filter.allIngredients children
  | .not child => Filter.ingredients child
  | .rows _ query => Expression.ingredients query

/-- The ingredients of several filters. -/
def Filter.allIngredients : List Filter → List Ingredient
  | [] => []
  | f :: rest => Filter.ingredients f ++ Filter.allIngredients rest

/-- The ingredients of a sort. -/
def SortOrder.ingredients : SortOrder → List Ingredient
  | .term expr _ => Expression.ingredients expr
  | .composite terms => SortOrder.allIngredients terms

/-- The ingredients of several sorts. -/
def SortOrder.allIngredients : List SortOrder → List Ingredient
  | [] => []
  | s :: rest => SortOrder.ingredients s ++ SortOrder.allIngredients rest

/-- The ingredients of a function call. -/
def FunctionCall.ingredients : FunctionCall → List Ingredient
  | ⟨kind, args, _⟩ => .name kind.name :: Expression.allIngredients args

/-- The ingredients of several joins. -/
def Join.allIngredients : List Join → List Ingredient
  | [] => []
  | j :: rest => Join.ingredients j ++ Join.allIngredients rest

/-- The ingredients of a join and of its condition. Its name is not written. -/
def Join.ingredients : Join → List Ingredient
  | ⟨_, _, source, aliasName, on, _⟩ =>
    named (source :: aliasName.toList) ++
      match on with
      | some f => Filter.ingredients f
      | none => []

/-- The ingredients of a target and of its joins. -/
def RelationalTarget.ingredients : RelationalTarget → List Ingredient
  | ⟨schema, table, aliasName, joins, _⟩ =>
    named (table :: schema.toList ++ aliasName.toList) ++ Join.allIngredients joins

/-- The ingredients of a data target and of its joins. -/
def DataTarget.ingredients : DataTarget → List Ingredient
  | ⟨entity, aliasName, joins⟩ => named (entity :: aliasName.toList) ++ Join.allIngredients joins

/-- The ingredients of a selection and its alias. -/
def Selection.ingredients : Selection → List Ingredient
  | ⟨expr, aliasName⟩ => named aliasName.toList ++ Expression.ingredients expr

/-- The ingredients of several selections. -/
def Selection.allIngredients : List Selection → List Ingredient
  | [] => []
  | s :: rest => Selection.ingredients s ++ Selection.allIngredients rest

/-- The ingredients of a projection. -/
def Projection.ingredients : Projection → List Ingredient
  | ⟨selections, _, _⟩ => Selection.allIngredients selections

/-- The ingredients of a query. -/
def SelectQuery.ingredients : SelectQuery → List Ingredient
  | ⟨source, _, projection, filter, sort, _, _, _⟩ =>
    (match projection with
      | some p => Projection.ingredients p
      | none => []) ++
    Expression.ingredients source ++
    (match filter with
      | some f => Filter.ingredients f
      | none => []) ++
    match sort with
      | some s => SortOrder.ingredients s
      | none => []

end

/-! ## Parts that may be missing -/

/-- The ingredients of a projection that may be missing. -/
def projectionIngredients : Option Projection → List Ingredient
  | some p => p.ingredients
  | none => []

/-- The ingredients of a condition that may be missing. -/
def conditionIngredients : Option Filter → List Ingredient
  | some f => f.ingredients
  | none => []

/-- The ingredients of an order that may be missing. -/
def orderIngredients : Option SortOrder → List Ingredient
  | some o => o.ingredients
  | none => []

theorem SelectQuery.ingredients_eq (q : SelectQuery) :
    q.ingredients = projectionIngredients q.projection ++ q.source.ingredients ++
      conditionIngredients q.filter ++ orderIngredients q.sort := by
  obtain ⟨source, distinct, projection, filter, sort, limit, offset, lock⟩ := q
  cases projection <;> cases filter <;> cases sort <;> rfl

theorem Join.ingredients_eq (j : Join) :
    j.ingredients = named (j.source :: j.aliasName.toList) ++ conditionIngredients j.on := by
  obtain ⟨kind, name, source, aliasName, on, entity⟩ := j
  cases on <;> rfl

/-! ## Statements -/

/-- The ingredients of an assignment. -/
def Assignment.ingredients (a : Assignment) : List Ingredient :=
  named a.column.names ++ a.value.ingredients

/-- The ingredients of a statement. -/
def Statement.ingredients : Statement → List Ingredient
  | .select q => q.ingredients
  | .insert s => s.target.ingredients ++ s.values.flatMap Assignment.ingredients
  | .update s => s.target.ingredients ++ s.assignments.flatMap Assignment.ingredients ++
      conditionIngredients s.filter
  | .delete s => s.target.ingredients ++ conditionIngredients s.filter

/-! ## Raw SQL -/

/-- The raw SQL that an ingredient is. -/
def Ingredient.raw? : Ingredient → Option RawSql
  | .raw r => some r
  | _ => none

/-- The pieces of raw SQL among some ingredients. -/
def raws (is : List Ingredient) : List RawSql := is.filterMap Ingredient.raw?

@[simp] theorem raws_nil : raws [] = [] := rfl

@[simp] theorem raws_name (s : String) (is : List Ingredient) : raws (.name s :: is) = raws is := rfl

@[simp] theorem raws_append (is js : List Ingredient) : raws (is ++ js) = raws is ++ raws js :=
  List.filterMap_append

@[simp] theorem raws_named (names : List String) : raws (named names) = [] := by
  simp [raws, named, Ingredient.raw?]

theorem Expression.raws_all (es : List Expression) :
    raws (Expression.allIngredients es) = (es.map fun e => raws e.ingredients).flatten := by
  induction es with
  | nil => rfl
  | cons e rest ih => simp [Expression.allIngredients, ih]

theorem Filter.raws_all (fs : List Filter) :
    raws (Filter.allIngredients fs) = (fs.map fun f => raws f.ingredients).flatten := by
  induction fs with
  | nil => rfl
  | cons f rest ih => simp [Filter.allIngredients, ih]

theorem Join.raws_all (joins : List Join) :
    raws (Join.allIngredients joins) = (joins.map fun j => raws j.ingredients).flatten := by
  induction joins with
  | nil => rfl
  | cons j rest ih => simp [Join.allIngredients, ih]

theorem Selection.raws_all (selections : List Selection) :
    raws (Selection.allIngredients selections) =
      (selections.map fun s => raws s.ingredients).flatten := by
  induction selections with
  | nil => rfl
  | cons s rest ih => simp [Selection.allIngredients, ih]

theorem raws_flatMap_assignments (assignments : List Assignment) :
    raws (assignments.flatMap Assignment.ingredients) =
      (assignments.map fun a => raws a.value.ingredients).flatten := by
  induction assignments with
  | nil => rfl
  | cons a rest ih => simp [Assignment.ingredients, ih]

/-- What is written to has no joins, and so no raw SQL. -/
theorem raws_of_written {verb : String} {e : Expression} (h : validateWritten verb e = .ok ()) :
    raws e.ingredients = [] := by
  cases e with
  | target t =>
    obtain ⟨schema, table, aliasName, joins, entity⟩ := t
    cases joins with
    | nil => simp [Expression.ingredients, RelationalTarget.ingredients, Join.allIngredients]
    | cons j rest => cases h
  | dataTarget t =>
    obtain ⟨entity, aliasName, joins⟩ := t
    cases joins with
    | nil => simp [Expression.ingredients, DataTarget.ingredients, Join.allIngredients]
    | cons j rest => cases h
  | _ => cases h

end SqlCompose
