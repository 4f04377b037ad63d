import SqlCompose.Expression.Validate

/-!
# SqlCompose.Statement.Basic -- statements that change rows

A statement writes to one table, without joins, and assigns values to columns
of that table only.
-/

namespace SqlCompose

/-- The value of one column. -/
structure Assignment where
  column : Path
  value : Expression

/-- Add one row to a table, and ask for the keys it generates. -/
structure InsertStatement where
  target : Expression
  values : List Assignment
  generatedKeys : List String

/-- Change rows of a table. -/
structure UpdateStatement where
  target : Expression
  assignments : List Assignment
  filter : Option Filter

/-- Remove rows of a table. -/
structure DeleteStatement where
  target : Expression
  filter : Option Filter

/-- A statement of any kind. -/
inductive Statement where
  | select (query : SelectQuery)
  | insert (insert : InsertStatement)
  | update (update : UpdateStatement)
  | delete (delete : DeleteStatement)

/-! ## Validation -/

/-- The number of joins of a target. -/
def Expression.joinCount? : Expression → Option Nat
  | .dataTarget t => some t.joins.length
  | .target t => some t.joins.length
  | _ => none

/-- What a statement writes to is a target without joins. -/
def validateWritten (verb : String) (target : Expression) : Except SqlError Unit :=
  match target.joinCount? with
  | none => refuse (.unwritable verb target.kind)
  | some 0 => target.validate
  | some _ => refuse (.joinedWrite verb)

/-- What is assigned is a value. -/
def Assignment.validate (a : Assignment) : Except SqlError Unit := do
  a.column.validate
  if a.value.kind.isValue then a.value.validate else refuse (.unassignable a.value.kind)

/-- Several assignments in order. -/
def validateAssignments : List Assignment → Except SqlError Unit
  | [] => .ok ()
  | a :: rest => do
    a.validate
    validateAssignments rest

/-- A condition that may be missing. -/
def validateCondition : Option Filter → Except SqlError Unit
  | some f => f.validate
  | none => .ok ()

/-- An insertion has values. -/
def InsertStatement.validate (s : InsertStatement) : Except SqlError Unit := do
  validateWritten "INSERT" s.target
  if s.values.isEmpty then refuse .insertWithoutValues else validateAssignments s.values

/-- An update assigns something. -/
def UpdateStatement.validate (s : UpdateStatement) : Except SqlError Unit := do
  validateWritten "UPDATE" s.target
  if s.assignments.isEmpty then refuse .updateWithoutAssignments
  else validateAssignments s.assignments
  validateCondition s.filter

/-- A deletion has a table, and its condition is valid. -/
def DeleteStatement.validate (s : DeleteStatement) : Except SqlError Unit := do
  validateWritten "DELETE" s.target
  validateCondition s.filter

/-- A statement all of whose parts are as they have to be. -/
def Statement.validate : Statement → Except SqlError Unit
  | .select q => q.validate
  | .insert s => s.validate
  | .update s => s.validate
  | .delete s => s.validate

end SqlCompose
