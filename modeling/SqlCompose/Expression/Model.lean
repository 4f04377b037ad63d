/-!
# SqlCompose.Expression.Model -- from entities and properties to tables and columns

A data model maps the names callers use to those of the database. Names that it
does not know stand for themselves. A model can be given as a list of mappings,
of which the last one for a name is in effect.
-/

namespace SqlCompose

/-- Where an entity is stored. -/
structure TableName where
  schema : Option String
  table : String
  deriving DecidableEq, Repr

/-- The name with its schema. -/
def TableName.qualified (t : TableName) : String :=
  match t.schema with
  | some schema => schema ++ "." ++ t.table
  | none => t.table

/-- The tables of entities, and the columns of their properties. -/
structure DataModel where
  table? : String → Option TableName
  column? : String → String → Option String

/-! ## Models that are given as lists -/

/-- How one entity is stored. -/
structure EntityMapping where
  name : String
  table : TableName
  columns : List (String × String)
  deriving DecidableEq, Repr

/-- The mappings in the order in which they were given. -/
structure StaticModel where
  entities : List EntityMapping
  deriving DecidableEq, Repr

namespace StaticModel

/-- The mapping of an entity. -/
def entity? (m : StaticModel) (name : String) : Option EntityMapping :=
  m.entities.reverse.find? fun e => e.name == name

/-- The data model of the mappings. -/
def dataModel (m : StaticModel) : DataModel where
  table? entity := (m.entity? entity).map (·.table)
  column? entity property := (m.entity? entity).bind fun e => e.columns.reverse.lookup property

end StaticModel

end SqlCompose
