import SqlCompose.Value.Basic

/-!
# SqlCompose.Value.Parameter -- values to bind

A parameter is a value with what the executor has to know: the type to bind it
as, the temporal kind it was marked with, and the text that stands for it at its
place in the statement.
-/

namespace SqlCompose

/-- Text around a bind marker, such as a cast. Each question mark of the text
stands for the marker. Two templates are the same only if they were made by the
same act, which `id` tells. -/
structure MarkerTemplate where
  text : String
  id : Nat
  deriving DecidableEq, Repr

/-- Put a marker in the place of each question mark. -/
def MarkerTemplate.fill (t : MarkerTemplate) (marker : String) : String :=
  String.ofList (t.text.toList.flatMap fun c => if c = '?' then marker.toList else [c])

/-- The marker of the positional interface. -/
def bareMarker : String := "?"

/-- A value to bind. -/
structure Parameter where
  value : Value
  logicalType : Option LogicalType
  temporal : Option TemporalKind := none
  template : Option MarkerTemplate := none

namespace Parameter

/-- A parameter whose type is that of its value. -/
def ofValue (value : Value) : Parameter :=
  { value := value, logicalType := value.logicalType? }

/-- A parameter with a declared type, which a null needs. -/
def typed (value : Value) (type : LogicalType) : Parameter :=
  { value := value, logicalType := some type }

/-- Mark the temporal kind. It gives the type where the value has none. -/
def withTemporal (p : Parameter) (kind : TemporalKind) : Parameter :=
  { p with temporal := some kind, logicalType := p.logicalType.or (some kind.logicalType) }

/-- Put a text around the marker. -/
def withTemplate (p : Parameter) (template : MarkerTemplate) : Parameter :=
  { p with template := some template }

/-- The same parameter with another value and type. -/
def withValue (p : Parameter) (value : Value) (type : Option LogicalType) : Parameter :=
  { p with value := value, logicalType := type }

/-- The text that stands for the parameter at its place. -/
def marker (p : Parameter) : String :=
  match p.template with
  | some template => template.fill bareMarker
  | none => bareMarker

/-- A parameter is no list, and its value fits its type. -/
def validate (p : Parameter) : Except SqlError Unit :=
  if p.value.isList then refuse .listParameter
  else match p.logicalType with
    | some type =>
      if p.value.assignable type then .ok () else refuse (.typeMismatch p.value.typeName type)
    | none => .ok ()

/-- Equality of parameters; values compare as values do. -/
def same (a b : Parameter) : Bool :=
  a.value.same b.value && a.logicalType == b.logicalType && a.temporal == b.temporal &&
    a.template == b.template

end Parameter

end SqlCompose
