import SqlCompose.Dialect.Vendors
import SqlCompose.Error

/-!
# SqlCompose.Dialect.Basic -- a dialect and the database it writes for

A dialect is a kind together with what is known about one database. Until the
database has described itself the vendor's defaults are in effect. What was
learned once is never replaced.
-/

namespace SqlCompose

/-! ## Kinds -/

/-- The supported database products. -/
inductive DialectKind where
  | ansi
  | postgres
  | mySql
  | h2
  | hana
  | sqlite
  | oracle
  | db2
  | sqlServer
  | derby
  deriving DecidableEq, Repr

namespace DialectKind

/-- All kinds in their order. -/
def all : List DialectKind :=
  [.ansi, .postgres, .mySql, .h2, .hana, .sqlite, .oracle, .db2, .sqlServer, .derby]

/-- The decisions of a kind. -/
def vendor : DialectKind → Vendor
  | .ansi => Vendor.ansi
  | .postgres => Vendor.postgres
  | .mySql => Vendor.mySql
  | .h2 => Vendor.h2
  | .hana => Vendor.hana
  | .sqlite => Vendor.sqlite
  | .oracle => Vendor.oracle
  | .db2 => Vendor.db2
  | .sqlServer => Vendor.sqlServer
  | .derby => Vendor.derby

/-- The name of a kind. -/
def name (k : DialectKind) : String := k.vendor.name

/-- The names a kind can be asked for by, in small letters. -/
def names : DialectKind → List String
  | .ansi => ["ansi"]
  | .postgres => ["postgres", "postgresql", "pg"]
  | .mySql => ["mysql", "mariadb"]
  | .h2 => ["h2"]
  | .hana => ["hana", "saphana"]
  | .sqlite => ["sqlite"]
  | .oracle => ["oracle"]
  | .db2 => ["db2"]
  | .sqlServer => ["sqlserver", "mssql", "sql_server"]
  | .derby => ["derby"]

/-- The kind of a name in any case. -/
def parse (s : String) : Except SettingsError DialectKind :=
  let word := Text.lower s
  match all.find? fun k => k.names.contains word with
  | some k => .ok k
  | none => .error (.unsupportedDialect word)

end DialectKind

/-! ## Dialects -/

/-- A kind of database, and what a live one has told about itself. -/
structure Dialect where
  kind : DialectKind
  known : Option DatabaseInfo := none
  deriving DecidableEq, Repr

/-- How an INSERT asks for the keys it generates. -/
inductive GeneratedKeys where
  | unsupported
  /-- The database returns whatever keys it generates. -/
  | implicit
  /-- The columns to return have to be named. -/
  | byName (columns : List String)
  deriving DecidableEq, Repr

namespace Dialect

/-- A dialect that has not seen a database yet. -/
def new (kind : DialectKind) : Dialect := { kind := kind }

/-- A dialect for a database whose capabilities are known. -/
def withInfo (kind : DialectKind) (info : DatabaseInfo) : Dialect :=
  { kind := kind, known := some info }

/-- The decisions of the product. -/
def vendor (d : Dialect) : Vendor := d.kind.vendor

/-- The name of the product. -/
def name (d : Dialect) : String := d.kind.name

/-- Whether a database has described itself. -/
def isInitialized (d : Dialect) : Bool := d.known.isSome

/-- The capabilities in effect. -/
def info (d : Dialect) : DatabaseInfo := d.known.getD d.vendor.defaultInfo

/-- The outcome of asking a database to describe itself. -/
structure InitOutcome where
  result : Except SqlError DatabaseInfo
  dialect : Dialect
  /-- How many connections were borrowed. -/
  connections : Nat

/-- Ask a database to describe itself. A database that already has is not asked
again, and a failure leaves everything as it was. -/
def init (d : Dialect) (lookup : Except String DatabaseMetadata) : InitOutcome :=
  match d.known with
  | some info => ⟨.ok info, d, 0⟩
  | none =>
    match lookup with
    | .ok metadata =>
      let info := DatabaseInfo.ofMetadata metadata
      ⟨.ok info, { d with known := some info }, 1⟩
    | .error message => ⟨.error (.dialectInit message), d, 1⟩

/-! ## Capabilities -/

/-- The style of pagination for the database. -/
def limitStyle (d : Dialect) : Option LimitStyle := d.vendor.limitStyle d.info

/-- Keep a page of the rows of a statement that is known to sort or not. -/
def limitOffsetOrdered (d : Dialect) (sql : String) (limit : Nat) (offset : Int) (ordered : Bool) :
    Except SqlError String :=
  match d.limitStyle with
  | some style => .ok (style.apply sql limit offset ordered)
  | none => .error (.unsupported d.name "limit/offset")

/-- Keep a page of the rows of any statement. -/
def limitOffset (d : Dialect) (sql : String) (limit : Nat) (offset : Int) :
    Except SqlError String :=
  d.limitOffsetOrdered sql limit offset (Pagination.hasOuterOrderBy sql)

/-- The clause of a row lock. -/
def lockClause (d : Dialect) (mode : LockMode) (timeout : Option Nat) : Except SqlError String :=
  match d.vendor.lockClause mode timeout with
  | some clause => .ok clause
  | none => .error (.unsupported d.name (mode.shown ++ " row locks"))

/-- A name as the database stores it. -/
def normalizeName (d : Dialect) (name : String) : String := d.info.identifierCase.apply name

/-- How to ask for the keys generated in some columns. -/
def generatedKeys (d : Dialect) (columns : List String) : GeneratedKeys :=
  if !d.info.generatedKeys then .unsupported
  else if d.vendor.keysByName && !columns.isEmpty then .byName (columns.map d.normalizeName)
  else .implicit

/-- The way to write a function: the vendor's own, another name for a custom
one, or the standard way. -/
def function (d : Dialect) (kind : FunctionKind) : SqlFunction :=
  match d.vendor.function kind with
  | some f => f
  | none =>
    match kind with
    | .custom name =>
      match d.vendor.rename name with
      | some other => .call other
      | none => SqlFunction.standard kind
    | kind => SqlFunction.standard kind

/-- The template of a temporal kind. It is the vendor's and was made by no caller. -/
def temporalTemplate (d : Dialect) (kind : TemporalKind) : Option MarkerTemplate :=
  (d.vendor.temporalTemplate kind).map fun text => ⟨text, 0⟩

/-! ## Types -/

/-- The SQL type of a logical type. -/
def sqlType (d : Dialect) (type : LogicalType) : SqlType :=
  (d.vendor.sqlType type).getD (SqlType.ofLogical type)

/-- The logical type of a SQL type. -/
def logicalType (d : Dialect) (type : SqlType) : Option LogicalType :=
  (d.vendor.logicalType type).or type.toLogical?

end Dialect

/-! ## Types of what is bound -/

/-- The choice of SQL types for binding. `nullType` replaces the dialect's type
for nulls that have no type of their own. -/
structure TypeConverter where
  dialect : Dialect
  nullType : Option SqlType := none

namespace TypeConverter

/-- The type of a null of a logical type, or of none. -/
def nullSqlType (c : TypeConverter) (type : Option LogicalType) : SqlType :=
  match type with
  | some type => c.dialect.sqlType type
  | none => c.nullType.getD c.dialect.vendor.nullType

/-- The type to bind a parameter as: its own, else that of its value, else that of null. -/
def parameterSqlType (c : TypeConverter) (p : Parameter) : SqlType :=
  c.nullSqlType (p.logicalType.or p.value.logicalType?)

end TypeConverter

end SqlCompose
