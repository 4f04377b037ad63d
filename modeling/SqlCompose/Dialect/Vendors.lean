import SqlCompose.Dialect.Vendor

/-!
# SqlCompose.Dialect.Vendors -- the ten database products
-/

namespace SqlCompose.Vendor

/-- The SQL standard. It has no way to limit rows that all databases share. -/
def ansi : Vendor :=
  { name := "ansi"
    defaultInfo := { product := "ansi", major := 0, minor := 0 } }

def postgres : Vendor :=
  { name := "postgres"
    defaultInfo :=
      { product := "PostgreSQL", major := 16, minor := 0, generatedKeys := true
        identifierCase := .lower }
    bytesText := SqlLiteral.escapedBytes
    limitStyle := fun _ => some .limitOffset
    lockClause := fun mode timeout =>
      let clause := match mode with
        | .exclusive => "FOR UPDATE"
        | .shared => "FOR SHARE"
      -- a timeout other than zero is a setting of the session and has no clause
      some (if timeout = some 0 then clause ++ " NOWAIT" else clause)
    keysByName := true
    renames :=
      [("STRFTIME", "TO_CHAR"), ("DATE_FORMAT", "TO_CHAR"), ("FORMAT", "TO_CHAR"),
       ("NVL", "COALESCE"), ("IFNULL", "COALESCE"), ("ISNULL", "COALESCE"), ("LEN", "LENGTH")]
    sqlType := fun
      | .blob | .byteStream => some ⟨SqlType.binary.code, some "bytea"⟩
      | .clob | .charStream => some ⟨SqlType.varchar.code, some "text"⟩
      | _ => none
    temporalTemplate := fun
      | .date => some "CAST(? AS DATE)"
      | .time => some "CAST(? AS TIME)"
      | .dateTime => some "CAST(? AS TIMESTAMP)"
    bindRules := [.characterStream]
    processors := [.typedLiteral, .offsetTimestamp]
    classify := fun _ state =>
      if state = some "55P03" then some .lockTimeout
      else if state = some "40P01" then some .deadlock
      else none }

def mySql : Vendor :=
  { name := "mysql"
    defaultInfo :=
      { product := "MySQL", major := 8, minor := 0, generatedKeys := true, alwaysReturned := true }
    quote := SqlLiteral.backslashString
    boolText := SqlLiteral.digitBool
    limitStyle := fun _ => some .limitOffset
    lockClause := fun mode timeout =>
      some (match mode with
        | .exclusive => RowLock.forUpdate timeout
        | .shared => "LOCK IN SHARE MODE")
    function := SqlFunction.namedPart
    renames :=
      [("STRFTIME", "DATE_FORMAT"), ("TO_CHAR", "DATE_FORMAT"), ("NVL", "IFNULL"),
       ("ISNULL", "IFNULL"), ("SUBSTR", "SUBSTRING"), ("LEN", "CHAR_LENGTH")]
    classify := fun code _ =>
      if code = 1205 ∨ code = 3572 then some .lockTimeout
      else if code = 1213 then some .deadlock
      else none }

def h2 : Vendor :=
  { name := "h2"
    defaultInfo :=
      { product := "H2", major := 2, minor := 2, generatedKeys := true, identifierCase := .upper }
    limitStyle := fun _ => some .limitOffset
    keysByName := true
    renames := [("STRFTIME", "FORMATDATETIME"), ("DATE_FORMAT", "FORMATDATETIME")] }

def hana : Vendor :=
  { name := "hana"
    defaultInfo := { product := "HDB", major := 2, minor := 0, identifierCase := .upper }
    limitStyle := fun _ => some .limitOffset
    lockClause := fun mode timeout =>
      some (match mode with
        | .exclusive => RowLock.forUpdateWait timeout
        | .shared => "FOR SHARE LOCK")
    function := fun
      | .day => some (.template ("DAYOFMONTH(" ++ SqlFunction.slot 0 ++ ")"))
      | _ => none
    renames := [("NVL", "IFNULL"), ("ISNULL", "IFNULL"), ("LEN", "LENGTH")]
    classify := fun code _ =>
      if code = 131 ∨ code = 146 then some .lockTimeout
      else if code = 133 then some .deadlock
      else none }

/-- A part of a date or time by the format letter that stands for it. -/
def formattedPart (letter : String) : SqlFunction :=
  .template ("CAST(strftime('%" ++ letter ++ "', " ++ SqlFunction.slot 0 ++ ") AS INTEGER)")

/-- Dates are stored as text and rows cannot be locked. -/
def sqlite : Vendor :=
  { name := "sqlite"
    defaultInfo := { product := "SQLite", major := 3, minor := 45, generatedKeys := true }
    boolText := SqlLiteral.digitBool
    temporalText := SqlLiteral.plainTemporal
    limitStyle := fun _ => some .limitOffset
    lockClause := fun _ _ => none
    function := fun
      | .year => some (formattedPart "Y")
      | .month => some (formattedPart "m")
      | .day => some (formattedPart "d")
      | .hour => some (formattedPart "H")
      | _ => none
    renames :=
      [("NVL", "IFNULL"), ("ISNULL", "IFNULL"), ("LEN", "LENGTH"), ("SUBSTRING", "SUBSTR"),
       ("TO_CHAR", "STRFTIME"), ("DATE_FORMAT", "STRFTIME")]
    sqlType := fun type => if type.isTemporal then some .varchar else none
    bindRules := [.temporalText, .characterStream]
    processors := [.typedLiteral, .storedTemporal] }

/-- Dates carry a time of day; fetching a page came with version 12. -/
def oracle : Vendor :=
  { name := "oracle"
    defaultInfo :=
      { product := "Oracle", major := 19, minor := 0, generatedKeys := true
        identifierCase := .upper }
    boolText := SqlLiteral.digitBool
    bytesText := SqlLiteral.hexToRaw
    temporalText := SqlLiteral.typedDateTemporal
    limitStyle := fun info => some (if info.major ≥ 12 then .offsetFetch else .rowNum)
    lockClause := RowLock.exclusiveOnly RowLock.forUpdateWait
    keysByName := true
    function := fun
      | .hour =>
        some (.template ("EXTRACT(HOUR FROM CAST(" ++ SqlFunction.slot 0 ++ " AS TIMESTAMP))"))
      | _ => none
    renames :=
      [("IFNULL", "NVL"), ("ISNULL", "NVL"), ("SUBSTRING", "SUBSTR"), ("LEN", "LENGTH"),
       ("STRFTIME", "TO_CHAR"), ("DATE_FORMAT", "TO_CHAR")]
    sqlType := fun
      | .boolean => some ⟨SqlType.numeric.code, some "NUMBER(1)"⟩
      | _ => none
    logicalType := fun type => if type.code = SqlType.date.code then some .dateTime else none
    bindRules := [.characterStream]
    classify := fun code _ =>
      if code = 54 ∨ code = 30006 then some .lockTimeout
      else if code = 60 then some .deadlock
      else none }

/-- The other names of functions that two products share. -/
def coalesceRenames : List (String × String) :=
  [("NVL", "COALESCE"), ("IFNULL", "COALESCE"), ("ISNULL", "COALESCE"), ("SUBSTRING", "SUBSTR"),
   ("LEN", "LENGTH")]

def db2 : Vendor :=
  { name := "db2"
    defaultInfo :=
      { product := "DB2", major := 11, minor := 5, generatedKeys := true, identifierCase := .upper }
    boolText := SqlLiteral.digitBool
    temporalText := SqlLiteral.temporalCall
    limitStyle := fun info =>
      some (if info.major ≥ 11 then .offsetFetch else .rowNumber "rownumber() over()")
    lockClause := fun mode _ =>
      some (match mode with
        | .exclusive => "FOR UPDATE WITH RS"
        | .shared => "FOR READ ONLY WITH RS")
    keysByName := true
    function := SqlFunction.namedPart
    renames := coalesceRenames
    supportsNullType := false }

/-- The number of the type of moments at an offset. -/
def dateTimeOffset : Int := -155

/-- A part of a date or time by its name. -/
def datePart (part : String) : SqlFunction :=
  .template ("DATEPART(" ++ part ++ ", " ++ SqlFunction.slot 0 ++ ")")

/-- Row locks are hints on tables; fetching a page came with version 11 and needs a sort. -/
def sqlServer : Vendor :=
  { name := "sqlserver"
    defaultInfo :=
      { product := "Microsoft SQL Server", major := 15, minor := 0, generatedKeys := true }
    quote := SqlLiteral.nationalString
    boolText := SqlLiteral.digitBool
    temporalText := SqlLiteral.plainTemporal
    limitStyle := fun info =>
      some (if info.major ≥ 11 then .offsetFetchRequired
        else .rowNumber "row_number() over (order by (select 0))")
    lockClause := fun _ _ => none
    function := fun
      | .year => some (datePart "year")
      | .month => some (datePart "month")
      | .day => some (datePart "day")
      | .hour => some (datePart "hour")
      | .currentDate => some (.keyword "CAST(GETDATE() AS DATE)")
      | _ => none
    renames :=
      [("LENGTH", "LEN"), ("SUBSTR", "SUBSTRING"), ("NOW", "GETDATE"), ("STRFTIME", "FORMAT"),
       ("TO_CHAR", "FORMAT"), ("DATE_FORMAT", "FORMAT"), ("NVL", "ISNULL"), ("IFNULL", "ISNULL")]
    sqlType := fun
      | .boolean => some .bit
      | .zonedDateTime => some ⟨dateTimeOffset, some "DATETIMEOFFSET"⟩
      | _ => none
    logicalType := fun type => if type.code = dateTimeOffset then some .zonedDateTime else none
    classify := fun code _ =>
      if code = 1222 then some .lockTimeout
      else if code = 1205 then some .deadlock
      else none }

def derby : Vendor :=
  { name := "derby"
    defaultInfo :=
      { product := "Apache Derby", major := 10, minor := 16, generatedKeys := true
        identifierCase := .upper }
    boolText := SqlLiteral.digitBool
    temporalText := SqlLiteral.temporalCall
    limitStyle := fun _ => some .offsetFetch
    lockClause := fun mode _ =>
      some (match mode with
        | .exclusive => "FOR UPDATE"
        | .shared => "FOR READ ONLY")
    function := SqlFunction.namedPart
    renames := coalesceRenames }

end SqlCompose.Vendor
