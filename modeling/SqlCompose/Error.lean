import SqlCompose.Expression.Kind
import SqlCompose.Number.Decimal
import SqlCompose.Text.Utf8
import SqlCompose.Time.Reading
import SqlCompose.Value.LogicalType

/-!
# SqlCompose.Error -- why a statement or a value is refused

Every refusal is a cause; the wording stands in one function per type. An error
aborts the statement that is being built.
-/

namespace SqlCompose

/-! ## Expressions -/

/-- What makes an expression or a statement invalid. -/
inductive Defect where
  | blankSegment
  | dottedSegment (name : String)
  | blankAlias (key : String)
  | blankJoinName
  | joinWithoutSource (name : String)
  | targetWithoutTable
  | dataTargetWithoutEntity
  | orderedNull
  | emptyInList
  | emptyLogical
  | existsWithoutQuery
  | unsortable (kind : ExpressionKind)
  | emptySort
  | blankFunctionName
  | wrongArity (name : String) (least most given : Nat)
  | distinctNotAllowed (name : String)
  | nestedList
  | blankSql
  | listParameter
  | typeMismatch (valueType : String) (declared : LogicalType)
  | notASource (kind : ExpressionKind)
  | offsetWithoutLimit
  | emptyProjection
  | unselectable (kind : ExpressionKind)
  | unwritable (verb : String) (kind : ExpressionKind)
  | joinedWrite (verb : String)
  | insertWithoutValues
  | updateWithoutAssignments
  | unassignable (kind : ExpressionKind)
  | foreignColumn (key : String)
  | offsetOutOfRange (offset : Nat)
  | unboundJoin (name : String)
  | wrongForm (given wanted : Form)
  deriving DecidableEq, Repr

/-- The wording of a defect. -/
def Defect.message : Defect → String
  | .blankSegment => "path segment must not be empty"
  | .dottedSegment name => "path segment '" ++ name ++ "' must not contain '.'"
  | .blankAlias key => "alias of path '" ++ key ++ "' must not be empty"
  | .blankJoinName => "join name must not be empty"
  | .joinWithoutSource name => "join '" ++ name ++ "' has no source"
  | .targetWithoutTable => "relational target has no table"
  | .dataTargetWithoutEntity => "data target has no entity"
  | .orderedNull => "ordering comparison against NULL is never true"
  | .emptyInList => "IN list must not be empty"
  | .emptyLogical => "logical filter has no children"
  | .existsWithoutQuery => "EXISTS requires a sub-query"
  | .unsortable kind => "cannot sort by " ++ kind.shown ++ " expression"
  | .emptySort => "composite sort has no terms"
  | .blankFunctionName => "function name must not be empty"
  | .wrongArity name least most given =>
    s!"{name} takes {least}..={most} arguments, got {given}"
  | .distinctNotAllowed name => "DISTINCT is only valid on aggregates, not " ++ name
  | .nestedList => "nested list literals are not supported"
  | .blankSql => "SQL expression text is empty"
  | .listParameter => "a list cannot be bound as a single parameter"
  | .typeMismatch valueType declared =>
    "parameter value of type " ++ valueType ++ " does not match declared type " ++ declared.shown
  | .notASource kind => "a query cannot select from a " ++ kind.shown ++ " expression"
  | .offsetWithoutLimit => "offset requires a limit"
  | .emptyProjection => "projection has no selections"
  | .unselectable kind => "cannot select a " ++ kind.shown ++ " expression"
  | .unwritable verb kind => verb ++ " target cannot be a " ++ kind.shown ++ " expression"
  | .joinedWrite verb => verb ++ " target cannot have joins"
  | .insertWithoutValues => "INSERT has no values"
  | .updateWithoutAssignments => "UPDATE has no assignments"
  | .unassignable kind => "cannot assign a " ++ kind.shown ++ " expression"
  | .foreignColumn key => "cannot assign to '" ++ key ++ "', only columns of the target table"
  | .offsetOutOfRange offset => s!"offset {offset} is out of range"
  | .unboundJoin name => "join '" ++ name ++ "' is not bound"
  | .wrongForm given wanted =>
    "resolver returned " ++ given.shown ++ " where " ++ wanted.shown ++ " was expected"

/-! ## Placeholders -/

/-- What stops placeholders from being allocated or rewritten. -/
inductive PlaceholderFault where
  | tooMany (limit : Nat)
  | unregistered (token : String)
  | moreMarkers (text : String) (parameters : Nat)
  | fewerMarkers (text : String) (parameters : Nat)
  /-- A refusal by a resolver that is not one of the library's own. -/
  | refused (message : String)
  deriving DecidableEq, Repr

/-- The wording of a placeholder fault. -/
def PlaceholderFault.message : PlaceholderFault → String
  | .tooMany limit => s!"statement exceeds {limit} named parameters"
  | .unregistered token => "no parameter registered for " ++ token
  | .moreMarkers text n =>
    "'" ++ text ++ "' has more '?' markers than its " ++ toString n ++ " parameters"
  | .fewerMarkers text n =>
    "'" ++ text ++ "' has fewer '?' markers than its " ++ toString n ++ " parameters"
  | .refused message => message

/-! ## Values -/

/-- What stops a value from being converted. -/
inductive ConversionFault where
  | streamConsumed
  | streamUnreadable (message : String)
  | streamNotText (fault : Text.Utf8.Fault)
  | noLiteralForm (text : String)
  | notTemporal (valueType : String) (kind : TemporalKind)
  | inconvertible (valueType target : String)
  | outOfRange (number : Int) (target : String)
  | notDecimal (text : String) (fault : Decimal.Fault)
  | numberNotDecimal (number : String) (fault : Decimal.Fault)
  | notDate (text : String)
  | notTime (text : String)
  | notDateTime (text : String)
  | notZoned (text : String) (fault : Time.Fault)
  | unknownConstant (text enumName : String)
  | ordinalOutOfRange (ordinal : Nat) (enumName : String)
  | oddHexDigits (digits : String)
  | epochOutOfRange (text : String)
  | rowWithoutColumns
  | rowWidth (wanted given : Nat)
  deriving DecidableEq, Repr

/-- The wording of a conversion fault. -/
def ConversionFault.message : ConversionFault → String
  | .streamConsumed => "stream was already consumed"
  | .streamUnreadable message => "failed to read stream: " ++ message
  | .streamNotText fault => "character stream is not UTF-8: " ++ fault.message
  | .noLiteralForm text => text ++ " has no SQL literal form"
  | .notTemporal valueType kind => valueType ++ " cannot be rendered as " ++ kind.shown
  | .inconvertible valueType target => "cannot convert " ++ valueType ++ " to " ++ target
  | .outOfRange number target =>
    String.ofList (Text.intDigits number) ++ " out of range for " ++ target
  | .notDecimal text fault => "'" ++ text ++ "' is not a decimal: " ++ fault.message
  | .numberNotDecimal number fault => number ++ " is not a decimal: " ++ fault.message
  | .notDate text => "'" ++ text ++ "' is not a date"
  | .notTime text => "'" ++ text ++ "' is not a time"
  | .notDateTime text => "'" ++ text ++ "' is not a date-time"
  | .notZoned text fault => "'" ++ text ++ "' is not zoned: " ++ fault.message
  | .unknownConstant text enumName => "'" ++ text ++ "' is not a constant of " ++ enumName
  | .ordinalOutOfRange ordinal enumName => s!"ordinal {ordinal} out of range for {enumName}"
  | .oddHexDigits digits => "hex literal '" ++ digits ++ "' has an odd number of digits"
  | .epochOutOfRange text => "epoch " ++ text ++ " out of range"
  | .rowWithoutColumns => "result row has no columns"
  | .rowWidth wanted given => s!"expected {wanted} columns, row has {given}"

/-! ## Settings -/

/-- What is wrong with the settings. -/
inductive SettingsError where
  | fileNotFound (path : String)
  | unreadable
  | malformed
  | missingVariable (name : String)
  | unsupportedDialect (name : String)
  | unknownAliasMode (name : String)
  | minorWithoutMajor
  deriving DecidableEq, Repr

/-- The wording of a settings error. A file that cannot be read and a text that
is not well formed have no wording of their own. -/
def SettingsError.message : SettingsError → String
  | .fileNotFound path => "Config file not found: " ++ path
  | .unreadable => "Failed to read config file"
  | .malformed => "Failed to parse config file"
  | .missingVariable name => "Missing environment variable: " ++ name
  | .unsupportedDialect name => "Unsupported dialect: " ++ name
  | .unknownAliasMode name => "Invalid configuration: unknown alias mode '" ++ name ++ "'"
  | .minorWithoutMajor =>
    "Invalid configuration: dialect.minor_version requires dialect.major_version"

/-! ## All of them -/

/-- Why a statement cannot be built or a value cannot be converted. -/
inductive SqlError where
  | invalid (defect : Defect)
  /-- Every resolver declined. -/
  | unresolved (kind : ExpressionKind) (form : Form)
  | preparation (fault : PlaceholderFault)
  /-- The dialect has no way to say what was asked. -/
  | unsupported (dialect feature : String)
  | conversion (fault : ConversionFault)
  /-- The database could not describe itself. -/
  | dialectInit (message : String)
  | config (error : SettingsError)
  /-- No error is returned: the program stops at a local time that the calendar does not have. -/
  | stopped
  deriving DecidableEq, Repr

/-- The wording of an error. -/
def SqlError.message : SqlError → String
  | .invalid defect => "invalid expression: " ++ defect.message
  | .unresolved kind form =>
    "no resolver produced " ++ form.shown ++ " for " ++ kind.shown ++ " expression"
  | .preparation fault => "statement preparation failed: " ++ fault.message
  | .unsupported dialect feature => dialect ++ " does not support " ++ feature
  | .conversion fault => "type conversion failed: " ++ fault.message
  | .dialectInit message => "dialect initialization failed: " ++ message
  | .config error => error.message
  | .stopped => "local time out of range"

/-- The short stable name of an error's category. -/
def SqlError.category : SqlError → String
  | .invalid _ => "invalid_expression"
  | .unresolved _ _ => "unresolved_expression"
  | .preparation _ => "statement_preparation"
  | .unsupported _ _ => "unsupported_dialect_feature"
  | .conversion _ => "type_conversion"
  | .dialectInit _ => "dialect_init"
  | .config _ => "config"
  | .stopped => "panic"

/-- The short stable name of a settings error's category. -/
def SettingsError.category : SettingsError → String
  | .fileNotFound _ => "file_not_found"
  | .unreadable => "read_error"
  | .malformed => "parse_error"
  | .missingVariable _ => "missing_env_var"
  | .unsupportedDialect _ => "unsupported_dialect"
  | .unknownAliasMode _ | .minorWithoutMajor => "invalid_config"

/-- Refuse an invalid expression. -/
def refuse (defect : Defect) : Except SqlError α := .error (.invalid defect)

end SqlCompose
