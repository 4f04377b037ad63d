import SqlCompose.Dialect.Basic
import SqlCompose.Scope.AliasMode
import SqlCompose.Settings.Variables
import SqlCompose.Toml.Document

/-!
# SqlCompose.Settings.Basic -- settings of an application

Settings choose the dialect and the alias mode, and can say what a database can
do without asking it. Keys that are missing have defaults, and keys that are not
known do not count, as long as their values can be read. A key with a value of
the wrong type, or out of its range, makes the whole text malformed.
-/

namespace SqlCompose

/-- What is set for all statements. -/
structure CompilerSettings where
  /-- The name of the dialect, with references to variables. -/
  dialect : String := "ansi"
  aliasMode : AliasMode := .explicitOnly
  likeEscape : Option Bool := none
  nullType : Option Int := none
  deriving DecidableEq, Repr

/-- What is set about the database. -/
structure DialectSettings where
  major : Option Nat := none
  minor : Option Nat := none
  identifierCase : Option IdentifierCase := none
  generatedKeys : Option Bool := none
  deriving DecidableEq, Repr

/-- Everything that can be set. -/
structure Settings where
  compiler : CompilerSettings := {}
  dialect : DialectSettings := {}
  deriving DecidableEq, Repr

namespace Settings

/-! ## Reading -/

/-- The named values of a table, in which other keys have readable values. An array
gives the values in the order of the names; what it holds beyond them is not
looked at. A date or a time has none of the names. -/
def fields (names : List String) : Toml → Option (List (String × Toml))
  | .table _ entries =>
    if entries.all fun (key, v) => names.contains key || v.isReadable then some entries else none
  | .array items | .tables items => some (names.zip items)
  | .moment _ => some []
  | _ => none

/-- A value that may be missing. -/
def optional (entries : List (String × Toml)) (name : String) (read : Toml → Option α) :
    Option (Option α) :=
  match entries.lookup name with
  | some v => (read v).map some
  | none => some none

/-- A string. -/
def asString : Toml → Option String
  | .string s => some s
  | _ => none

/-- A truth value. -/
def asBoolean : Toml → Option Bool
  | .boolean b => some b
  | _ => none

/-- A whole number between bounds. -/
def asInteger (least most : Int) : Toml → Option Int
  | .integer n => if least ≤ n ∧ n ≤ most then some n else none
  | _ => none

/-- A version number. -/
def asVersion (v : Toml) : Option Nat := (asInteger 0 4294967295 v).map Int.toNat

/-- A table or an array that holds nothing. -/
def isEmpty : Toml → Bool
  | .table _ [] | .array [] => true
  | _ => false

/-- One of several words. It may also be the only key of a table with nothing behind it. -/
def asWord (all : List α) (word : α → String) : Toml → Option α
  | .string s => all.find? fun a => word a == s
  | .table _ [(s, v)] => if isEmpty v then all.find? fun a => word a == s else none
  | _ => none

/-- What is set for all statements. -/
def readCompiler (v : Toml) : Option CompilerSettings := do
  let entries ← fields ["dialect", "alias_mode", "like_escape", "null_type"] v
  let dialect ← optional entries "dialect" asString
  let aliasMode ← optional entries "alias_mode"
    (asWord [AliasMode.explicitOnly, .auto, .unsupported] AliasMode.word)
  let likeEscape ← optional entries "like_escape" asBoolean
  let nullType ← optional entries "null_type" (asInteger (-2147483648) 2147483647)
  some ⟨dialect.getD "ansi", aliasMode.getD .explicitOnly, likeEscape, nullType⟩

/-- What is set about the database. -/
def readDialect (v : Toml) : Option DialectSettings := do
  let entries ← fields ["major_version", "minor_version", "identifier_case", "generated_keys"] v
  let major ← optional entries "major_version" asVersion
  let minor ← optional entries "minor_version" asVersion
  let identifierCase ← optional entries "identifier_case"
    (asWord [IdentifierCase.upper, .lower, .mixed] IdentifierCase.word)
  let generatedKeys ← optional entries "generated_keys" asBoolean
  some ⟨major, minor, identifierCase, generatedKeys⟩

/-- The settings of a document. -/
def ofToml (v : Toml) : Option Settings := do
  let entries ← fields ["compiler", "dialect"] v
  let compiler ← optional entries "compiler" readCompiler
  let dialect ← optional entries "dialect" readDialect
  some ⟨compiler.getD {}, dialect.getD {}⟩

/-- The settings of a text. -/
def parse (text : String) : Except SettingsError Settings :=
  match (Toml.read text).bind ofToml with
  | some s => .ok s
  | none => .error .malformed

/-! ## Using -/

/-- The dialect, whose name may refer to variables. -/
def dialectKind (s : Settings) (vars : Variables) : Except SettingsError DialectKind := do
  let name ← vars.expand s.compiler.dialect
  DialectKind.parse (Text.trim name)

/-- The vendor's capabilities with what is set in their place. -/
def overridden (s : Settings) (info : DatabaseInfo) : DatabaseInfo :=
  { info with
    major := s.dialect.major.getD info.major
    minor := if s.dialect.major.isSome then s.dialect.minor.getD 0 else info.minor
    identifierCase := s.dialect.identifierCase.getD info.identifierCase
    generatedKeys := s.dialect.generatedKeys.getD info.generatedKeys
    likeEscape := s.compiler.likeEscape.getD info.likeEscape }

/-- Whether anything is set about the database. -/
def describesDatabase (s : Settings) : Bool :=
  s.dialect != {} || s.compiler.likeEscape.isSome

/-- The capabilities of the database, if anything is set about it. A minor version
means nothing without a major one. -/
def databaseInfo (s : Settings) (vars : Variables) : Except SettingsError (Option DatabaseInfo) :=
  if s.describesDatabase then do
    let kind ← s.dialectKind vars
    if s.dialect.major.isNone && s.dialect.minor.isSome then .error .minorWithoutMajor
    else .ok (some (s.overridden kind.vendor.defaultInfo))
  else .ok none

/-- The type of nulls that have no type of their own, if it is set. -/
def nullType (s : Settings) : Option SqlType := s.compiler.nullType.map fun code => ⟨code, none⟩

/-- The dialect with what is set about its database. -/
def dialectFor (s : Settings) (vars : Variables) : Except SettingsError Dialect := do
  let kind ← s.dialectKind vars
  let info ← s.databaseInfo vars
  match info with
  | some info => .ok (Dialect.withInfo kind info)
  | none => .ok (Dialect.new kind)

end Settings

end SqlCompose
