/-!
# SqlCompose.Toml.Value -- what a TOML document says

A document is a table of keys. How a table came about decides whether later
lines may still add to it: a header opens a table once, dotted keys add to
tables that dotted keys made, and an inline table is complete.
-/

namespace SqlCompose

/-- How a table came about. -/
inductive TomlStyle where
  /-- By its own header, or the document itself. -/
  | opened
  /-- On the way to a header of a table inside it. -/
  | passed
  /-- On the way of a dotted key. -/
  | dotted
  /-- Between braces. -/
  | inline
  deriving DecidableEq, Repr

/-- A value of a document. Dates and times keep their text. -/
inductive Toml where
  | string (s : String)
  | integer (n : Int)
  | float (text : String)
  /-- A number whose characters do not make one, or one too large to have a place. -/
  | unreadable
  | boolean (b : Bool)
  | moment (text : String)
  | array (items : List Toml)
  /-- Tables under one header, in the order of the header's lines. -/
  | tables (items : List Toml)
  | table (style : TomlStyle) (entries : List (String × Toml))

namespace Toml

mutual

/-- Whether every number in a value has a place. -/
def isReadable : Toml → Bool
  | .unreadable => false
  | .array items | .tables items => allReadable items
  | .table _ entries => entriesReadable entries
  | .string _ | .integer _ | .float _ | .boolean _ | .moment _ => true

/-- Whether all of several values are readable. -/
def allReadable : List Toml → Bool
  | [] => true
  | v :: rest => v.isReadable && allReadable rest

/-- Whether the values of all keys are readable. -/
def entriesReadable : List (String × Toml) → Bool
  | [] => true
  | (_, v) :: rest => v.isReadable && entriesReadable rest

end

/-- Replace the value of a key that is there. -/
def replaceEntry (key : String) (v : Toml) : List (String × Toml) → List (String × Toml)
  | [] => []
  | (k, w) :: rest => if k = key then (k, v) :: rest else (k, w) :: replaceEntry key v rest

/-- Set the value of a key, which comes last if it is new. -/
def setEntry (key : String) (v : Toml) (entries : List (String × Toml)) : List (String × Toml) :=
  match entries.lookup key with
  | some _ => replaceEntry key v entries
  | none => entries ++ [(key, v)]

/-- A change of a table. There is none where the change is not allowed. -/
abbrev Change := TomlStyle → List (String × Toml) → Option Toml

/-- Apply a change to the table at the end of a path. Tables that are missing on
the way are made. A dotted key does not pass through a table that has its own
header, nothing passes through an inline table or another value, and of tables
under one header the last one is meant. -/
def changeAt (isDotted : Bool) (change : Change) : List String → Change
  | [], style, entries => change style entries
  | key :: path, style, entries =>
    match entries.lookup key with
    | none => do
      let child ← changeAt isDotted change path (if isDotted then .dotted else .passed) []
      some (.table style (setEntry key child entries))
    | some (.table childStyle children) =>
      if childStyle = .inline ∨ (isDotted ∧ childStyle = .opened) then none
      else do
        let child ← changeAt isDotted change path childStyle children
        some (.table style (setEntry key child entries))
    | some (.tables items) =>
      match items.getLast? with
      | some (.table childStyle children) => do
        let child ← changeAt isDotted change path childStyle children
        some (.table style (setEntry key (.tables (items.dropLast ++ [child])) entries))
      | _ => none
    | some _ => none

/-- Add a key at the end of a dotted path. A key stands once, and dotted keys add
only to tables that dotted keys made. -/
def addKey (path : List String) (key : String) (v : Toml) : Change :=
  changeAt true
    (fun style entries =>
      if decide (style = .dotted) = path.isEmpty then none
      else match entries.lookup key with
        | some _ => none
        | none => some (.table style (setEntry key v entries)))
    path

/-- Open the table of a header. -/
def openTable (key : String) : Change := fun style entries =>
  match entries.lookup key with
  | none => some (.table style (setEntry key (.table .opened []) entries))
  | some (.table .passed children) =>
    some (.table style (setEntry key (.table .opened children) entries))
  | some _ => none

/-- Open one more table under the same header. -/
def openOneMore (key : String) : Change := fun style entries =>
  match entries.lookup key with
  | none => some (.table style (setEntry key (.tables [.table .opened []]) entries))
  | some (.tables items) =>
    some (.table style (setEntry key (.tables (items ++ [.table .opened []])) entries))
  | some _ => none

end Toml

end SqlCompose
