import SqlCompose.Error
import SqlCompose.Text.Letter

/-!
# SqlCompose.Settings.Variables -- variables of the environment in settings

A dollar sign starts a reference to a variable: a name between braces, or a name
of letters, digits and underscores. A dollar sign before anything else stands
for itself. What was put in is not expanded again.
-/

namespace SqlCompose

/-- The variables that exist. Of several with one name the last is in effect. -/
abbrev Variables := List (String × String)

namespace Variables

/-- The value of a variable. -/
def value (vars : Variables) (name : String) : Except SettingsError String :=
  match vars.reverse.lookup name with
  | some v => .ok v
  | none => .error (.missingVariable name)

/-- The characters of a name without braces. -/
def isNameChar (c : Char) : Bool := Text.isAlphanumeric c || c == '_'

/-- A piece of a text with references. -/
inductive Piece where
  | char (c : Char)
  | reference (name : List Char)
  deriving DecidableEq, Repr

/-- Where a reader of pieces is. -/
inductive ScanState where
  | text
  /-- Behind a dollar sign. -/
  | dollar
  /-- In a name without braces; it is not empty. -/
  | bare (name : List Char)
  /-- In a name between braces. -/
  | braced (name : List Char)

/-- The pieces of a text from a state on. A name between braces that are not
closed goes up to the end. -/
def scan : ScanState → List Char → List Piece
  | .text, [] => []
  | .dollar, [] => [.char '$']
  | .bare name, [] => [.reference name]
  | .braced name, [] => [.reference name]
  | .text, c :: rest => if c = '$' then scan .dollar rest else .char c :: scan .text rest
  | .dollar, c :: rest =>
    if c = '\x7b' then scan (.braced []) rest
    else if isNameChar c then scan (.bare [c]) rest
    else if c = '$' then .char '$' :: scan .dollar rest
    else .char '$' :: .char c :: scan .text rest
  | .bare name, c :: rest =>
    if isNameChar c then scan (.bare (name ++ [c])) rest
    else if c = '$' then .reference name :: scan .dollar rest
    else .reference name :: .char c :: scan .text rest
  | .braced name, c :: rest =>
    if c = '\x7d' then .reference name :: scan .text rest
    else scan (.braced (name ++ [c])) rest

/-- The text that pieces stand for. -/
def substitute (vars : Variables) : List Piece → Except SettingsError (List Char)
  | [] => .ok []
  | .char c :: rest => do
    let text ← substitute vars rest
    .ok (c :: text)
  | .reference name :: rest => do
    let v ← vars.value (String.ofList name)
    let text ← substitute vars rest
    .ok (v.toList ++ text)

/-- Expand the references of a text. -/
def expand (vars : Variables) (s : String) : Except SettingsError String := do
  let text ← substitute vars (scan .text s.toList)
  .ok (String.ofList text)

end Variables

end SqlCompose
