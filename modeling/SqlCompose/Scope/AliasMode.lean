import SqlCompose.Error
import SqlCompose.Text.Letter

/-!
# SqlCompose.Scope.AliasMode -- the policy for aliases
-/

namespace SqlCompose

/-- Which tables and columns get an alias. -/
inductive AliasMode where
  /-- Only those that the caller gave one. -/
  | explicitOnly
  /-- All: the caller's aliases, and generated ones for the rest. -/
  | auto
  /-- None, not even those the caller gave. -/
  | unsupported
  deriving DecidableEq, Repr

namespace AliasMode

/-- The word of a mode in settings. -/
def word : AliasMode → String
  | .explicitOnly => "default"
  | .auto => "auto"
  | .unsupported => "unsupported"

/-- The name of a mode in descriptions. -/
def shown : AliasMode → String
  | .explicitOnly => "Default"
  | .auto => "Auto"
  | .unsupported => "Unsupported"

/-- The mode of a word in any case. -/
def parse (s : String) : Except SettingsError AliasMode :=
  let word := Text.lower s
  if word = "default" then .ok .explicitOnly
  else if word = "auto" then .ok .auto
  else if word = "unsupported" ∨ word = "none" then .ok .unsupported
  else .error (.unknownAliasMode word)

end AliasMode

end SqlCompose
