import SqlCompose.Text.InvisibleTables

/-!
# SqlCompose.Text.Escaped -- text as it is shown in messages

A shown text stands between double quotes. Quotes and backslashes are escaped,
the common controls have short names, and every other character that shows
nothing of its own is written by its number.
-/

namespace SqlCompose.Text.Escaped

/-- A code point in small hexadecimal digits. -/
def hexNumber (n : Nat) : List Char := Nat.toDigits 16 n

/-- A character written by its number. -/
def byNumber (c : Char) : List Char := ['\\', 'u', '\x7b'] ++ hexNumber c.toNat ++ ['\x7d']

/-- One character as it is shown. -/
def escapeChar (c : Char) : List Char :=
  if c = '\x00' then ['\\', '0']
  else if c = '\t' then ['\\', 't']
  else if c = '\r' then ['\\', 'r']
  else if c = '\n' then ['\\', 'n']
  else if c = '"' then ['\\', '"']
  else if c = '\\' then ['\\', '\\']
  else if c.toNat < 32 then byNumber c
  else if c.toNat < 127 then [c]
  else if invisibleRanges.any (fun r => r.1 ≤ c.toNat && c.toNat ≤ r.2) then byNumber c
  else [c]

/-- A text between double quotes with its special characters escaped. -/
def quoted (s : String) : String :=
  String.ofList ('"' :: s.toList.flatMap escapeChar ++ ['"'])

end SqlCompose.Text.Escaped
