import SqlCompose.Toml.Quoted
import SqlCompose.Toml.Scalar

/-!
# SqlCompose.Toml.Document -- reading a TOML document

A document is a sequence of lines. A line is empty, holds a key with its value,
or is the header of a table; a comment may end it. Values in brackets and braces
can stand on several lines. Each reader gives what it read with the rest of the
text. Brackets and braces can stand inside one another up to a limit, and so can
keys be joined by dots; `fuel` only counts the steps that a text has room for.
-/

namespace SqlCompose.Toml

/-! ## Blanks and comments -/

/-- Drop the blanks of a line. -/
def dropBlanks (cs : List Char) : List Char := cs.dropWhile fun c => c == ' ' || c == '\t'

/-- Drop blanks, line ends and comments; `inComment` tells whether the text
starts inside a comment. -/
def dropFiller (inComment : Bool) : List Char → Option (List Char)
  | [] => some []
  | '\n' :: rest => dropFiller false rest
  | '\r' :: '\n' :: rest => dropFiller false rest
  | c :: rest =>
    if inComment then if isPlain c then dropFiller true rest else none
    else if c = '#' then dropFiller true rest
    else if c = ' ' ∨ c = '\t' then dropFiller false rest
    else some (c :: rest)

/-- Drop the rest of a comment, up to the end of its line. -/
def dropComment : List Char → Option (List Char)
  | [] => some []
  | '\n' :: rest => some rest
  | '\r' :: '\n' :: rest => some rest
  | c :: rest => if isPlain c then dropComment rest else none

/-- Drop the end of a line: blanks, a comment and the line end itself. -/
def dropLineEnd (cs : List Char) : Option (List Char) :=
  match dropBlanks cs with
  | [] => some []
  | '\n' :: rest => some rest
  | '\r' :: '\n' :: rest => some rest
  | '#' :: rest => dropComment rest
  | _ => none

/-! ## Keys -/

/-- The characters of a key without quotes. -/
def isBare (c : Char) : Bool :=
  (97 ≤ c.toNat && c.toNat ≤ 122) || (65 ≤ c.toNat && c.toNat ≤ 90) || Text.isDecimalDigit c ||
    c == '_' || c == '-'

/-- One key. A key in quotes stands on one line. -/
def takeKey (cs : List Char) : Option (String × List Char) :=
  match cs with
  | '"' :: rest => (takeBasic rest).map fun (key, rest) => (String.ofList key, rest)
  | '\'' :: rest => (takeLiteral rest).map fun (key, rest) => (String.ofList key, rest)
  | cs =>
    match cs.takeWhile isBare with
    | [] => none
    | key => some (String.ofList key, cs.dropWhile isBare)

/-- The number of keys that dots can join, and of brackets and braces that can
stand inside one another. -/
def nestingLimit : Nat := 80

/-- At most `count` keys with dots between them: those before the last one, the
last one, and the rest without the blanks in front. -/
def takeKeysUpTo : Nat → List Char → Option (List String × String × List Char)
  | 0, _ => none
  | count + 1, cs => do
    let (key, rest) ← takeKey (dropBlanks cs)
    match dropBlanks rest with
    | '.' :: rest => do
      let (path, last, rest) ← takeKeysUpTo count rest
      some (key :: path, last, rest)
    | rest => some ([], key, rest)

/-- Keys with dots between them. -/
def takeKeys (cs : List Char) : Option (List String × String × List Char) :=
  takeKeysUpTo nestingLimit cs

/-! ## Values -/

/-- The characters that end a word. -/
def endsWord (c : Char) : Bool :=
  c == ' ' || c == '\t' || c == '\n' || c == '\r' || c == '#' || c == ',' || c == '=' ||
    c == '[' || c == ']' || c == '\x7b' || c == '\x7d'

/-- A word, which is a date and a time if those stand side by side. -/
def takeScalar (cs : List Char) : Option (Toml × List Char) :=
  let word := cs.takeWhile fun c => !endsWord c
  let rest := cs.dropWhile fun c => !endsWord c
  let alone := (scalar? word).map fun v => (v, rest)
  if isDate word then
    match rest with
    | ' ' :: digit :: more =>
      if Text.isDecimalDigit digit then
        let time := (digit :: more).takeWhile fun c => !endsWord c
        (scalar? (word ++ ' ' :: time)).map fun v =>
            (v, (digit :: more).dropWhile fun c => !endsWord c)
      else alone
    | _ => alone
  else alone

mutual

/-- A value, inside which `room` more brackets and braces can open. -/
def takeValue (room : Nat) : Nat → List Char → Option (Toml × List Char)
  | 0, _ => none
  | fuel + 1, cs =>
    match cs, room with
    | '"' :: _, _ | '\'' :: _, _ =>
      (takeString cs).map fun (s, rest) => (.string (String.ofList s), rest)
    | '[' :: rest, room + 1 =>
      (takeItems room fuel rest).map fun (items, rest) => (.array items, rest)
    | '\x7b' :: rest, room + 1 => takeEntries room fuel [] rest
    | cs, _ => takeScalar cs

/-- The items of an array up to its closing bracket. -/
def takeItems (room : Nat) : Nat → List Char → Option (List Toml × List Char)
  | 0, _ => none
  | fuel + 1, cs => do
    match ← dropFiller false cs with
    | ']' :: rest => some ([], rest)
    | cs => do
      let (v, rest) ← takeValue room fuel cs
      match ← dropFiller false rest with
      | ',' :: rest => do
        let (vs, rest) ← takeItems room fuel rest
        some (v :: vs, rest)
      | ']' :: rest => some ([v], rest)
      | _ => none

/-- The keys of an inline table up to its closing brace. -/
def takeEntries (room : Nat) : Nat → List (String × Toml) → List Char → Option (Toml × List Char)
  | 0, _, _ => none
  | fuel + 1, entries, cs => do
    match ← dropFiller false cs with
    | '\x7d' :: rest => some (.table .inline entries, rest)
    | cs => do
      let (path, key, rest) ← takeKeys cs
      match rest with
      | '=' :: rest => do
        let (v, rest) ← takeValue room fuel (dropBlanks rest)
        match ← addKey path key v .inline entries with
        | .table _ entries =>
          match ← dropFiller false rest with
          | ',' :: rest => takeEntries room fuel entries rest
          | '\x7d' :: rest => some (.table .inline entries, rest)
          | _ => none
        | _ => none
      | _ => none

end

/-! ## Lines -/

/-- The document so far, and the path of the table that keys are added to. -/
structure Reading where
  entries : List (String × Toml) := []
  current : List String := []

/-- Apply a change to the document. -/
def Reading.change (r : Reading) (change : Change) : Option Reading := do
  match ← change .opened r.entries with
  | .table _ entries => some { r with entries := entries }
  | _ => none

/-- A header with its closing brackets: the table it opens. -/
def takeHeader (r : Reading) (cs : List Char) : Option (Reading × List Char) :=
  match cs with
  | '[' :: rest => do
    let (path, key, rest) ← takeKeys rest
    match rest with
    | ']' :: ']' :: rest => do
      let r ← r.change (changeAt false (openOneMore key) path)
      some ({ r with current := path ++ [key] }, rest)
    | _ => none
  | cs => do
    let (path, key, rest) ← takeKeys cs
    match rest with
    | ']' :: rest => do
      let r ← r.change (changeAt false (openTable key) path)
      some ({ r with current := path ++ [key] }, rest)
    | _ => none

/-- A key with its value, which is added to the current table. -/
def takeEntry (r : Reading) (cs : List Char) : Option (Reading × List Char) := do
  let (path, key, rest) ← takeKeys cs
  match rest with
  | '=' :: rest => do
    let (v, rest) ← takeValue nestingLimit (2 * rest.length + 2) (dropBlanks rest)
    let r ← r.change (changeAt false (addKey path key v) r.current)
    some (r, rest)
  | _ => none

/-- The lines of a document; there are no more of them than characters. -/
def readLines : Nat → Reading → List Char → Option Reading
  | 0, _, _ => none
  | count + 1, r, cs =>
    match dropBlanks cs with
    | [] => some r
    | '\n' :: rest => readLines count r rest
    | '\r' :: '\n' :: rest => readLines count r rest
    | '#' :: rest => do
      let rest ← dropComment rest
      readLines count r rest
    | '[' :: rest => do
      let (r, rest) ← takeHeader r rest
      let rest ← dropLineEnd rest
      readLines count r rest
    | cs => do
      let (r, rest) ← takeEntry r cs
      let rest ← dropLineEnd rest
      readLines count r rest

/-- Drop a byte order mark. -/
def dropByteOrderMark : List Char → List Char
  | [] => []
  | c :: rest => if c.toNat = 0xfeff then rest else c :: rest

/-- Read a document. -/
def read (text : String) : Option Toml :=
  let cs := dropByteOrderMark text.toList
  (readLines (cs.length + 1) {} cs).map fun r => .table .opened r.entries

end SqlCompose.Toml
