import SqlCompose.Text.Hex

/-!
# SqlCompose.Toml.Quoted -- strings in TOML

Strings stand between quotes, on one line or on several. Between double quotes a
backslash starts an escape; between single quotes every character stands for
itself. Each reader starts behind the opening quotes, and gives the content and
what follows the closing quotes.
-/

namespace SqlCompose.Toml

/-- The characters a string can hold as they are, line ends apart. -/
def isPlain (c : Char) : Bool := c == '\t' || (32 ≤ c.toNat && c.toNat != 127)

/-- The character of an escape of one letter. -/
def escaped? (c : Char) : Option Char :=
  if c = 'b' then some (Char.ofNat 8)
  else if c = 't' then some '\t'
  else if c = 'n' then some '\n'
  else if c = 'f' then some (Char.ofNat 12)
  else if c = 'r' then some '\r'
  else if c = 'e' then some (Char.ofNat 27)
  else if c = '"' then some '"'
  else if c = '\\' then some '\\'
  else none

/-- The character of a code point in hexadecimal digits. -/
def codePoint? (digits : List Char) : Option Char := do
  let values ← digits.mapM Text.Hex.value?
  let n := values.foldl (fun acc v => 16 * acc + v) 0
  if h : n.isValidChar then some (Char.ofNatAux n h) else none

/-- What a reader of strings gives: the content and the rest. -/
abbrev Taken := Option (List Char × List Char)

/-- Put characters in front of the content. -/
def Taken.before (cs : List Char) (t : Taken) : Taken :=
  t.map fun (content, rest) => (cs ++ content, rest)

/-- A string of one line between double quotes. -/
def takeBasic : List Char → Taken
  | [] => none
  | '"' :: rest => some ([], rest)
  | '\\' :: 'x' :: a :: b :: rest => do
    let c ← codePoint? [a, b]
    Taken.before [c] (takeBasic rest)
  | '\\' :: 'u' :: a :: b :: c :: d :: rest => do
    let c ← codePoint? [a, b, c, d]
    Taken.before [c] (takeBasic rest)
  | '\\' :: 'U' :: a :: b :: c :: d :: e :: f :: g :: h :: rest => do
    let c ← codePoint? [a, b, c, d, e, f, g, h]
    Taken.before [c] (takeBasic rest)
  | '\\' :: c :: rest => do
    let c ← escaped? c
    Taken.before [c] (takeBasic rest)
  | c :: rest => if isPlain c then Taken.before [c] (takeBasic rest) else none

/-- A string of one line between single quotes. -/
def takeLiteral : List Char → Taken
  | [] => none
  | c :: rest =>
    if c = '\'' then some ([], rest)
    else if isPlain c then Taken.before [c] (takeLiteral rest)
    else none

/-- A line end directly behind the opening quotes is not part of a string. -/
def dropFirstLineEnd : List Char → List Char
  | '\n' :: rest => rest
  | '\r' :: '\n' :: rest => rest
  | cs => cs

/-- Where a reader is in a string of several lines. -/
inductive LineState where
  | content
  /-- Behind a backslash that ends its line. -/
  | lineEnd
  /-- In the blanks and line ends that follow such a line. -/
  | blanks
  deriving DecidableEq, Repr

/-- Whether a text starts with a blank or a line end, which a backslash in front of
it makes disappear. A carriage return is part of a line end only. -/
def startsFiller (c : Char) (rest : List Char) : Bool :=
  c == ' ' || c == '\t' || c == '\n' || (c == '\r' && rest.head? == some '\n')

/-- A string of several lines between double quotes. Up to two quotes may stand
before the closing ones. -/
def takeMultiBasic : LineState → List Char → Taken
  | _, [] => none
  | state, c :: rest =>
    if state = .blanks ∧ startsFiller c rest then takeMultiBasic .blanks rest
    else if state = .lineEnd then
      if c = '\n' then takeMultiBasic .blanks rest
      else if startsFiller c rest then takeMultiBasic .lineEnd rest
      else none
    else match c, rest with
      | '"', '"' :: '"' :: '"' :: '"' :: rest => some (['"', '"'], rest)
      | '"', '"' :: '"' :: '"' :: rest => some (['"'], rest)
      | '"', '"' :: '"' :: rest => some ([], rest)
      | '\\', 'x' :: a :: b :: rest => do
        let c ← codePoint? [a, b]
        Taken.before [c] (takeMultiBasic .content rest)
      | '\\', 'u' :: a :: b :: c :: d :: rest => do
        let c ← codePoint? [a, b, c, d]
        Taken.before [c] (takeMultiBasic .content rest)
      | '\\', 'U' :: a :: b :: c :: d :: e :: f :: g :: h :: rest => do
        let c ← codePoint? [a, b, c, d, e, f, g, h]
        Taken.before [c] (takeMultiBasic .content rest)
      | '\\', c :: rest =>
        if c = '\n' then takeMultiBasic .blanks rest
        else if startsFiller c rest then takeMultiBasic .lineEnd rest
        else do
          let c ← escaped? c
          Taken.before [c] (takeMultiBasic .content rest)
      | '\\', [] => none
      | '\r', '\n' :: rest => Taken.before ['\r', '\n'] (takeMultiBasic .content rest)
      | c, rest =>
        if isPlain c || c == '\n' then Taken.before [c] (takeMultiBasic .content rest) else none

/-- A string of several lines between single quotes. -/
def takeMultiLiteral : List Char → Taken
  | [] => none
  | '\'' :: '\'' :: '\'' :: '\'' :: '\'' :: rest => some (['\'', '\''], rest)
  | '\'' :: '\'' :: '\'' :: '\'' :: rest => some (['\''], rest)
  | '\'' :: '\'' :: '\'' :: rest => some ([], rest)
  | '\r' :: '\n' :: rest => Taken.before ['\r', '\n'] (takeMultiLiteral rest)
  | c :: rest =>
    if isPlain c || c == '\n' then Taken.before [c] (takeMultiLiteral rest) else none

/-- A string in any of its forms, at its opening quote. -/
def takeString : List Char → Taken
  | '"' :: '"' :: '"' :: rest => takeMultiBasic .content (dropFirstLineEnd rest)
  | '\'' :: '\'' :: '\'' :: rest => takeMultiLiteral (dropFirstLineEnd rest)
  | '"' :: rest => takeBasic rest
  | '\'' :: rest => takeLiteral rest
  | _ => none

end SqlCompose.Toml
