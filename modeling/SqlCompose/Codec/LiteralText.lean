import SqlCompose.Text.Blank
import SqlCompose.Text.Hex
import SqlCompose.Text.Quoted

/-!
# SqlCompose.Codec.LiteralText -- recognising literals in what a database returns

Some databases return a value as the literal that writes it: a string in quotes,
a date behind its keyword, a call of a date function, or bytes in hexadecimal
digits. The whole text has to be the literal, blanks around it apart. Each
reader takes what it knows from the front and gives the rest.
-/

namespace SqlCompose.LiteralText

/-! ## Words -/

/-- Whether a character stands for a capital letter or mark of a word in any
case. The long s is a small form of the letter S. -/
def standsFor (c w : Char) : Bool :=
  c == w || (65 ≤ w.toNat && w.toNat ≤ 90 && c.toNat == w.toNat + 32) ||
    (w == 'S' && c.toNat == 0x17f)

/-- Take a word written in capitals, in any case. -/
def takeWord : List Char → List Char → Option (List Char)
  | [], cs => some cs
  | _ :: _, [] => none
  | w :: word, c :: cs => if standsFor c w then takeWord word cs else none

/-- Take a mark. -/
def takeMark (mark : Char) : List Char → Option (List Char)
  | [] => none
  | c :: cs => if c = mark then some cs else none

/-! ## Quotes -/

/-- The text up to the closing quote, in which quotes stand in pairs, and what
comes after it. The pairs are kept. -/
def takeBody : List Char → Option (List Char × List Char)
  | [] => none
  | '\'' :: '\'' :: rest => (takeBody rest).map fun (body, after) => ('\'' :: '\'' :: body, after)
  | c :: rest =>
    if c = '\'' then some ([], rest)
    else (takeBody rest).map fun (body, after) => (c :: body, after)

/-- A text between quotes. -/
def takeQuoted (cs : List Char) : Option (List Char × List Char) :=
  (takeMark '\'' cs).bind takeBody

/-- The end of a text, blanks apart. -/
def atEnd (cs : List Char) : Bool := cs.all Text.isBlank

/-- A text between quotes and nothing after it. -/
def quotedToEnd (cs : List Char) : Option (List Char) :=
  (takeQuoted cs).bind fun (body, after) => if atEnd after then some body else none

/-! ## Literals -/

/-- A quoted string, possibly marked as national. -/
def quoted (cs : List Char) : Option (List Char) :=
  let cs := Text.trimFront cs
  quotedToEnd ((takeMark 'N' cs).getD cs)

/-- A quoted string behind the keyword of its type. -/
def typed (cs : List Char) : Option (List Char) :=
  let cs := Text.trimFront cs
  ["DATE", "TIME", "TIMESTAMP"].findSome? fun word =>
    (takeWord word.toList cs).bind fun rest => quotedToEnd (Text.trimFront rest)

/-- A second argument, which is a text without quotes between quotes. -/
def takeFormat (cs : List Char) : Option (List Char) := do
  let rest ← takeMark ',' cs
  let rest ← takeMark '\'' (Text.trimFront rest)
  takeMark '\'' (rest.dropWhile (· != '\''))

/-- The arguments of a date function up to its closing parenthesis. -/
def arguments (cs : List Char) : Option (List Char) := do
  let cs ← takeMark '(' (Text.trimFront cs)
  let (body, rest) ← takeQuoted (Text.trimFront cs)
  let rest := Text.trimFront rest
  let rest ← takeMark ')' (Text.trimFront ((takeFormat rest).getD rest))
  if atEnd rest then some body else none

/-- A call of a date function with a quoted string. -/
def called (cs : List Char) : Option (List Char) :=
  let cs := Text.trimFront cs
  ["TO_DATE", "TO_TIMESTAMP", "DATE", "TIME", "TIMESTAMP"].findSome? fun word =>
    (takeWord word.toList cs).bind arguments

/-- The text of a literal of a date or a time. -/
def temporal? (s : String) : Option String :=
  let cs := s.toList
  (((typed cs).or (called cs)).or (quoted cs)).map fun body =>
    String.ofList (Text.Quoted.halved body)

/-- The text of a quoted string. -/
def string? (s : String) : Option String :=
  (quoted s.toList).map fun body => String.ofList (Text.Quoted.halved body)

/-- Hexadecimal digits between two words, up to the end. -/
def digitsBetween (before after : String) (cs : List Char) : Option (List Char) := do
  let rest ← takeWord before.toList cs
  let after ← takeWord after.toList (rest.dropWhile Text.Hex.isDigit)
  if atEnd after then some (rest.takeWhile Text.Hex.isDigit) else none

/-- The digits of a literal of bytes. -/
def hexDigits? (s : String) : Option String :=
  let cs := Text.trimFront s.toList
  (((digitsBetween "X'" "'" cs).or (digitsBetween "HEXTORAW('" "')" cs)).or
    (digitsBetween "'\\X" "'::BYTEA" cs)).map String.ofList

end SqlCompose.LiteralText
