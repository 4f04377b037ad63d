import SqlCompose.Dialect.Basic
import SqlCompose.Expression.Basic
import SqlCompose.Sql.Token

/-!
# SqlCompose.Sql.Like -- matches of strings with patterns

A text is matched literally: every character that means something in a pattern
is escaped, where the dialect can name an escape character.
-/

namespace SqlCompose.Like

/-- The character that takes the meaning from the one after it. -/
def escapeChar : Char := '!'

/-- The characters that have to be escaped. -/
def isReserved (c : Char) : Bool := c == escapeChar || c == '%' || c == '_' || c == '['

/-- A text in which every character stands for itself. -/
def escapeText (s : String) : String :=
  String.ofList (s.toList.flatMap fun c => if isReserved c then [escapeChar, c] else [c])

/-- The pattern of a match. -/
def pattern (d : Dialect) (text : String) (mode : MatchMode) (ignoreCase : Bool) : String :=
  let text := if ignoreCase then Text.lower text else text
  mode.pattern (if d.info.likeEscape then escapeText text else text)

/-- The operand of a match, in small letters if case does not count. -/
def operand (d : Dialect) (sql : String) (ignoreCase : Bool) : String :=
  if ignoreCase then (d.function .lower).render [sql] false else sql

/-- A match of an operand with the placeholder of a pattern. -/
def tokens (d : Dialect) (operand marker : String) : List Token :=
  [Token.fragment operand, .space, .like, .space, .fragment marker] ++
    if d.info.likeEscape then
      [Token.space, .escape, .space, .string (String.singleton escapeChar)]
    else []

end SqlCompose.Like
