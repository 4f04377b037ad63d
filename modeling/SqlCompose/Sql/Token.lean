import SqlCompose.Dialect.Basic
import SqlCompose.Expression.Model

/-!
# SqlCompose.Sql.Token -- the words of a statement

Statements are put together from tokens. A token is written the same way in all
dialects except for string literals.
-/

namespace SqlCompose

/-- A word, a mark, a name or a piece of finished SQL. -/
inductive Token where
  | select
  | distinct
  | from
  | where
  | orderBy
  | as
  | on
  | join (kind : JoinKind)
  | and
  | or
  | not
  | exists
  | in
  | between
  | like
  | escape
  | isNull
  | isNotNull
  | insert
  | into
  | values
  | update
  | set
  | delete
  | comma
  | star
  | leftParen
  | rightParen
  | eq
  | ne
  | lt
  | gt
  | lte
  | gte
  | space
  /-- A table, a column or an alias, as given. -/
  | ident (name : String)
  /-- A table with its schema. -/
  | qualified (schema : Option String) (name : String)
  /-- A string literal, quoted for the dialect. -/
  | string (s : String)
  /-- SQL that is finished already. -/
  | fragment (sql : String)
  deriving DecidableEq, Repr

namespace Token

/-- The tokens that are written the same everywhere and carry no text. -/
def fixed : List Token :=
  [.select, .distinct, .from, .where, .orderBy, .as, .on, .join .inner, .join .left, .join .right,
   .join .full, .and, .or, .not, .exists, .in, .between, .like, .escape, .isNull, .isNotNull,
   .insert, .into, .values, .update, .set, .delete, .comma, .star, .leftParen, .rightParen, .eq,
   .ne, .lt, .gt, .lte, .gte, .space]

/-- The text of a token. -/
def text (d : Dialect) : Token → String
  | .select => "SELECT"
  | .distinct => "DISTINCT"
  | .from => "FROM"
  | .where => "WHERE"
  | .orderBy => "ORDER BY"
  | .as => "AS"
  | .on => "ON"
  | .join kind => kind.keyword
  | .and => "AND"
  | .or => "OR"
  | .not => "NOT"
  | .exists => "EXISTS"
  | .in => "IN"
  | .between => "BETWEEN"
  | .like => "LIKE"
  | .escape => "ESCAPE"
  | .isNull => "IS NULL"
  | .isNotNull => "IS NOT NULL"
  | .insert => "INSERT"
  | .into => "INTO"
  | .values => "VALUES"
  | .update => "UPDATE"
  | .set => "SET"
  | .delete => "DELETE"
  | .comma => ","
  | .star => "*"
  | .leftParen => "("
  | .rightParen => ")"
  | .eq => "="
  | .ne => "<>"
  | .lt => "<"
  | .gt => ">"
  | .lte => "<="
  | .gte => ">="
  | .space => " "
  | .ident name => name
  | .qualified schema name => TableName.qualified ⟨schema, name⟩
  | .string s => d.vendor.quote s
  | .fragment sql => sql

end Token

/-- The text of tokens in order. -/
def sqlText (d : Dialect) (tokens : List Token) : String := String.join (tokens.map (Token.text d))

/-- Finished pieces with a comma and a space between them. -/
def commaSeparated : List String → List Token
  | [] => []
  | [item] => [.fragment item]
  | item :: rest => .fragment item :: .comma :: .space :: commaSeparated rest

end SqlCompose
