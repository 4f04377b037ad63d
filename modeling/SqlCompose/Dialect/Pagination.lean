import SqlCompose.Text.Blank
import SqlCompose.Text.Letter

/-!
# SqlCompose.Dialect.Pagination -- keeping a page of the rows

There are five ways to ask for `limit` rows after the first `offset`. Two put a
clause at the end of the statement, one needs an ORDER BY before it, and two
wrap the statement and filter on a row number. A negative offset skips nothing.
-/

namespace SqlCompose

/-! ## Does the outermost statement sort? -/

namespace Pagination

/-- The text after the words ORDER BY at the front, in any case and with any
blanks between them. -/
def afterOrderBy? (cs : List Char) : Option (List Char) :=
  if (cs.take 5).map Char.toLower = ['o', 'r', 'd', 'e', 'r'] then
    let rest := cs.drop 5
    let next := Text.trimFront rest
    if next.length < rest.length ∧ (next.take 2).map Char.toLower = ['b', 'y'] then
      some (next.drop 2)
    else none
  else none

/-- The words ORDER BY stand at the front and end there. -/
def opensOrderBy (cs : List Char) : Bool :=
  match afterOrderBy? cs with
  | some [] => true
  | some (c :: _) => !Text.isWordChar c
  | none => false

/-- Look for ORDER BY outside parentheses and string literals. `inWord` tells
whether the character before is part of a word. -/
def sortsFrom (inWord inQuote : Bool) (depth : Nat) : List Char → Bool
  | [] => false
  | c :: rest =>
    (!inWord && !inQuote && depth == 0 && opensOrderBy (c :: rest)) ||
      sortsFrom (Text.isWordChar c)
        (if c = '\'' then !inQuote else inQuote)
        (if inQuote then depth
          else if c = '(' then depth + 1 else if c = ')' then depth - 1 else depth)
        rest

/-- Whether a statement sorts its outermost rows. An ORDER BY inside parentheses
or in a string literal belongs to something else. -/
def hasOuterOrderBy (sql : String) : Bool := sortsFrom false false 0 sql.toList

/-! ## The five ways -/

/-- The largest row count that can be written. -/
def maxCount : Nat := 18446744073709551615

/-- The last row to keep; a count past the largest one is the largest one. -/
def upperRow (limit offset : Nat) : Nat := min (limit + offset) maxCount

/-- A clause with the limit and, where rows are skipped or an offset of none is
given, the offset. -/
def limitOffset (sql : String) (limit : Nat) (offset : Int) : String :=
  if offset ≥ 0 then sql ++ s!" limit {limit} offset {offset}" else sql ++ s!" limit {limit}"

/-- A clause that fetches rows, after skipping some where an offset is given. -/
def offsetFetch (sql : String) (limit : Nat) (offset : Int) : String :=
  if offset < 0 then sql ++ s!" FETCH FIRST {limit} ROWS ONLY"
  else sql ++ s!" OFFSET {offset} ROWS FETCH NEXT {limit} ROWS ONLY"

/-- A clause that always skips and then fetches, and that has to follow an ORDER BY. -/
def offsetFetchRequired (sql : String) (limit : Nat) (offset : Int) (ordered : Bool) : String :=
  sql ++ (if ordered then "" else " ORDER BY (SELECT NULL)") ++
    s!" OFFSET {offset.toNat} ROWS FETCH NEXT {limit} ROWS ONLY"

/-- A filter on the number that the database gives to each row it returns. -/
def rowNum (sql : String) (limit : Nat) (offset : Int) : String :=
  if offset ≤ 0 then "select * from ( " ++ sql ++ s!" ) where rownum <= {limit}"
  else
    "select * from ( select row_.*, rownum rownum_ from ( " ++ sql ++
      s!" ) row_ where rownum <= {upperRow limit offset.toNat}) where rownum_ > {offset}"

/-- A filter on a row number that the statement computes itself. -/
def rowNumber (sql : String) (limit : Nat) (offset : Int) (function : String) : String :=
  "select * from ( select inner_.*, " ++ function ++ " as rownumber_ from ( " ++ sql ++
    s!" ) inner_ ) outer_ where rownumber_ > {offset.toNat}" ++
    s!" and rownumber_ <= {upperRow limit offset.toNat} order by rownumber_"

end Pagination

/-- How a dialect keeps a page of the rows. -/
inductive LimitStyle where
  | limitOffset
  | offsetFetch
  | offsetFetchRequired
  | rowNum
  | rowNumber (function : String)
  deriving DecidableEq, Repr

/-- Apply a style to a statement; `ordered` tells whether it sorts its outermost rows. -/
def LimitStyle.apply (style : LimitStyle) (sql : String) (limit : Nat) (offset : Int)
    (ordered : Bool) : String :=
  match style with
  | .limitOffset => Pagination.limitOffset sql limit offset
  | .offsetFetch => Pagination.offsetFetch sql limit offset
  | .offsetFetchRequired => Pagination.offsetFetchRequired sql limit offset ordered
  | .rowNum => Pagination.rowNum sql limit offset
  | .rowNumber function => Pagination.rowNumber sql limit offset function

end SqlCompose
