/-!
# SqlCompose.Text.Blank -- blank characters

A character is blank when Unicode gives it the property White_Space. Names and
fragments that hold blanks only count as empty, and readers of values trim
blanks from both ends.
-/

namespace SqlCompose.Text

/-- The characters with the property White_Space. -/
def isBlank (c : Char) : Bool :=
  let n := c.toNat
  (9 ≤ n && n ≤ 13) || n == 0x20 || n == 0x85 || n == 0xa0 || n == 0x1680 ||
    (0x2000 ≤ n && n ≤ 0x200a) || n == 0x2028 || n == 0x2029 || n == 0x202f ||
    n == 0x205f || n == 0x3000

/-- Drop the blanks at the front. -/
def trimFront (cs : List Char) : List Char := cs.dropWhile isBlank

/-- Drop the blanks at the end. -/
def trimBack (cs : List Char) : List Char := (cs.reverse.dropWhile isBlank).reverse

/-- Drop the blanks at both ends. -/
def trimmed (cs : List Char) : List Char := trimBack (trimFront cs)

/-- Drop the blanks at both ends of a string. -/
def trim (s : String) : String := String.ofList (trimmed s.toList)

/-- A string that holds nothing but blanks. -/
def allBlank (s : String) : Bool := s.toList.all isBlank

end SqlCompose.Text
