/-!
# SqlCompose.Text.Quoted -- text between single quotes

Between the quotes of a SQL string every quote of the text is written twice.
Databases that read a backslash as an escape have it written twice as well.
-/

namespace SqlCompose.Text.Quoted

/-- Write every occurrence of `mark` twice. -/
def doubled (mark : Char) : List Char → List Char
  | [] => []
  | c :: rest => if c = mark then mark :: mark :: doubled mark rest else c :: doubled mark rest

/-- Write every single quote of a text twice. -/
def doubleQuotes (s : String) : String := String.ofList (doubled '\'' s.toList)

/-- Write every backslash of a text twice. -/
def doubleBackslashes (s : String) : String := String.ofList (doubled '\\' s.toList)

/-- A text as one string between single quotes. -/
def quote (s : String) : String := "'" ++ doubleQuotes s ++ "'"

/-- Read each pair of quotes as one. -/
def halved : List Char → List Char
  | [] => []
  | '\'' :: '\'' :: rest => '\'' :: halved rest
  | c :: rest => c :: halved rest

theorem halved_doubled (s : List Char) : halved (doubled '\'' s) = s := by
  induction s with
  | nil => rfl
  | cons c rest ih =>
    by_cases h : c = '\''
    · simp [doubled, h, halved, ih]
    · have hstep : ∀ t : List Char, halved (c :: t) = c :: halved t := by
        intro t
        rw [halved]
        intro r hc _
        exact absurd hc h
      simp [doubled, h, hstep, ih]

end SqlCompose.Text.Quoted
