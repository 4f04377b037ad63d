import SqlCompose.Expression.Basic
import SqlCompose.Text.Replace

/-!
# SqlCompose.Dialect.Function -- how functions are written
-/

namespace SqlCompose

/-- A way to write a function. -/
inductive SqlFunction where
  /-- The name with the arguments in parentheses. -/
  | call (name : String)
  /-- A keyword that takes no arguments. -/
  | keyword (text : String)
  /-- A text with numbered slots for the arguments. -/
  | template (text : String)
  deriving DecidableEq, Repr

namespace SqlFunction

/-- The slot of an argument in a template. -/
def slot (i : Nat) : String := "\x7b" ++ toString i ++ "\x7d"

/-- Fill the slots one argument after the other, beginning with slot `i`. -/
def fillSlots (i : Nat) (text : String) : List String → String
  | [] => text
  | arg :: rest => fillSlots (i + 1) (Text.replace text (slot i) arg) rest

/-- Write a function with arguments that are already SQL. A count of nothing counts rows. -/
def render (f : SqlFunction) (args : List String) (distinct : Bool) : String :=
  match f with
  | .call name =>
    let list :=
      if args.isEmpty && Text.sameIgnoringAsciiCase name "COUNT" then "*" else ", ".intercalate args
    name ++ "(" ++ (if distinct then "DISTINCT " else "") ++ list ++ ")"
  | .keyword text => text
  | .template text => fillSlots 0 text args

/-- The standard way to take a part out of a date or time. -/
def extract (part : String) : SqlFunction :=
  .template ("EXTRACT(" ++ part ++ " FROM " ++ slot 0 ++ ")")

/-- The standard way to write a function. -/
def standard : FunctionKind → SqlFunction
  | .currentDate => .keyword "CURRENT_DATE"
  | .currentTimestamp => .keyword "CURRENT_TIMESTAMP"
  | .year => extract "YEAR"
  | .month => extract "MONTH"
  | .day => extract "DAY"
  | .hour => extract "HOUR"
  | .custom name => .call (Text.upper name)
  | kind => .call kind.name

/-- The parts of dates and times as functions named after the part. -/
def namedPart : FunctionKind → Option SqlFunction
  | .year => some (.template ("YEAR(" ++ slot 0 ++ ")"))
  | .month => some (.template ("MONTH(" ++ slot 0 ++ ")"))
  | .day => some (.template ("DAY(" ++ slot 0 ++ ")"))
  | .hour => some (.template ("HOUR(" ++ slot 0 ++ ")"))
  | _ => none

end SqlFunction

end SqlCompose
