import SqlCompose.Time.Format
import SqlCompose.Value.Basic

/-!
# SqlCompose.Value.Temporal -- dates and times as text
-/

namespace SqlCompose

/-- The text of a date, a time or a moment; other values have none. -/
def Value.isoText? : Value → Option String
  | .date d => some (Time.writeDate d)
  | .time t => some (Time.writeTime t)
  | .dateTime t => some (Time.writeDateTime t)
  | .zoned t => some (Time.writeZoned t)
  | _ => none

end SqlCompose
