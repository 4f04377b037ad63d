/-!
# SqlCompose.Text.Replace -- replacing a pattern in a text

Occurrences are found from the left and do not overlap. What was put in is not
searched again.
-/

namespace SqlCompose.Text

/-- Replace a pattern; `skip` counts the characters of the current occurrence
that are still to be passed. -/
def replaceFrom (pattern image : List Char) (skip : Nat) : List Char → List Char
  | [] => []
  | c :: rest =>
    match skip with
    | k + 1 => replaceFrom pattern image k rest
    | 0 =>
      if pattern.isPrefixOf (c :: rest) then
        image ++ replaceFrom pattern image (pattern.length - 1) rest
      else c :: replaceFrom pattern image 0 rest

/-- Put `image` in the place of each occurrence of a pattern that is not empty. -/
def replace (s pattern image : String) : String :=
  String.ofList (replaceFrom pattern.toList image.toList 0 s.toList)

end SqlCompose.Text
