import SqlCompose.Text.CaseTables
import SqlCompose.Text.ClassTables
import SqlCompose.Text.CasingTables

/-!
# SqlCompose.Text.Letter -- letter case and character classes

Small and capital letters over all of Unicode, with the mappings that change
the number of letters, and the classes that decide where a name ends. ASCII is
decided directly and never looks into a table.
-/

namespace SqlCompose.Text

/-- Whether a code point lies in one of the given ranges. -/
def inRanges (ranges : List (Nat × Nat)) (n : Nat) : Bool :=
  ranges.any fun r => r.1 ≤ n && n ≤ r.2

/-! ## Classes -/

/-- Letters and numbers. -/
def isAlphanumeric (c : Char) : Bool :=
  if c.toNat < 128 then c.isAlphanum else inRanges alphanumericRanges c.toNat

/-- The characters words are made of: letters, marks, digits, joiners and the underscore. -/
def isWordChar (c : Char) : Bool :=
  if c.toNat < 128 then c.isAlphanum || c == '_' else inRanges wordRanges c.toNat

/-! ## Case of one letter -/

/-- The image of a code point under the first run that holds it. -/
def CaseRun.apply? (runs : List CaseRun) (n : Nat) : Option Nat :=
  (runs.find? fun r => r.first ≤ n && n ≤ r.last && (n - r.first) % r.step == 0).map
    fun r => r.image + (n - r.first)

/-- The small form of a letter. One letter, a capital I with a dot, gives two characters. -/
def lowerChar (c : Char) : List Char :=
  if c.toNat < 128 then [c.toLower]
  else if c.toNat = 0x130 then ['i', Char.ofNat 0x307]
  else match CaseRun.apply? lowerRuns c.toNat with
    | some n => [Char.ofNat n]
    | none => [c]

/-- The capital form of a letter, which may be a sequence of letters. -/
def upperChar (c : Char) : List Char :=
  if c.toNat < 128 then [c.toUpper]
  else match upperSequences.find? (·.1 == c.toNat) with
    | some (_, image) => image.map Char.ofNat
    | none =>
      match CaseRun.apply? upperRuns c.toNat with
      | some n => [Char.ofNat n]
      | none => [c]

/-! ## Case of a text -/

/-- Past the characters that casing looks through, the next one has case. -/
def meetsCased (cs : List Char) : Bool :=
  match cs.dropWhile (fun c => inRanges caseIgnorableRanges c.toNat) with
  | [] => false
  | c :: _ => inRanges casedRanges c.toNat

/-- The capital sigma. -/
def capitalSigma : Char := Char.ofNat 0x3a3

/-- Small letters of `cs`, where `before` holds the characters already passed,
latest first. A capital sigma that ends a word takes its final form. -/
def lowerFrom (before : List Char) : List Char → List Char
  | [] => []
  | c :: rest =>
    let image :=
      if c = capitalSigma then
        if meetsCased before && !meetsCased rest then [Char.ofNat 0x3c2] else [Char.ofNat 0x3c3]
      else lowerChar c
    image ++ lowerFrom (c :: before) rest

/-- A string in small letters. -/
def lower (s : String) : String := String.ofList (lowerFrom [] s.toList)

/-- A string in capital letters. -/
def upper (s : String) : String := String.ofList (s.toList.flatMap upperChar)

/-- Equality that ignores the case of ASCII letters. -/
def sameIgnoringAsciiCase (a b : String) : Bool :=
  a.toList.map Char.toLower == b.toList.map Char.toLower

end SqlCompose.Text
