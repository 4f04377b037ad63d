import SqlCompose.Resolution.Basic

/-!
# SqlCompose.Resolution.Prepare -- from placeholders to bind markers

In a finished text every placeholder is replaced by the marker of the parameter
it names, and the parameters are listed in the order of their markers. All
other characters stay, also those that only look like the start of a
placeholder.
-/

namespace SqlCompose

/-- A piece of a text with placeholders. -/
inductive TextPiece where
  | char (c : Char)
  | placeholder (number : Nat)
  deriving DecidableEq, Repr

namespace TextPiece

/-- The pieces of a text, after some characters that belong to a placeholder already. -/
def scan : Nat → List Char → List TextPiece
  | _, [] => []
  | n + 1, _ :: rest => scan n rest
  | 0, c :: rest =>
    match Placeholder.number? ((c :: rest).take Placeholder.width) with
    | some number => .placeholder number :: scan (Placeholder.width - 1) rest
    | none => .char c :: scan 0 rest

/-- The pieces of a text. -/
def ofText (s : String) : List TextPiece := scan 0 s.toList

end TextPiece

/-- A finished statement, with its parameters in the order of their markers. -/
structure SqlStatement where
  sql : String
  parameters : List Parameter

namespace Compose

/-- The parameter of a placeholder as it is bound. -/
def bindNumbered (number : Nat) : Compose BoundParameter := do
  let s ← get
  match s.parameters.numbered? number with
  | some p => resolveBound (.parameter p)
  | none => throw (.preparation (.unregistered (Placeholder.name number)))

/-- The characters and the parameters of pieces. -/
def bindPieces : List TextPiece → Compose (List Char × List Parameter)
  | [] => pure ([], [])
  | .char c :: rest => do
    let (text, parameters) ← bindPieces rest
    pure (c :: text, parameters)
  | .placeholder number :: rest => do
    let bound ← bindNumbered number
    let (text, parameters) ← bindPieces rest
    pure (bound.marker.toList ++ text, bound.parameter :: parameters)

/-- Replace the placeholders of a text by bind markers. -/
def prepare (sql : String) : Compose SqlStatement := do
  let (text, parameters) ← bindPieces (TextPiece.ofText sql)
  pure ⟨String.ofList text, parameters⟩

end Compose

end SqlCompose
