import SqlCompose.Error

/-!
# SqlCompose.Value.Stream -- content that can be read once

A stream value is a handle; what stands behind the handles lives in a store.
Reading takes the content out of the store, whether or not it can be read, so a
second read through any copy of the handle finds nothing.
-/

namespace SqlCompose

/-- What a handle leads to. -/
inductive StreamSource where
  | content (bytes : List UInt8)
  | failing (message : String)
  | consumed
  deriving DecidableEq, Repr

/-- A stream is known by its place in the store. Two handles are equal when they
lead to the same place. -/
structure StreamHandle where
  index : Nat
  deriving DecidableEq, Repr

/-- The sources behind all handles handed out so far. -/
structure StreamStore where
  sources : List StreamSource := []
  deriving DecidableEq, Repr

namespace StreamStore

/-- What stands behind a handle. -/
def source (s : StreamStore) (h : StreamHandle) : StreamSource := s.sources.getD h.index .consumed

/-- A new handle for a source. -/
def add (s : StreamStore) (source : StreamSource) : StreamHandle × StreamStore :=
  (⟨s.sources.length⟩, ⟨s.sources ++ [source]⟩)

/-- The content behind a handle, and the store without it. -/
def read (s : StreamStore) (h : StreamHandle) : Except SqlError (List UInt8) × StreamStore :=
  let rest : StreamStore := ⟨s.sources.set h.index .consumed⟩
  match s.source h with
  | .content bytes => (.ok bytes, rest)
  | .failing message => (.error (.conversion (.streamUnreadable message)), rest)
  | .consumed => (.error (.conversion .streamConsumed), rest)

end StreamStore

/-- Computations that may read streams and may fail; what was read stays read. -/
abbrev Streaming := ExceptT SqlError (StateM StreamStore)

namespace Streaming

/-- A result that was reached without reading. -/
def ofResult (x : Except SqlError α) : Streaming α := fun s => (x, s)

/-- The bytes behind a handle. -/
def readBytes (h : StreamHandle) : Streaming (List UInt8) := fun s => s.read h

/-- Bytes as text. -/
def textOf (bytes : List UInt8) : Except SqlError String :=
  match Text.Utf8.decode bytes with
  | .ok s => .ok s
  | .error fault => .error (.conversion (.streamNotText fault))

/-- The text behind a handle. -/
def readText (h : StreamHandle) : Streaming String := do
  let bytes ← readBytes h
  ofResult (textOf bytes)

/-- A new handle for bytes in memory. -/
def openBytes (bytes : List UInt8) : Streaming StreamHandle := fun s =>
  let (h, s) := s.add (.content bytes)
  (.ok h, s)

/-- A new handle for text in memory. -/
def openText (text : String) : Streaming StreamHandle := openBytes (Text.Utf8.encode text)

end Streaming

end SqlCompose
