import SqlCompose.Settings.Basic
import SqlCompose.Text.Pieces

/-!
# SqlCompose.Settings.Files -- where settings are looked for

Settings stand in a file that a variable names, else in a file of the working
directory, else in a file of the user. The first of these that exists counts,
even if it cannot be read; without any the defaults are in effect.
-/

namespace SqlCompose

/-- What stands at a path. -/
inductive FileNode where
  | file (bytes : List UInt8)
  | directory
  deriving DecidableEq, Repr

/-- The files that can hold settings: those of the working directory by their
paths, and the user's own. -/
structure SettingsFiles where
  working : List (List String × FileNode)
  user : Option FileNode

namespace SettingsFiles

/-- The names of a path as it is written, without those that stay in place. -/
def names (path : String) : List String :=
  let (first, others) := Text.pieces '/' path.toList
  ((first :: others).map String.ofList).filter fun name => name != "" && name != "."

/-- Files of the working directory by their paths as they are written. -/
def ofPaths (files : List (String × FileNode)) (user : Option FileNode) : SettingsFiles :=
  ⟨files.map fun (path, node) => (names path, node), user⟩

/-- The file of the working directory that is looked for. -/
def localName : String := "relsql.toml"

/-- What stands at a path of names. The directories on the way to a file exist
because the file does. -/
def node? (files : SettingsFiles) (path : List String) : Option FileNode :=
  match files.working.reverse.lookup path with
  | some node => some node
  | none =>
    if path.isEmpty || files.working.any fun entry => path.isPrefixOf entry.1 then some .directory
    else none

/-- Follow the names of a path from a place. A dot stays, two dots go back, and
every place on the way is a directory. The names of the place stand in reverse. -/
def follow (files : SettingsFiles) : List String → List String → Option FileNode
  | place, [] => files.node? place.reverse
  | place, name :: rest =>
    match files.node? place.reverse with
    | some .directory =>
      if name = "" ∨ name = "." then files.follow place rest
      else if name = ".." then
        if place.isEmpty then none else files.follow place.tail rest
      else files.follow (name :: place) rest
    | _ => none

/-- What stands at a path as it is written. A path from the root of the file
system leaves the working directory. -/
def find? (files : SettingsFiles) (path : String) : Option FileNode :=
  let (first, others) := Text.pieces '/' path.toList
  if first.isEmpty then none else files.follow [] ((first :: others).map String.ofList)

end SettingsFiles

namespace Settings

/-- The settings of a file that exists. -/
def readNode : FileNode → Except SettingsError Settings
  | .directory => .error .unreadable
  | .file bytes =>
    match Text.Utf8.decode bytes with
    | .ok text => parse text
    | .error _ => .error .unreadable

/-- The settings of the file at a path. -/
def fromFile (files : SettingsFiles) (path : String) : Except SettingsError Settings :=
  match files.find? path with
  | some node => readNode node
  | none => .error (.fileNotFound path)

/-- The settings in effect; `named` is the path that the variable holds. -/
def load (files : SettingsFiles) (named : Option String) : Except SettingsError Settings :=
  match named with
  | some path => fromFile files path
  | none =>
    match files.find? SettingsFiles.localName with
    | some node => readNode node
    | none =>
      match files.user with
      | some node => readNode node
      | none => .ok {}

end Settings

end SqlCompose
