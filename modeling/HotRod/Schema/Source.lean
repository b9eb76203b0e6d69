import HotRod.Action
import HotRod.Files.Search
import HotRod.KeyMap
import HotRod.Schema.Context
set_option autoImplicit false

/-!
# Schema sources

A named set of schema files, given directly or read from a directory: the regular files directly in
it whose name ends in `.proto`, by name.
-/

namespace HotRod

abbrev SchemaSource := KeyMap String

namespace SchemaSource

/-- What is named like a schema file in a directory, by name and path. A directory that is not found
has nothing. -/
def candidates (files : Files) (directory : String) : Except FileFault (List (String × String)) := do
  match ← files.search directory with
  | none => return []
  | some place =>
    let names := (← files.list place).map (·.name)
    let found := names.filter fun name => schemaExtension.toList.isSuffixOf name.toList
    return found.map fun name => (name, Files.descend place name)

def readNamed (files : Files) (source : SchemaSource) :
    List (String × String) → Except FileFault SchemaSource
  | [] => .ok source
  | (name, path) :: rest => do
    let contents ← files.read path
    readNamed files (source.insert name contents) rest

/-- The schema files of a directory: those candidates that are regular files. -/
def ofDirectory (files : Files) (directory : String) : Except FileFault SchemaSource := do
  let found ← candidates files directory
  readNamed files ∅ (found.filter fun (_, path) => files.isFile path)

/-- Read the schema files of a directory, and say how many there are. -/
def fromDirectory {σ : Type} (files : Files) (directory : String) : Action σ FileFault SchemaSource := do
  let source ← Action.ofExcept (ofDirectory files directory)
  Action.emit ⟨.debug, "Loaded schema files",
    [("dir", directory), ("files", Nat.repr source.size)]⟩
  return source

end SchemaSource

end HotRod
