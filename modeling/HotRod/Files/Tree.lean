import HotRod.Action
import HotRod.Files.Basic
set_option autoImplicit false

/-!
# Trees of files

A file system as a value: regular files and directories by location, and the directory that relative
paths start from. Paths are walked component by component, so `a/../b` needs `a` to be a directory,
and a path with a final `/` leads to directories only.
-/

namespace HotRod

/-- The names from the root down to a file or directory. -/
abbrev Location := List String

inductive FileEntry where
  | file (contents : ByteArray)
  | directory

/-- The files and directories by location; the root is always a directory. -/
structure FileTree where
  entries : List (Location × FileEntry) := []
  /-- Where relative paths start. -/
  workingDirectory : Location := []

namespace FileTree

def entry? (tree : FileTree) : Location → Option FileEntry
  | [] => some .directory
  | location => (tree.entries.find? (·.1 == location)).map (·.2)

def put (tree : FileTree) (location : Location) (entry : FileEntry) : FileTree :=
  { tree with entries := (location, entry) :: tree.entries.filter (·.1 != location) }

/-- Make the directories above and at a location that do not exist yet. -/
def withDirectories (tree : FileTree) (location : Location) : FileTree :=
  ((List.range location.length).map fun depth => location.take (depth + 1)).foldl
    (fun tree above => if (tree.entry? above).isSome then tree else tree.put above .directory) tree

/-- The longest name of a file or directory, in bytes. -/
def greatestNameSize : Nat := 255

def greatestPathSize : Nat := 4095

/-- Walk on from a location, one name at a time. -/
def walk (tree : FileTree) (location : Location) : List String → Except FileFault Location
  | [] => .ok location
  | name :: rest =>
    match tree.entry? location with
    | none => .error .notFound
    | some (.file _) => .error .notDirectory
    | some .directory =>
      if name = "" ∨ name = "." then walk tree location rest
      else if name = ".." then walk tree location.dropLast rest
      else if name.utf8ByteSize > greatestNameSize then .error .nameTooLong
      else if (tree.entry? (location ++ [name])).isSome then walk tree (location ++ [name]) rest
      else .error .notFound

def names (path : String) : List String := (Path.pieces path).map String.ofList

def start (tree : FileTree) (path : String) : Location :=
  if Path.isAbsolute path then [] else tree.workingDirectory

/-- Faults of a path that are found before anything is looked up. -/
def checkPath (path : String) : Except FileFault Unit :=
  if path.toList.contains '\x00' then .error .nulInPath
  else if path.isEmpty then .error .notFound
  else if path.utf8ByteSize > greatestPathSize then .error .nameTooLong
  else .ok ()

def locate (tree : FileTree) (path : String) : Except FileFault Location := do
  checkPath path
  walk tree (tree.start path) (names path)

def lookup (tree : FileTree) (path : String) : Except FileFault FileEntry := do
  let location ← tree.locate path
  match tree.entry? location with
  | none => throw .notFound
  | some entry => return entry

def exists? (tree : FileTree) (path : String) : Bool := (tree.lookup path).toBool

def read (tree : FileTree) (path : String) : Except FileFault String := do
  match ← tree.lookup path with
  | .directory => throw .isDirectory
  | .file contents =>
    match String.fromUTF8? contents with
    | none => throw .notUtf8
    | some text => return text

def isFile (tree : FileTree) (path : String) : Bool :=
  match tree.lookup path with
  | .ok (.file _) => true
  | _ => false

def isDirectory (tree : FileTree) (path : String) : Bool :=
  match tree.lookup path with
  | .ok .directory => true
  | _ => false

def entriesAt (tree : FileTree) (location : Location) : List DirectoryEntry :=
  tree.entries.filterMap fun (place, entry) =>
    if place.dropLast = location then
      place.getLast?.map fun name => ⟨name, entry matches .directory⟩
    else none

/-- What is directly in a directory, in the order of names. -/
def list (tree : FileTree) (path : String) : Except FileFault (List DirectoryEntry) := do
  let location ← tree.locate path
  match tree.entry? location with
  | none => throw .notFound
  | some (.file _) => throw .notDirectory
  | some .directory =>
    return (tree.entriesAt location).mergeSort fun first second => first.name ≤ second.name

def view (tree : FileTree) : Files where
  read := tree.read
  isFile := tree.isFile
  isDirectory := tree.isDirectory
  list := tree.list

def makeDirectory (path : String) : Action FileTree FileFault Unit := do
  let tree ← Action.get
  Action.ofExcept (checkPath path)
  let named := (names path).reverse.dropWhile (· == "")
  match named with
  | [] => Action.fail .alreadyExists
  | name :: above =>
    let location ← Action.ofExcept (walk tree (tree.start path) above.reverse)
    match walk tree location [name] with
    | .ok _ => Action.fail .alreadyExists
    | .error .notFound =>
      if name = "." ∨ name = ".." then Action.fail .notFound
      else Action.modify (put · (location ++ [name]) .directory)
    | .error fault => Action.fail fault

/-- Make a directory unless it exists, when all above it do. -/
def settleDirectory (path : String) : Action FileTree FileFault Unit := do
  match ← Action.attempt (makeDirectory path) with
  | .ok _ => pure ()
  | .error fault => if (← Action.get).isDirectory path then pure () else Action.fail fault

def makeNested : List String → Action FileTree FileFault Unit
  | [] => pure ()
  | path :: above => do
    match ← Action.attempt (settleDirectory path) with
    | .ok _ => pure ()
    | .error .notFound =>
      makeNested above
      settleDirectory path
    | .error fault => Action.fail fault

/-- Make a directory and those above it that are missing. -/
def makeDirectories (path : String) : Action FileTree FileFault Unit :=
  makeNested (Path.ancestors path)

/-- Open a file to add to it, made empty when it is missing. -/
def openToAppend (directory name : String) : Action FileTree FileFault Unit := do
  let tree ← Action.get
  Action.ofExcept (checkPath (Path.join directory name))
  let location ← Action.ofExcept (tree.locate directory)
  match walk tree location [name] with
  | .ok place =>
    match tree.entry? place with
    | some .directory => Action.fail .isDirectory
    | _ => pure ()
  | .error .notFound => Action.modify (put · (location ++ [name]) (.file .empty))
  | .error fault => Action.fail fault

end FileTree

end HotRod
