import HotRod.Text.Split
set_option autoImplicit false

/-!
# Paths

A path is a text whose pieces are separated by `/`. A piece that is empty or `.` names nothing of its
own, unless it comes first: an empty first piece is the root, and a first `.` is a component. A path
is shown as it is given; its directory and its file name are read off its components.
-/

namespace HotRod.Path

def pieces (path : String) : List (List Char) := path.toList.splitOn '/'

def ofPieces (pieces : List (List Char)) : String := .ofList (['/'].intercalate pieces)

def isAbsolute (path : String) : Bool := ['/'].isPrefixOf path.toList

/-- A path below a directory; an absolute path stays as it is. -/
def join (directory path : String) : String :=
  if isAbsolute path || directory.isEmpty then path
  else if ['/'].isSuffixOf directory.toList then directory ++ path
  else directory ++ "/" ++ path

/-- Whether a piece other than the first names nothing of its own. -/
def isIdle (piece : List Char) : Bool := piece.isEmpty || piece == ['.']

/-- Drop idle pieces from the end, but never the first piece. -/
def dropIdle (pieces : List (List Char)) : List (List Char) :=
  match pieces with
  | [] => []
  | first :: rest => first :: (rest.reverse.dropWhile isIdle).reverse

/-- The directory part of a path; none for the root and for the empty path. -/
def parent? (path : String) : Option String :=
  match dropIdle (pieces path) with
  | [] | [[]] => none
  | [_] => some ""
  | components =>
    match dropIdle components.dropLast with
    | [[]] => some "/"
    | front => some (ofPieces front)

/-- The last component of a path, if it names something in a directory. -/
def fileName? (path : String) : Option String :=
  match dropIdle (pieces path) with
  | [] | [[]] => none
  | components =>
    match components.getLast? with
    | none => none
    | some name => if name == ['.'] || name == ['.', '.'] then none else some (.ofList name)

def directoryOf (path : String) : String :=
  match parent? path with
  | some directory => if directory.isEmpty then "." else directory
  | none => "."

/-- A path and the directories above it, up to a number of steps. -/
def climb : Nat → String → List String
  | 0, _ => []
  | steps + 1, path =>
    path :: match parent? path with
      | none => []
      | some above => if above.isEmpty then [] else climb steps above

/-- A path and the directories above it, as far as they are named. Each is shorter than the one
before, so its length bounds their number. -/
def ancestors (path : String) : List String := climb path.length path

end HotRod.Path
