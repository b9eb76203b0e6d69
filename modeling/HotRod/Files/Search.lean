import HotRod.Files.Basic
set_option autoImplicit false

/-!
# Searching for a directory

A directory whose files are picked by a pattern of names is searched for piece by piece, from the root
or from the present directory. The path of the search grows by each piece, but the present directory
leaves no trace in it: `./a` is found as `a`, and after `./` an empty piece leads to the empty path,
where nothing is. Elsewhere an empty piece adds one `/` at most. Each path on the way has to lead to a
directory. A piece with a character that means something in patterns is not looked up by its path, but
among the names in the directory before it.
-/

namespace HotRod.Files

/-- Whether a character means something in a pattern of names. -/
def isWild (c : Char) : Bool := c == '?' || c == '*' || c == '[' || c == ']'

def descend (place piece : String) : String :=
  if place = "." then piece else Path.join place piece

/-- Where the search for a path starts, and the pieces that are left. An empty first piece is the root. -/
def origin (path : String) : String × List String :=
  match (Path.pieces path).map String.ofList with
  | "" :: rest => ("/", rest)
  | pieces => (".", pieces)

def searchFrom (files : Files) (place : String) : List String → Except FileFault (Option String)
  | [] => .ok (some place)
  | piece :: rest =>
    if piece.toList.any isWild then do
      if (← files.list place).contains ⟨piece, true⟩ then searchFrom files (descend place piece) rest
      else return none
    else if files.isDirectory (descend place piece) then searchFrom files (descend place piece) rest
    else .ok none

def search (files : Files) (path : String) : Except FileFault (Option String) :=
  searchFrom files (origin path).1 (origin path).2

/-- The paths from a place on, one piece further each. -/
def trailFrom (place : String) : List String → List String
  | [] => [place]
  | piece :: rest => place :: trailFrom (descend place piece) rest

/-- The paths that the search for a path may ask about. -/
def trail (path : String) : List String := trailFrom (origin path).1 (origin path).2

end HotRod.Files
