import HotRod.Files.Path
set_option autoImplicit false

/-!
# Files

What the file system answers about paths. Everything that reads files takes these answers as a value,
so the same settings and the same files always give the same result.
-/

namespace HotRod

/-- Why a file operation failed. -/
inductive FileFault where
  | notFound
  | alreadyExists
  | notDirectory
  | isDirectory
  | nameTooLong
  | notUtf8
  | nulInPath
  | other (text : String)
  deriving DecidableEq, Repr

def FileFault.message : FileFault → String
  | .notFound => "No such file or directory (os error 2)"
  | .alreadyExists => "File exists (os error 17)"
  | .notDirectory => "Not a directory (os error 20)"
  | .isDirectory => "Is a directory (os error 21)"
  | .nameTooLong => "File name too long (os error 36)"
  | .notUtf8 => "stream did not contain valid UTF-8"
  | .nulInPath => "file name contained an unexpected NUL byte"
  | .other text => text

/-- A name in a directory, and whether it leads to a directory. -/
structure DirectoryEntry where
  name : String
  isDirectory : Bool
  deriving DecidableEq, Repr

/-- The answers of a file system. -/
structure Files where
  /-- The text of the file at a path. -/
  read : String → Except FileFault String
  /-- Whether a path leads to a regular file. -/
  isFile : String → Bool
  /-- Whether a path leads to a directory. -/
  isDirectory : String → Bool
  /-- What is directly in a directory, in the order of names. -/
  list : String → Except FileFault (List DirectoryEntry)

end HotRod
