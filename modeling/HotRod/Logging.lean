import HotRod.Files.Tree
set_option autoImplicit false

/-!
# Log files

Logging is set up once in a process. A log file is opened to add to it, and its directory is made
before; both happen even when logging is set up already, which is refused last.
-/

namespace HotRod

inductive LoggingError where
  | createDirectory (path : String) (fault : FileFault)
  | openFile (path : String) (fault : FileFault)
  | install
  deriving DecidableEq, Repr

def LoggingError.message : LoggingError → String
  | .createDirectory path fault => "failed to create log directory " ++ path ++ ": " ++ fault.message
  | .openFile path fault =>
    "failed to open log file " ++ path ++ ": failed to create log file: " ++ fault.message
  | .install =>
    "failed to install tracing subscriber: a global default trace dispatcher has already been set"

namespace Logging

/-- The name of a log file whose path names only a directory. -/
def defaultFileName : String := "hotrod-clients.log"

def placeOf (path : String) : String × String :=
  (Path.directoryOf path, (Path.fileName? path).getD defaultFileName)

/-- Make the directory of a log file and open the file. -/
def openFile (path : String) : Action FileTree LoggingError Unit := do
  let (directory, name) := placeOf path
  (FileTree.makeDirectories directory).mapError (LoggingError.createDirectory directory)
  (FileTree.openToAppend directory name).mapError (LoggingError.openFile path)

/-- Set logging up, with a log file if one is given. -/
def setUp (installed : Bool) (logFile : Option String) : Action FileTree LoggingError Unit := do
  match logFile with
  | none => pure ()
  | some path => openFile path
  if installed then Action.fail .install else pure ()

end Logging

end HotRod
