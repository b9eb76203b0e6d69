import HotRod.Command.Program
import HotRod.Files.Snapshot
import HotRod.Settings.Resources
set_option autoImplicit false

/-!
# The program

What a command needs from the file system is read first, then the command is run on it, and at last
its events and its output are written.
-/

namespace HotRod.Main

def codeOf : IO.Error → UInt32 × String
  | .alreadyExists _ code text | .noFileOrDirectory _ code text | .invalidArgument _ code text
  | .permissionDenied _ code text | .resourceExhausted _ code text | .inappropriateType _ code text
  | .noSuchThing _ code text | .interrupted _ code text => (code, text)
  | .otherError code text | .resourceBusy code text | .resourceVanished code text
  | .unsupportedOperation code text | .hardwareFault code text | .unsatisfiedConstraints code text
  | .illegalOperation code text | .protocolError code text | .timeExpired code text => (code, text)
  | .unexpectedEof => (0, "unexpected end of file")
  | .userError text => (0, text)

def faultOf (error : IO.Error) : FileFault :=
  let (code, text) := codeOf error
  let positive := if code < 0x80000000 then code else 0 - code
  if positive = 2 then .notFound
  else if positive = 13 then .other "Permission denied (os error 13)"
  else if positive = 17 then .alreadyExists
  else if positive = 20 then .notDirectory
  else if positive = 21 then .isDirectory
  else if positive = 36 then .nameTooLong
  else .other (text ++ " (os error " ++ Nat.repr positive.toNat ++ ")")

def atPath {α : Type} (path : String) (act : IO α) : IO (Except FileFault α) := do
  match FileTree.checkPath path with
  | .error fault => return .error fault
  | .ok () => try return .ok (← act) catch error => return .error (faultOf error)

def readText (path : String) : IO (Except FileFault String) := do
  let bytes ← atPath path (IO.FS.readBinFile path)
  return bytes.bind fun bytes => (String.fromUTF8? bytes).elim (.error .notUtf8) .ok

def isRegular (path : String) : IO Bool := do
  let place := (← IO.currentDir) / path
  return match ← atPath path place.metadata with
    | .ok metadata => metadata.type == .file
    | .error _ => false

def isDirectory (path : String) : IO Bool := do
  let place := (← IO.currentDir) / path
  return match ← atPath path place.metadata with
    | .ok metadata => metadata.type == .dir
    | .error _ => false

def listDirectory (path : String) : IO (Except FileFault (List DirectoryEntry)) := do
  let place := (← IO.currentDir) / path
  match ← atPath path place.readDir with
  | .error fault => return .error fault
  | .ok entries =>
    let listed ← entries.mapM fun entry =>
      return ⟨entry.fileName, ← isDirectory entry.path.toString⟩
    return .ok (listed.toList.mergeSort fun first second => first.name ≤ second.name)

def readAll (paths : List String) (snapshot : Snapshot) : IO Snapshot :=
  paths.foldlM (fun snapshot path => return snapshot.putText path (← readText path)) snapshot

def lookAt (snapshot : Snapshot) (path : String) : IO Snapshot := do
  if snapshot.listings.contains path then return snapshot
  let listed := snapshot.putListing path (← listDirectory path)
  return if ← isDirectory path then listed.putDirectory path else listed

def readFile (snapshot : Snapshot) (path : String) : IO Snapshot := do
  let complete := snapshot.putText path (← readText path)
  return if ← isRegular path then complete.putRegular path else complete

def readDirectory (path : String) (snapshot : Snapshot) : IO Snapshot := do
  let listed ← (path :: Files.trail path).foldlM lookAt snapshot
  match SchemaSource.candidates listed.view path with
  | .error _ => return listed
  | .ok found => (found.map (·.2)).foldlM readFile listed

def directoryOf : Command.Request → Option String
  | .schemas _ directory => some directory
  | .check _ _ directory => directory
  | .clients | .describe _ _ => none

def prepare (defaultPath? : Option String) (invocation : Command.Invocation) : IO Snapshot := do
  let path? := invocation.config.or defaultPath?
  let start ← path?.toList.foldlM readFile {}
  let loaded : Action Unit CommandError ClientsSettings :=
    Command.loadSettings start.view defaultPath? invocation.config
  match (loaded.run ()).result with
  | .error _ => return start
  | .ok settings =>
    let complete ← readAll settings.resources start
    match directoryOf invocation.request with
    | some directory => readDirectory directory complete
    | none => return complete

/-- Make the first of some nested directories, listed from the innermost outwards. -/
def makeDirectories : List String → IO (Except FileFault Unit)
  | [] => return .ok ()
  | path :: above => do
    match ← settle path with
    | .error .notFound =>
      match ← makeDirectories above with
      | .ok () => settle path
      | .error fault => return .error fault
    | result => return result
where
  settle (path : String) : IO (Except FileFault Unit) := do
    match ← atPath path (IO.FS.createDir path) with
    | .ok () => return .ok ()
    | .error fault => return if ← isDirectory path then .ok () else .error fault

def openLog (path : String) : IO (Except LoggingError IO.FS.Stream) := do
  let (directory, name) := Logging.placeOf path
  match ← makeDirectories (Path.ancestors directory) with
  | .error fault => return .error (.createDirectory directory fault)
  | .ok () =>
    let file := Path.join directory name
    return (← atPath file (IO.FS.Handle.mk file .append)).map IO.FS.Stream.ofHandle
      |>.mapError (.openFile path)

def openSink : Option String → IO (Except LoggingError IO.FS.Stream)
  | none => return .ok (← IO.getStderr)
  | some path => openLog path

def threshold (verbose : Bool) : Level := if verbose then .debug else .info

def eventLine (event : Event) : String :=
  Text.padStart 5 event.level.name ++ " " ++ event.message ++
    String.join (event.fields.map fun (name, value) => " " ++ name ++ "=" ++ value)

def writeEvents (sink : IO.FS.Stream) (verbose : Bool) (events : List Event) : IO Unit :=
  (events.filter fun event => (threshold verbose).rank ≤ event.level.rank).forM fun event =>
    sink.putStrLn (eventLine event)

def finish (ending : Command.Ending) : IO UInt32 := do
  (← IO.getStdout).putStr ending.output
  (← IO.getStderr).putStr ending.errors
  return ending.exitCode.toUInt32

/-- Where settings are looked for when no file is given. -/
def defaultPath? : IO (Option String) := do
  let directory := match ← IO.getEnv "XDG_CONFIG_HOME" with
    | some directory => if Path.isAbsolute directory then some directory else none
    | none => none
  let home := (← IO.getEnv "HOME").map (Path.join · ".config")
  return (directory.or home).map (Path.join · "hotrod-clients/clients.ini")

def invoke (invocation : Command.Invocation) : IO UInt32 := do
  match ← openSink invocation.logFile with
  | .error error => finish (.ofResult (.error (.logging error)))
  | .ok sink =>
    let path? ← defaultPath?
    let snapshot ← prepare path? invocation
    let command : Action Unit CommandError String :=
      Command.invoke snapshot.view path? invocation
    let done := command.run ()
    writeEvents sink invocation.verbose done.events
    finish (.ofResult done.result)

end HotRod.Main

def main (arguments : List String) : IO UInt32 :=
  match HotRod.Command.Invocation.read arguments with
  | .error stop => HotRod.Main.finish (.ofStop stop)
  | .ok invocation => HotRod.Main.invoke invocation
