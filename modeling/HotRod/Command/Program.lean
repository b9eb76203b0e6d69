import HotRod.Command.Arguments
import HotRod.Command.Check
import HotRod.Command.Clients
import HotRod.Command.Describe
import HotRod.Command.Schemas
set_option autoImplicit false

/-!
# The command-line program

An invocation sets logging up and then carries its request out. What is asked for is printed, or else
the error, which also makes the exit code one; arguments that make no sense make it two.
-/

namespace HotRod.Command

/-- What a run of the program leaves behind for its caller. -/
structure Ending where
  exitCode : UInt8 := 0
  output : String := ""
  errors : String := ""
  deriving DecidableEq, Repr

def versionText : String := "hotrod-clients 0.1.0\n"

def helpText : String :=
  "Inspect and check named Hot Rod client configurations\n\n" ++
    "Usage: hotrod-clients [OPTIONS] <COMMAND>\n\n" ++
    "Commands:\n" ++
    "  clients                            List configured clients\n" ++
    "  describe [CLIENT] [--json]         Show the resolved configuration of a client\n" ++
    "  schemas [CLIENT] --proto-dir DIR   Show which schema files a client would register\n" ++
    "  check [CLIENT] [--cache NAME] [--proto-dir DIR]\n" ++
    "                                     Start a client and resolve a cache\n\n" ++
    "Options:\n" ++
    "      --config FILE                  Clients configuration file\n" ++
    "  -v, --verbose                      Enable debug logging\n" ++
    "      --log-file FILE                Write logs to this file instead of stderr\n" ++
    "  -h, --help                         Print help\n" ++
    "  -V, --version                      Print version\n"

namespace Ending

/-- The end of a run whose arguments ask for nothing to be done. -/
def ofStop : Stop → Ending
  | .usage => { exitCode := 2, errors := "error: invalid arguments\n\n" ++ helpText }
  | .help => { output := helpText }
  | .version => { output := versionText }

def ofResult : Except CommandError String → Ending
  | .ok output => { output }
  | .error error => { exitCode := 1, errors := "Error: " ++ error.message ++ "\n" }

end Ending

def perform {σ : Type} (files : Files) (settings : ClientsSettings) :
    Request → Action σ CommandError String
  | .clients => pure (clientsReport settings)
  | .describe client json => describe files settings client json
  | .schemas client directory => do
    let report ← schemas files settings client directory
    return report.text
  | .check client cache directory => do
    let report ← check files settings client cache directory
    return report.text

/-- Read the settings of an invocation and carry its request out. -/
def invoke {σ : Type} (files : Files) (defaultPath? : Option String) (invocation : Invocation) :
    Action σ CommandError String := do
  let settings ← loadSettings files defaultPath? invocation.config
  perform files settings invocation.request

def logAndInvoke (defaultPath? : Option String) (invocation : Invocation) :
    Action FileTree CommandError String := do
  (Logging.setUp false invocation.logFile).mapError CommandError.logging
  let tree ← Action.get
  invoke tree.view defaultPath? invocation

def run (defaultPath? : Option String) (arguments : List String) (tree : FileTree) : Ending :=
  match Invocation.read arguments with
  | .error stop => .ofStop stop
  | .ok invocation => .ofResult ((logAndInvoke defaultPath? invocation).run tree).result

end HotRod.Command
