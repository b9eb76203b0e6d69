import HotRod.Text.Split
set_option autoImplicit false

/-!
# Command-line arguments

The arguments name one command, with the client it is about and options. Options that hold for every
command may stand before or after its name. An option is given at most once on either side; where both
sides give one, the later counts. After `--` nothing is an option any more.
-/

namespace HotRod.Command

/-- What a command is asked to do. -/
inductive Request where
  | clients
  | describe (client : Option String) (json : Bool)
  | schemas (client : Option String) (directory : String)
  | check (client cache directory : Option String)
  deriving DecidableEq, Repr

structure Invocation where
  config : Option String
  logFile : Option String
  verbose : Bool
  request : Request
  deriving DecidableEq, Repr

/-- Why arguments make no invocation. -/
inductive Stop where
  | usage
  | help
  | version
  deriving DecidableEq, Repr

inductive Verb where
  | clients
  | describe
  | schemas
  | check
  deriving DecidableEq, Repr

namespace Verb

def name : Verb → String
  | clients => "clients"
  | describe => "describe"
  | schemas => "schemas"
  | check => "check"

def ofName? (text : String) : Option Verb :=
  [clients, describe, schemas, check].find? fun verb => verb.name = text

def takesClient : Verb → Bool
  | clients => false
  | describe | schemas | check => true

end Verb

/-- The options that take a value. -/
inductive ValueOption where
  | config
  | logFile
  | cache
  | protoDirectory
  deriving DecidableEq, Repr

namespace ValueOption

def name : ValueOption → String
  | config => "config"
  | logFile => "log-file"
  | cache => "cache"
  | protoDirectory => "proto-dir"

/-- Whether an option may stand with a command, or before any. -/
def allowed (verb : Option Verb) : ValueOption → Bool
  | config | logFile => true
  | cache => verb == some .check
  | protoDirectory => verb == some .schemas || verb == some .check

/-- Whether the value is a path, which is never empty. -/
def isPath : ValueOption → Bool
  | config | logFile | protoDirectory => true
  | cache => false

def ofName? (text : String) : Option ValueOption :=
  [config, logFile, cache, protoDirectory].find? fun option => option.name = text

end ValueOption

/-- An argument by its form. -/
inductive Form where
  | endOfOptions
  | long (name : String) (value : Option String)
  | short (letters : List Char)
  | plain (text : String)
  deriving DecidableEq, Repr

def Form.of (argument : String) : Form :=
  match argument.toList with
  | ['-', '-'] => .endOfOptions
  | '-' :: '-' :: name =>
    match Text.splitFirst? ['='] name with
    | some (name, value) => .long (.ofList name) (some (.ofList value))
    | none => .long (.ofList name) none
  | '-' :: c :: letters => .short (c :: letters)
  | _ => .plain argument

def isPlain (argument : String) : Bool :=
  match Form.of argument with
  | .plain _ => true
  | _ => false

/-- An argument together with its value. -/
inductive Token where
  | valued (option : ValueOption) (value : String)
  | flag (name : String)
  | letters (letters : List Char)
  | plain (text : String)
  /-- Arguments none of which is an option. -/
  | remainder (texts : List String)
  /-- An option that lacks its value, or has one that it does not take. -/
  | malformed
  deriving DecidableEq, Repr

/-- Give each option its value, up to one that is malformed. -/
def Token.ofArguments : List String → List Token
  | [] => []
  | argument :: rest =>
    match Form.of argument with
    | .endOfOptions => [remainder rest]
    | .plain text => plain text :: ofArguments rest
    | .short cs => letters cs :: ofArguments rest
    | .long name value =>
      match ValueOption.ofName? name, value, rest with
      | none, none, rest => flag name :: ofArguments rest
      | none, some _, _ => [malformed]
      | some option, some value, rest => valued option value :: ofArguments rest
      | some _, none, [] => [malformed]
      | some option, none, value :: rest =>
        if isPlain value then valued option value :: ofArguments rest else [malformed]

/-- What was given before the name of a command, or after it. -/
structure Given where
  config : Option String := none
  logFile : Option String := none
  cache : Option String := none
  protoDirectory : Option String := none
  verbose : Bool := false
  json : Bool := false
  client : Option String := none
  deriving DecidableEq, Repr

namespace Given

def value? (given : Given) : ValueOption → Option String
  | .config => given.config
  | .logFile => given.logFile
  | .cache => given.cache
  | .protoDirectory => given.protoDirectory

/-- Take a value of an option that was not given before. -/
def setValue (given : Given) (option : ValueOption) (value : String) : Except Stop Given :=
  if (given.value? option).isSome || (option.isPath && value.isEmpty) then .error .usage
  else .ok <| match option with
    | .config => { given with config := some value }
    | .logFile => { given with logFile := some value }
    | .cache => { given with cache := some value }
    | .protoDirectory => { given with protoDirectory := some value }

def setVerbose (given : Given) : Except Stop Given :=
  if given.verbose then .error .usage else .ok { given with verbose := true }

def setFlag (given : Given) (verb : Option Verb) (name : String) : Except Stop Given :=
  if name = "verbose" then given.setVerbose
  else if name = "json" ∧ verb = some .describe then
    if given.json then .error .usage else .ok { given with json := true }
  else if name = "help" then .error .help
  else if name = "version" ∧ verb = none then .error .version
  else .error .usage

def setLetters (verb : Option Verb) : Given → List Char → Except Stop Given
  | given, [] => .ok given
  | given, c :: rest =>
    if c = 'v' then do
      let given ← given.setVerbose
      setLetters verb given rest
    else if c = 'h' then .error .help
    else if c = 'V' ∧ verb = none then .error .version
    else .error .usage

def setClient (given : Given) (verb : Verb) (client : String) : Except Stop Given :=
  if verb.takesClient && given.client.isNone then .ok { given with client := some client }
  else .error .usage

/-- Take an argument that stands before or after the name of a command. -/
def take (given : Given) (verb : Option Verb) : Token → Except Stop Given
  | .valued option value =>
    if option.allowed verb then given.setValue option value else .error .usage
  | .flag name => given.setFlag verb name
  | .letters letters => setLetters verb given letters
  | .plain text => verb.elim (.error .usage) fun verb => given.setClient verb text
  | .remainder texts =>
    verb.elim (.error .usage) fun verb =>
      texts.foldlM (fun given text => given.setClient verb text) given
  | .malformed => .error .usage

end Given

def isHelpTopic : List Token → Bool
  | [] => true
  | [.plain topic] => topic == "help" || (Verb.ofName? topic).isSome
  | _ => false

/-- Read arguments up to the name of a command, and then those after it. -/
def readTokens (given : Given) : List Token → Except Stop (Given × Verb × Given)
  | [] => .error .usage
  | .plain text :: rest =>
    match Verb.ofName? text with
    | some verb =>
      (rest.foldlM (fun (given : Given) token => given.take (some verb) token) {}).map (given, verb, ·)
    | none => .error (if text == "help" && isHelpTopic rest then .help else .usage)
  | token :: rest => do
    let given ← given.take none token
    readTokens given rest

/-- What a command is asked to do by what was given after its name. -/
def requestOf (verb : Verb) (given : Given) : Except Stop Request :=
  match verb with
  | .clients => .ok .clients
  | .describe => .ok (.describe given.client given.json)
  | .schemas =>
    match given.protoDirectory with
    | some directory => .ok (.schemas given.client directory)
    | none => .error .usage
  | .check => .ok (.check given.client given.cache given.protoDirectory)

def Invocation.read (arguments : List String) : Except Stop Invocation := do
  let (before, verb, after) ← readTokens {} (Token.ofArguments arguments)
  let request ← requestOf verb after
  return {
    config := after.config.or before.config
    logFile := after.logFile.or before.logFile
    verbose := after.verbose || before.verbose
    request }

end HotRod.Command
