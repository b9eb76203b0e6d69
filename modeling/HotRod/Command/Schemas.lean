import HotRod.Command.Settings
import HotRod.Settings.Assembly
import HotRod.Text.Column
set_option autoImplicit false

/-!
# Listing schemas

What schema registration would do for a client with the schema files of a directory: the number of
files its marshaller learns, and the files that would be written to the server.
-/

namespace HotRod.Command

structure SchemasReport where
  client : String
  /-- The number of files that the marshaller of the client knows. -/
  learned : Nat
  /-- Whether the files are written to the server on connect. -/
  pushed : Bool
  schemaFiles : List (String × String)
  deriving DecidableEq, Repr

/-- The number of files that the marshaller of a client knows. -/
def learnedFiles (settings : ClientsSettings) (client : String) : Nat :=
  (settings.definitionOf client).context?.elim 0 fun context => context.files.size

/-- Attach a directory to a client, assemble it and report on its schemas. -/
def reportSchemas (files : Files) (client directory : String) :
    Action ClientsSettings CommandError SchemasReport := do
  attachSchemas files client directory
  let assembly ← (ClientsSettings.assemble files client).mapError CommandError.client
  let settings ← Action.get
  return {
    client
    learned := learnedFiles settings client
    pushed := settings.runtime.registersSchemas
    schemaFiles := assembly.schemaFiles }

def schemas {σ : Type} (files : Files) (settings : ClientsSettings) (client? : Option String)
    (directory : String) : Action σ CommandError SchemasReport :=
  Action.within settings (reportSchemas files (clientNamed client?) directory)

def schemaLine (file : String × String) : String :=
  "  " ++ Text.padEnd 40 file.1 ++ " " ++ Text.padStart 8 (Nat.repr file.2.utf8ByteSize) ++ " bytes\n"

def SchemasReport.countLine (report : SchemasReport) : String :=
  "Client " ++ report.client ++ ": " ++ Nat.repr report.learned ++
    " schema files registered with the marshaller\n"

def SchemasReport.titleLine (report : SchemasReport) : String :=
  if report.schemaFiles.isEmpty then "Nothing to push.\n"
  else if report.pushed then "Files pushed to the server on connect:\n"
  else "Schema registration is disabled; files that would be pushed:\n"

def SchemasReport.text (report : SchemasReport) : String :=
  report.countLine ++ report.titleLine ++ String.join (report.schemaFiles.map schemaLine)

end HotRod.Command
