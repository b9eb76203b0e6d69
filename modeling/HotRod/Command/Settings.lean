import HotRod.Command.Error
import HotRod.Settings.Load
set_option autoImplicit false

/-!
# Settings for commands

A command works on the settings of a file: the one it is given, or else a default one if that is
there, or else none. A directory of schema files may be attached to a client, which then gets a
proto-stream marshaller.
-/

namespace HotRod.Command

def loadSettings {σ : Type} (files : Files) (defaultPath? config? : Option String) :
    Action σ CommandError ClientsSettings :=
  match config?.or (defaultPath?.filter files.isFile) with
  | some path => (ClientsSettings.load files path).mapError CommandError.settings
  | none => pure {}

def clientNamed (argument? : Option String) : String :=
  canonicalName (argument?.getD defaultClient)

def requireClient {σ : Type} (settings : ClientsSettings) (client : String) :
    Action σ CommandError Unit :=
  if settings.names.contains client then pure () else Action.fail (.unknownClient client)

/-- Give a client a new proto-stream marshaller and one more source of schemas. -/
def attachSource (client : String) (source : SchemaSource) (settings : ClientsSettings) :
    ClientsSettings :=
  let definition := settings.definitionOf client
  settings.setDefinition client
    { definition with
      marshaller := some (.protoStream {})
      schemas := definition.schemas.addSource source }

/-- Attach the schema files of a directory to a client. -/
def attachSchemas (files : Files) (client directory : String) :
    Action ClientsSettings CommandError Unit := do
  if files.isDirectory directory then
    let source ← (SchemaSource.fromDirectory files directory).mapError CommandError.schemaDirectory
    Action.modify (attachSource client source)
  else Action.fail (.missingSchemaDirectory directory)

end HotRod.Command
