import HotRod.Client.Assembly
set_option autoImplicit false

/-!
# Assembling clients from settings

A client is assembled from what the settings say of it, where a missing definition counts as an empty
one. What its marshaller learns is kept in the settings.
-/

namespace HotRod.ClientsSettings

def assemble (files : Files) (client : String) : Action ClientsSettings ClientError Assembly := do
  let settings ← Action.get
  Action.onPart (·.definitionOf client) (returnDefinition client)
    (ClientDefinition.assemble files settings.runtime client)

def resolve (files : Files) (client : String) :
    Action ClientsSettings ClientError Configuration := do
  let assembly ← assemble files client
  Action.ofExcept assembly.draft.build

end HotRod.ClientsSettings
