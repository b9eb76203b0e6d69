import HotRod.Settings.Basic
import HotRod.Text.Column
set_option autoImplicit false

/-!
# Listing clients

One line for each client: its servers as they stand in its runtime section, the number of its own
properties and the number of caches with overrides.
-/

namespace HotRod.Command

def clientLine (settings : ClientsSettings) (client : String) : String :=
  let runtime := settings.runtimeOf client
  let servers := (runtime.bind RuntimeSection.servers?).getD "-"
  let properties := (settings.definitionOf client).properties.size
  let caches := runtime.elim 0 fun runtime => runtime.caches.size
  Text.padEnd 24 client ++ " servers: " ++ Text.padEnd 32 servers ++ " properties: " ++
    Text.padEnd 3 (Nat.repr properties) ++ " caches: " ++ Nat.repr caches ++ "\n"

/-- The lines of all clients in the order of their names. -/
def clientsReport (settings : ClientsSettings) : String :=
  match settings.names.toList with
  | [] => "No clients configured.\n"
  | clients => String.join (clients.map (clientLine settings))

end HotRod.Command
