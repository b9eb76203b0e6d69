import HotRod.Settings.Assembly
set_option autoImplicit false

/-!
# Resources of settings

The files that assembling clients may read: those that cache definitions are taken from, be they named
by runtime sections, by properties or by the queries of URIs.
-/

namespace HotRod

/-- The file that a property names for a cache definition. -/
def definitionFile? (property : String × String) : Option String :=
  match PropertyKey.ofText? property.1 with
  | some (.cache _ .configurationUri) => some property.2
  | _ => none

/-- The properties in the query of the URI of a bag. -/
def Properties.queryProperties (bag : Properties) : List (String × String) :=
  match bag[ClientKey.uri.text]?.map HotRodUri.parse with
  | some (.ok uri) => uri.properties
  | _ => []

namespace ClientsSettings

def overrideFiles (settings : ClientsSettings) (client : String) : List String :=
  ((settings.runtimeOf client).elim [] (·.caches.values)).filterMap fun overrides =>
    overrides.definitionFile.map settings.runtime.resolve

def filesOf (settings : ClientsSettings) (client : String) : List String :=
  let bag := ClientDefinition.effectiveBag (settings.definitionOf client).properties
    (settings.runtimeOf client)
  settings.overrideFiles client ++ (bag.toList ++ bag.queryProperties).filterMap definitionFile?

def resources (settings : ClientsSettings) : List String :=
  settings.names.toList.flatMap settings.filesOf

end ClientsSettings

end HotRod
