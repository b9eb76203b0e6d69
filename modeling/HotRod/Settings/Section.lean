import HotRod.Client.Name
import HotRod.Text.Split
set_option autoImplicit false

/-!
# Sections of a settings file

The title of a section tells what its entries are about: the runtime settings of a client, its
overrides for one cache, or its own properties. Without a client's name it is about the default
client. The name of a client ends where `.cache.` first stands in the title.
-/

namespace HotRod

/-- What the entries of a section are about. -/
inductive SectionTarget where
  | runtime (client : String)
  | cache (client cache : String)
  | properties (client : String)
  deriving DecidableEq, Repr

namespace SectionTarget

def runtimeTitle : String := "infinispan-client"

def propertiesTitle : String := "hotrod-client"

def cacheMark : String := "cache."

/-- Read a title that goes on after the runtime title and a dot. -/
def ofRuntimeRest? (rest : List Char) : Option SectionTarget :=
  match Text.withoutPrefix? cacheMark.toList rest with
  | some cacheName =>
    if cacheName.isEmpty then none else some (cache defaultClient (.ofList cacheName))
  | none =>
    match Text.splitFirst? ('.' :: cacheMark.toList) rest with
    | some (client, cacheName) =>
      if client.isEmpty || cacheName.isEmpty then none
      else some (cache (.ofList client) (.ofList cacheName))
    | none => if rest.isEmpty then none else some (runtime (.ofList rest))

def ofTitle? (title : String) : Option SectionTarget :=
  if title = propertiesTitle then some (properties defaultClient)
  else
    match Text.withoutPrefix? (propertiesTitle ++ ".").toList title.toList with
    | some client => if client.isEmpty then none else some (properties (.ofList client))
    | none =>
      if title = runtimeTitle then some (runtime defaultClient)
      else (Text.withoutPrefix? (runtimeTitle ++ ".").toList title.toList).bind ofRuntimeRest?

def client : SectionTarget → String
  | runtime client | cache client _ | properties client => client

end SectionTarget

end HotRod
