import HotRod.Proofs.Client.Assembly
set_option autoImplicit false

/-!
# Settings without their secrets

A masked form leaves out the texts of passwords and shows URIs through a view of them, which may be to
leave them out as well. Masking says nothing of whether there is a password, and it keeps everything
else. What settings are turned into on their way to a configuration can be masked before or after.
-/

namespace HotRod

open HotRod.Action

/-- What may be seen of the value of a key. -/
def ClientKey.seen (uri : String → String) (value : String) : ClientKey → String
  | .uri => uri value
  | .authPassword | .trustStorePassword => ""
  | _ => value

namespace Properties
variable {uri : String → String}

def seen (uri : String → String) (key value : String) : String :=
  (ClientKey.ofText? key).elim value (ClientKey.seen uri value)

def masked (uri : String → String) (bag : Properties) : Properties := bag.map (seen uri)

@[simp] theorem seen_text (key : ClientKey) (value : String) :
    seen uri key.text value = key.seen uri value := by
  rw [seen, ClientKey.ofText?_text]
  rfl

theorem getElem?_masked (bag : Properties) (key : String) :
    (bag.masked uri)[key]? = bag[key]?.map (seen uri key) :=
  Std.ExtTreeMap.getElem?_map

theorem masked_extend (bag : Properties) (pairs : List (String × String)) :
    masked uri (KeyMap.extend bag pairs) =
      (bag.masked uri).extend (pairs.map fun (key, value) => (key, seen uri key value)) :=
  KeyMap.map_extend (seen uri) bag pairs

theorem toList_masked (bag : Properties) :
    (bag.masked uri).toList = bag.toList.map fun (key, value) => (key, seen uri key value) :=
  Std.ExtTreeMap.toList_map

theorem size_masked (bag : Properties) : (bag.masked uri).size = bag.size :=
  Std.ExtTreeMap.size_map

theorem masked_masked_id (bag : Properties) : (bag.masked id).masked uri = bag.masked uri := by
  refine Std.ExtTreeMap.ext_getElem? fun key => ?_
  have further (value : String) : seen uri key (seen id key value) = seen uri key value := by
    unfold seen
    cases ClientKey.ofText? key with
    | none => rfl
    | some known => cases known <;> rfl
  rw [getElem?_masked, getElem?_masked, getElem?_masked, Option.map_map]
  exact congrArg (Option.map · bag[key]?) (funext further)

theorem seen_of_schemaFile? {key file : String} (named : schemaFile? key = some file) (value : String) :
    seen uri key value = value := by
  cases known : ClientKey.ofText? key with
  | none => rw [seen, known, Option.elim_none]
  | some setting =>
    rw [ClientKey.ofText?_eq_some_iff.mp known, schemaFile?_text] at named
    contradiction

theorem schemaFiles_masked (bag : Properties) : (bag.masked uri).schemaFiles = bag.schemaFiles := by
  rw [schemaFiles, toList_masked, schemaFiles, List.filterMap_map]
  refine congrArg (List.filterMap · bag.toList) (funext fun pair => ?_)
  cases named : schemaFile? pair.1 with
  | none => simp [named]
  | some file => simp [named, seen_of_schemaFile? named]

end Properties

namespace RuntimeSection
variable {uri : String → String}

def masked (uri : String → String) (runtime : RuntimeSection) : RuntimeSection :=
  { runtime with
    uri := runtime.uri.map uri
    password := runtime.password.map fun _ => ""
    authPassword := runtime.authPassword.map fun _ => ""
    trustStorePassword := runtime.trustStorePassword.map fun _ => "" }

theorem masked_masked_id (runtime : RuntimeSection) :
    (runtime.masked id).masked uri = runtime.masked uri := by
  simp only [masked, Option.map_map]
  rfl

theorem writes_masked (runtime : RuntimeSection) :
    (runtime.masked uri).writes =
      runtime.writes.map fun (key, value?) => (key, value?.map (key.seen uri)) := by
  have kept : (fun value : String => value) = id := rfl
  cases named : runtime.uri <;> simp [writes, masked, named, ClientKey.seen, kept]

theorem properties_masked (runtime : RuntimeSection) :
    (runtime.masked uri).properties =
      runtime.properties.map fun (key, value) => (key, Properties.seen uri key value) := by
  rw [properties, properties, writes_masked, List.map_filterMap, List.filterMap_map]
  refine congrArg (List.filterMap · runtime.writes) (funext fun write => ?_)
  obtain ⟨key, value?⟩ := write
  cases value? <;> simp

theorem deprecations_masked (runtime : RuntimeSection) :
    (runtime.masked uri).deprecations = runtime.deprecations := by
  unfold deprecations masked
  cases runtime.uri <;> cases runtime.authPassword <;> rfl

theorem masked_writeTo (runtime : RuntimeSection) (bag : Properties) :
    Properties.masked uri (runtime.writeTo bag) = (runtime.masked uri).writeTo (bag.masked uri) := by
  rw [writeTo, Properties.masked_extend, ← properties_masked, writeTo]

end RuntimeSection

namespace ClientDefinition
variable {uri : String → String}

def masked (uri : String → String) (definition : ClientDefinition) : ClientDefinition :=
  { definition with properties := definition.properties.masked uri }

theorem masked_effectiveBag (bag : Properties) (runtime? : Option RuntimeSection) :
    Properties.masked uri (effectiveBag bag runtime?) =
      effectiveBag (bag.masked uri) (runtime?.map (RuntimeSection.masked uri)) := by
  cases runtime? with
  | none => rfl
  | some runtime => exact runtime.masked_writeTo bag

end ClientDefinition

namespace ClientsSettings
variable {uri : String → String}

def masked (uri : String → String) (settings : ClientsSettings) : ClientsSettings where
  runtime := { settings.runtime with
    clients := settings.runtime.clients.map fun _ => RuntimeSection.masked uri }
  definitions := settings.definitions.map fun _ => ClientDefinition.masked uri

theorem names_masked (settings : ClientsSettings) : (settings.masked uri).names = settings.names := by
  refine Std.ExtTreeSet.ext_mem fun name => ?_
  rw [mem_names, mem_names]
  simp [masked]

theorem getElem?_clients_masked (settings : ClientsSettings) (client : String) :
    (settings.masked uri).runtime.clients[client]? =
      settings.runtime.clients[client]?.map (RuntimeSection.masked uri) :=
  Std.ExtTreeMap.getElem?_map

theorem definitionOf_masked (settings : ClientsSettings) (client : String) :
    (settings.masked uri).definitionOf client = (settings.definitionOf client).masked uri := by
  have found : (settings.masked uri).definitions[client]? =
      settings.definitions[client]?.map (ClientDefinition.masked uri) := Std.ExtTreeMap.getElem?_map
  rw [definitionOf, found, definitionOf]
  cases settings.definitions[client]? with
  | some definition => rfl
  | none =>
    have empty := KeyMap.map_empty (Properties.seen uri)
    exact congrArg (fun bag => { ({} : ClientDefinition) with properties := bag }) empty.symm

end ClientsSettings

end HotRod
