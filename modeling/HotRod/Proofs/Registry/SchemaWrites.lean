import HotRod.Proofs.Network.Holdings
import HotRod.Proofs.Registry.Description
import HotRod.Proofs.Schema.Listing
set_option autoImplicit false

/-!
# Schema files of a new manager

A manager that is built has the files of its list stored in the cache for schema files, over what other
managers left there, and touches no other cache. The list has every name of an initializer and of a file
in the properties of the client once.
-/

namespace HotRod

open HotRod.Action

namespace Cluster

/-- Files are stored in the cache for schema files, and nothing else changes in any cache. -/
structure Gains (before : Cluster) (files : List (String × String)) (after : Cluster) : Prop where
  entries : ∀ name : String, (after.store metadataCache).entries[name]? =
    ((files.lookup name).map String.toUTF8).or (before.store metadataCache).entries[name]?
  readOnly : (after.store metadataCache).readOnly = (before.store metadataCache).readOnly
  others : ∀ cache, cache ≠ metadataCache → after.caches[cache]? = before.caches[cache]?
  created : after.created = before.created

theorem gains_of_takeSchemas {files : List (String × String)} {cluster written : Cluster}
    (distinct : (files.map Prod.fst).Nodup) (taken : cluster.takeSchemas files = .ok written) :
    cluster.Gains files written := by
  cases files with
  | nil =>
    obtain rfl := Except.ok.inj taken
    exact ⟨fun _ => rfl, rfl, fun _ _ => rfl, rfl⟩
  | cons file rest =>
    obtain ⟨-, rfl⟩ := takeSchemas_cons_eq_ok_iff.mp taken
    refine ⟨fun name => ?_, ?_, fun cache apart => ?_, rfl⟩
    · rw [storeSchemas, store_setStore, KeyMap.getElem?_extend, lastValue?_map_snd,
        lastValue?_eq_lookup distinct]
    · rw [storeSchemas, store_setStore]
    · change (cluster.caches.insert metadataCache _)[cache]? = _
      rw [KeyMap.getElem?_insert, if_neg apart.symm]

end Cluster

namespace Host
variable {files : Files} {name : String} {host : Host} {id : ManagerId}

/-- The list of a client's schema files is written to the server with the client's manager, if schemas
are registered there, and otherwise nothing is. -/
theorem manager_writes_every_schema_once
    (unregistered : host.registry.live[canonicalName name]? = none)
    (built : ((manager files name).run host).result = .ok (some id)) :
    let settings := host.registry.settings
    let before := host.network.cluster
    let after := ((manager files name).run host).state.network.cluster
    ∃ assembly, settings.assembled files (canonicalName name) = .ok assembly ∧
      (settings.definitionOf (canonicalName name)).schemas.Lists assembly.draft.properties
        assembly.schemaFiles ∧
      (settings.runtime.registersSchemas = true → before.Gains assembly.schemaFiles after) ∧
      (settings.runtime.registersSchemas = false → after.caches = before.caches) := by
  intro settings before after
  obtain ⟨plan, written, planned, taken, rfl, left⟩ := exists_launched unregistered built
  obtain ⟨assembly, made, -, -, same⟩ := exists_assembled_of_plan? planned
  have part : ((ClientDefinition.assemble files settings.runtime (canonicalName name)).run
      (settings.definitionOf (canonicalName name))).result = .ok assembly := made
  have listed := ClientDefinition.schemaFiles_of_assemble (completes_of_result part)
  have lists := SchemaRegistration.lists_filesToPush
    (settings.definitionOf (canonicalName name)).schemas assembly.draft.properties
  rw [← listed] at lists
  have reached : after = written := congrArg (·.network.cluster) left
  refine ⟨assembly, made, lists, fun registers => ?_, fun disabled => ?_⟩
  · rw [Plan.filesToWrite, if_pos registers, same] at taken
    have gains := Cluster.gains_of_takeSchemas lists.distinct taken
    rw [reached]
    exact ⟨gains.entries, gains.readOnly, gains.others, gains.created⟩
  · rw [Plan.filesToWrite, if_neg (Bool.eq_false_iff.mp disabled)] at taken
    rw [reached, ← Except.ok.inj taken]
    rfl

end Host

def clashingHost (registers : Bool) : Host where
  network := {
    cluster := ({} : Cluster).setStore metadataCache
      ⟨KeyMap.ofPairs [("a.proto", "stale".toUTF8), ("z.proto", "kept".toUTF8)], false⟩ }
  registry := {
    settings := {
      runtime := {
        schemaRegistration? := some registers
        clients := KeyMap.ofPairs [("c", { hosts := some "h:1" })] }
      definitions := KeyMap.ofPairs [("c", { clashingDefinition with
        properties := KeyMap.ofPairs [(Properties.schemaKey "b.proto", "own"),
          (Properties.schemaKey "a.proto", "own")] })] } }

/-- The first initializer's file replaces the one on the server. -/
theorem clashing_schemas_are_written_once :
    let written := ((Host.manager .missing "c").run (clashingHost true)).state.network.cluster
    let kept := ((Host.manager .missing "c").run (clashingHost false)).state.network.cluster
    (written.store metadataCache).entries["a.proto"]? = some "first".toUTF8 ∧
    (written.store metadataCache).entries["b.proto"]? = some "own".toUTF8 ∧
    (written.store metadataCache).entries["z.proto"]? = some "kept".toUTF8 ∧
    kept.caches = (clashingHost false).network.cluster.caches := by
  intro written kept
  have missing (registers : Bool) :
      (clashingHost registers).registry.live[canonicalName "c"]? = none :=
    Std.ExtTreeMap.getElem?_empty
  have built (registers : Bool) :
      ((Host.manager .missing "c").run (clashingHost registers)).result = .ok (some 0) :=
    eq_ok_of_toOption (by cases registers <;> decide +kernel)
  have listed : ((clashingHost true).registry.settings.assembled .missing
      (canonicalName "c")).toOption.map (·.schemaFiles) =
        some [("a.proto", "first"), ("b.proto", "own")] := by decide +kernel
  obtain ⟨assembly, made, -, writes, -⟩ :=
    Host.manager_writes_every_schema_once (missing true) (built true)
  obtain ⟨_, -, -, -, leaves⟩ :=
    Host.manager_writes_every_schema_once (missing false) (built false)
  rw [made] at listed
  have gains := writes rfl
  rw [show assembly.schemaFiles = _ from Option.some.inj listed] at gains
  refine ⟨gains.entries "a.proto", gains.entries "b.proto", ?_, leaves rfl⟩
  rw [gains.entries]
  decide +kernel

end HotRod
