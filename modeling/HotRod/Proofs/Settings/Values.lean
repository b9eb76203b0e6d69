import HotRod.Proofs.KeyMap
import HotRod.Proofs.Settings.Slot
set_option autoImplicit false

/-!
# Settings slot by slot

Settings read from a text are determined by the values of their slots and by which clients and caches
are there, where a cache is there only with its client.
-/

namespace HotRod

def SectionTarget.makes : SectionTarget → List SectionTarget
  | .runtime client => [.runtime client]
  | .cache client name => [.cache client name, .runtime client]
  | .properties client => [.properties client]

theorem SectionTarget.mem_makes_self (target : SectionTarget) : target ∈ target.makes := by
  cases target <;> exact List.mem_cons_self

namespace ClientsSettings

def value (settings : ClientsSettings) : (slot : Slot) → slot.Value
  | .schemaRegistration => settings.runtime.schemaRegistration?
  | .runtime client key => (settings.runtimeSection client).field key
  | .override client cache key => (settings.overrides client cache).field key
  | .property client key => (settings.definitionOf client).properties[key]?

def Has (settings : ClientsSettings) : SectionTarget → Prop
  | .runtime client => client ∈ settings.runtime.clients
  | .cache client cache => cache ∈ (settings.runtimeSection client).caches
  | .properties client => client ∈ settings.definitions

/-- Nothing is there but what sections can tell, and a directory. -/
structure Plain (directory : String) (settings : ClientsSettings) : Prop where
  directory : settings.runtime.resourceDirectory = directory
  marshaller : ∀ client, (settings.definitionOf client).marshaller = none
  schemas : ∀ client, (settings.definitionOf client).schemas = {}

variable {settings other : ClientsSettings}

theorem runtimeSection_eq_of_value (values : ∀ slot, settings.value slot = other.value slot)
    (has : ∀ target, settings.Has target ↔ other.Has target) (client : String) :
    settings.runtimeSection client = other.runtimeSection client := by
  apply RuntimeSection.eq_of_field
  · intro key
    exact values (.runtime client key)
  · refine Std.ExtTreeMap.ext_getElem? fun cache => ?_
    apply KeyMap.getElem?_eq_of_getD (has (.cache client cache))
    apply CacheOverrides.eq_of_field
    intro key
    exact values (.override client cache key)

/-- Slots and what is there tell all, apart from what no section can tell. -/
theorem eq_of_value {directory : String} (plain : settings.Plain directory)
    (also : other.Plain directory) (values : ∀ slot, settings.value slot = other.value slot)
    (has : ∀ target, settings.Has target ↔ other.Has target) : settings = other := by
  have clients : settings.runtime.clients = other.runtime.clients := by
    refine Std.ExtTreeMap.ext_getElem? fun client => ?_
    exact KeyMap.getElem?_eq_of_getD (has (.runtime client))
      (runtimeSection_eq_of_value values has client)
  have definitions : settings.definitions = other.definitions := by
    refine Std.ExtTreeMap.ext_getElem? fun client => ?_
    apply KeyMap.getElem?_eq_of_getD (has (.properties client))
    have properties : (settings.definitionOf client).properties =
        (other.definitionOf client).properties :=
      Std.ExtTreeMap.ext_getElem? fun key => values (.property client key)
    have marshaller := (plain.marshaller client).trans (also.marshaller client).symm
    have schemas := (plain.schemas client).trans (also.schemas client).symm
    change settings.definitionOf client = other.definitionOf client
    revert properties marshaller schemas
    cases settings.definitionOf client
    cases other.definitionOf client
    rintro ⟨⟩ ⟨⟩ ⟨⟩
    rfl
  have registration : settings.runtime.schemaRegistration? = other.runtime.schemaRegistration? :=
    values .schemaRegistration
  have directories := plain.directory.trans also.directory.symm
  obtain ⟨⟨_, _, _⟩, _⟩ := settings
  obtain ⟨⟨_, _, _⟩, _⟩ := other
  simp_all

/-! ## Changes to one client -/

theorem runtimeSection_setRuntime (name client : String) (runtime : RuntimeSection) :
    (settings.setRuntime name runtime).runtimeSection client =
      if name = client then runtime else settings.runtimeSection client := by
  simp only [runtimeSection, runtimeOf, setRuntime, KeyMap.getElem?_insert]
  split <;> rfl

theorem definitionOf_setDefinition (name client : String) (definition : ClientDefinition) :
    (settings.setDefinition name definition).definitionOf client =
      if name = client then definition else settings.definitionOf client := by
  simp only [definitionOf, setDefinition, KeyMap.getElem?_insert]
  split <;> rfl

theorem overrides_setRuntime (name client cache : String) (runtime : RuntimeSection) :
    (settings.setRuntime name runtime).overrides client cache =
      if name = client then runtime.caches[cache]?.getD {} else settings.overrides client cache := by
  rw [overrides, runtimeSection_setRuntime]
  split <;> rfl

theorem overrides_setOverrides (name cacheName client cache : String) (given : CacheOverrides) :
    (settings.setOverrides name cacheName given).overrides client cache =
      if name = client ∧ cacheName = cache then given else settings.overrides client cache := by
  rw [setOverrides, overrides_setRuntime, KeyMap.getElem?_insert]
  by_cases here : name = client
  · subst here
    by_cases same : cacheName = cache <;> simp [same, overrides]
  · simp [here]

theorem field_setOverrides (name cacheName client : String) (given : CacheOverrides)
    (key : RuntimeKey) :
    ((settings.setOverrides name cacheName given).runtimeSection client).field key =
      (settings.runtimeSection client).field key := by
  rw [setOverrides, runtimeSection_setRuntime]
  split
  · next here => rw [RuntimeSection.field_setCaches, here]
  · rfl

theorem Has.of_mem_makes {named target : SectionTarget} (has : settings.Has named)
    (makes : target ∈ named.makes) : settings.Has target := by
  cases named with
  | runtime client | properties client => exact List.mem_singleton.mp makes ▸ has
  | cache client cache =>
    rcases List.mem_cons.mp makes with rfl | other
    · exact has
    · rw [List.mem_singleton.mp other]
      apply Classical.byContradiction
      intro absent
      have empty : settings.runtimeSection client = {} := by
        rw [runtimeSection, runtimeOf, Std.ExtTreeMap.getElem?_eq_none absent]
        rfl
      simp [Has, empty] at has

theorem has_setRuntime {name : String} {runtime : RuntimeSection} {target : SectionTarget}
    (same : runtime.caches = (settings.runtimeSection name).caches) :
    (settings.setRuntime name runtime).Has target ↔
      target = .runtime name ∨ settings.Has target := by
  cases target with
  | properties client => simp [Has, setRuntime]
  | runtime client => simp only [Has, setRuntime, KeyMap.mem_insert_iff, SectionTarget.runtime.injEq]
  | cache client cache =>
    simp only [Has, runtimeSection_setRuntime]
    split
    · next here => simp [same, here]
    · simp

theorem has_setOverrides {name cacheName : String} {given : CacheOverrides} {target : SectionTarget} :
    (settings.setOverrides name cacheName given).Has target ↔
      target ∈ (SectionTarget.cache name cacheName).makes ∨ settings.Has target := by
  cases target with
  | properties client => simp [Has, SectionTarget.makes, setOverrides, setRuntime]
  | runtime client =>
    simp only [Has, setOverrides, setRuntime, KeyMap.mem_insert_iff]
    simp [SectionTarget.makes]
  | cache client cache =>
    simp only [Has, setOverrides, runtimeSection_setRuntime]
    split
    · next here =>
      rw [KeyMap.mem_insert_iff, here]
      simp [SectionTarget.makes]
    · next elsewhere => simp [SectionTarget.makes, Ne.symm elsewhere]

theorem has_setDefinition {name : String} {definition : ClientDefinition} {target : SectionTarget} :
    (settings.setDefinition name definition).Has target ↔
      target = .properties name ∨ settings.Has target := by
  cases target with
  | properties client =>
    simp only [Has, setDefinition, KeyMap.mem_insert_iff, SectionTarget.properties.injEq]
  | runtime client | cache client cache => simp [Has, setDefinition, runtimeSection, runtimeOf]

theorem Plain.setDefinition {directory name : String} {definition : ClientDefinition}
    (plain : settings.Plain directory) (marshaller : definition.marshaller = none)
    (schemas : definition.schemas = {}) : (settings.setDefinition name definition).Plain directory where
  directory := plain.directory
  marshaller client := by
    rw [definitionOf_setDefinition]
    split
    · exact marshaller
    · exact plain.marshaller client
  schemas client := by
    rw [definitionOf_setDefinition]
    split
    · exact schemas
    · exact plain.schemas client

end ClientsSettings

end HotRod
