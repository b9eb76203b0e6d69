import HotRod.Proofs.Action
import HotRod.Proofs.Action.Ends
import HotRod.Proofs.Settings.Values
set_option autoImplicit false

/-!
# One section, one entry

A section makes what it is about, and with a cache its client, and leaves all slots as they are. An
entry of it is passed over or refused, or sets its slot and nothing else.
-/

namespace HotRod

namespace ClientsSettings
variable {settings other : ClientsSettings}

/-! ## Sections -/

theorem value_touch (target : SectionTarget) (slot : Slot) :
    (settings.touch target).value slot = settings.value slot := by
  cases target with
  | runtime name =>
    cases slot with
    | schemaRegistration | property client key => rfl
    | runtime client key =>
      simp only [value, touch, runtimeSection_setRuntime]
      split
      · next here => rw [here]
      · rfl
    | override client cache key =>
      simp only [value, touch, overrides_setRuntime]
      split
      · next here => rw [here, overrides]
      · rfl
  | cache name cacheName =>
    cases slot with
    | schemaRegistration | property client key => rfl
    | runtime client key => exact field_setOverrides name cacheName client _ key
    | override client cache key =>
      simp only [value, touch, overrides_setOverrides]
      split
      · next here => rw [here.1, here.2]
      · rfl
  | properties name =>
    cases slot with
    | schemaRegistration | runtime client key | override client cache key => rfl
    | property client key =>
      simp only [value, touch, definitionOf_setDefinition]
      split
      · next here => rw [here]
      · rfl

theorem has_touch {named target : SectionTarget} :
    (settings.touch named).Has target ↔ target ∈ named.makes ∨ settings.Has target := by
  cases named with
  | runtime name =>
    rw [SectionTarget.makes, List.mem_singleton]
    exact has_setRuntime rfl
  | cache name cacheName => exact has_setOverrides
  | properties name =>
    rw [SectionTarget.makes, List.mem_singleton]
    exact has_setDefinition

theorem Plain.touch {directory : String} (plain : settings.Plain directory) (target : SectionTarget) :
    (settings.touch target).Plain directory := by
  cases target with
  | runtime name | cache name cacheName => exact ⟨plain.directory, plain.marshaller, plain.schemas⟩
  | properties name => exact plain.setDefinition (plain.marshaller name) (plain.schemas name)

/-! ## Entries -/

/-- A slot is set, and nothing else. -/
structure Sets (slot : Slot) (given : slot.Value) (before after : ClientsSettings) : Prop where
  value : after.value slot = given
  others : ∀ other, other ≠ slot → after.value other = before.value other
  has : before.Has slot.target → ∀ target, after.Has target ↔ before.Has target
  plain : ∀ directory, before.Plain directory → after.Plain directory

theorem sets_schemaRegistration (enabled : Bool) :
    Sets .schemaRegistration (some enabled) settings (settings.setSchemaRegistration enabled) where
  value := rfl
  others slot different := by
    cases slot with
    | schemaRegistration => contradiction
    | runtime client key | override client cache key | property client key => rfl
  has _ target := by cases target <;> rfl
  plain _ plain := ⟨plain.directory, plain.marshaller, plain.schemas⟩

theorem sets_runtime (name : String) (key : RuntimeKey) (given : key.Value) :
    Sets (.runtime name key) given settings
      (settings.setRuntime name ((settings.runtimeSection name).put key given)) where
  value := by
    simp only [ClientsSettings.value, runtimeSection_setRuntime, if_true]
    exact RuntimeSection.field_put _ key given
  others slot different := by
    cases slot with
    | schemaRegistration | property client other => rfl
    | runtime client other =>
      simp only [ClientsSettings.value, runtimeSection_setRuntime]
      split
      · next here =>
        subst here
        exact RuntimeSection.field_put_of_ne (fun same => different (congrArg (Slot.runtime name) same)) _ given
      · rfl
    | override client cache other =>
      simp only [ClientsSettings.value, overrides_setRuntime]
      split
      · next here => rw [RuntimeSection.caches_put, here, overrides]
      · rfl
  has there target := by
    rw [has_setRuntime (RuntimeSection.caches_put _ key given)]
    exact or_iff_right_of_imp fun same => same ▸ there
  plain _ plain := ⟨plain.directory, plain.marshaller, plain.schemas⟩

theorem sets_override (name cacheName : String) (key : OverrideKey) (given : key.Value) :
    Sets (.override name cacheName key) given settings
      (settings.setOverrides name cacheName ((settings.overrides name cacheName).put key given)) where
  value := by
    simp only [ClientsSettings.value, overrides_setOverrides, and_self, if_true]
    exact CacheOverrides.field_put _ key given
  others slot different := by
    cases slot with
    | schemaRegistration | property client other => rfl
    | runtime client other => exact field_setOverrides name cacheName client _ other
    | override client cache other =>
      simp only [ClientsSettings.value, overrides_setOverrides]
      split
      · next here =>
        obtain ⟨rfl, rfl⟩ := here
        exact CacheOverrides.field_put_of_ne
          (fun same => different (congrArg (Slot.override name cacheName) same)) _ given
      · rfl
  has there target := by
    rw [has_setOverrides]
    exact or_iff_right_of_imp there.of_mem_makes
  plain _ plain := ⟨plain.directory, plain.marshaller, plain.schemas⟩

theorem sets_property (name key text : String) :
    Sets (.property name key) (some text) settings (settings.setProperty name key text) where
  value := by
    simp only [ClientsSettings.value, setProperty, definitionOf_setDefinition, if_true]
    exact (KeyMap.getElem?_insert _ key key text).trans (if_pos rfl)
  others slot different := by
    cases slot with
    | schemaRegistration | runtime client other | override client cache other => rfl
    | property client other =>
      simp only [ClientsSettings.value, setProperty, definitionOf_setDefinition]
      split
      · next here =>
        subst here
        exact (KeyMap.getElem?_insert _ key other text).trans
          (if_neg fun same => different (congrArg (Slot.property name) same.symm))
      · rfl
  has there target := by
    rw [setProperty, has_setDefinition]
    exact or_iff_right_of_imp fun same => same ▸ there
  plain _ plain := plain.setDefinition (plain.marshaller name) (plain.schemas name)

def Applied (target : SectionTarget) (key text : String) (before after : ClientsSettings) : Prop :=
  match target.slot? key with
  | none => after = before
  | some slot => ∃ given, slot.read text = .ok given ∧ Sets slot given before after

theorem applied_of_slot {target : SectionTarget} {key text : String} {slot : Slot}
    (known : target.slot? key = some slot) {given : slot.Value} (read : slot.read text = .ok given)
    (sets : Sets slot given settings other) : Applied target key text settings other := by
  rw [Applied, known]
  exact ⟨given, read, sets⟩

theorem applied_of_unknown {target : SectionTarget} {key text : String}
    (unknown : target.slot? key = none) : Applied target key text settings settings := by
  rw [Applied, unknown]

end ClientsSettings

def SectionTarget.refusal? (target : SectionTarget) (key text : String) : Option RefusedValue :=
  (target.slot? key).bind fun slot => error? (slot.read text)

namespace ClientsSettings
variable {settings : ClientsSettings}

theorem ends_of_slot {α : Type} {title key text : String} {target : SectionTarget} {slot : Slot}
    (known : target.slot? key = some slot) {result : Except RefusedValue α}
    {change : α → ClientsSettings → ClientsSettings}
    (refused : error? result = error? (slot.read text))
    (sets : ∀ found, result = .ok found →
      ∃ given, slot.read text = .ok given ∧ Sets slot given settings (change found settings)) :
    (Action.ofExcept (result.mapError (refuse title key)) >>= fun found =>
      Action.modify (change found)).Ends settings
        ((target.refusal? key text).map (refuse title key)) (Applied target key text settings) := by
  have problem : (target.refusal? key text).map (refuse title key) =
      error? (result.mapError (refuse title key)) := by
    rw [error?_mapError, refused, SectionTarget.refusal?, known]
    rfl
  rw [problem]
  apply Action.ends_ofExcept_bind
  intro found done
  obtain ⟨given, read, sets⟩ := sets found (mapError_eq_ok_iff.mp done)
  exact Action.ends_modify (applied_of_slot known read sets)

theorem ends_of_unknown {title key text : String} {target : SectionTarget} {event : Event}
    (unknown : target.slot? key = none) :
    (Action.emit event).Ends settings ((target.refusal? key text).map (refuse title key))
      (Applied target key text settings) := by
  rw [SectionTarget.refusal?, unknown]
  exact Action.ends_emit (applied_of_unknown unknown)

theorem applyRuntimeEntry_ends (title client key text : String) :
    (applyRuntimeEntry title client key text).Ends settings
      (((SectionTarget.runtime client).refusal? key text).map (refuse title key))
      (Applied (.runtime client) key text settings) := by
  unfold applyRuntimeEntry
  split
  · next global =>
    have known : (SectionTarget.runtime client).slot? key = some .schemaRegistration := if_pos global
    refine ends_of_slot known (error?_map _ some).symm fun enabled read => ?_
    exact ⟨some enabled, congrArg (Except.map some) read, sets_schemaRegistration enabled⟩
  · next own =>
    have slot : (SectionTarget.runtime client).slot? key =
        (RuntimeKey.ofText? key).map (.runtime client) := if_neg own
    cases found : RuntimeKey.ofText? key with
    | none =>
      rw [found] at slot
      exact ends_of_unknown slot
    | some setting =>
      rw [found] at slot
      apply Action.Ends.of_same (Action.same_bind_of_ok rfl)
      rw [RuntimeSection.set_eq]
      refine ends_of_slot slot (error?_map _ _) fun runtime done => ?_
      obtain ⟨given, read, rfl⟩ := map_eq_ok_iff.mp done
      exact ⟨given, read, sets_runtime client setting given⟩

theorem applyCacheEntry_ends (title client cache key text : String) :
    (applyCacheEntry title client cache key text).Ends settings
      (((SectionTarget.cache client cache).refusal? key text).map (refuse title key))
      (Applied (.cache client cache) key text settings) := by
  have slot : (SectionTarget.cache client cache).slot? key =
      (OverrideKey.ofText? key).map (.override client cache) := rfl
  unfold applyCacheEntry
  cases found : OverrideKey.ofText? key with
  | none =>
    rw [found] at slot
    exact ends_of_unknown slot
  | some setting =>
    rw [found] at slot
    apply Action.Ends.of_same (Action.same_bind_of_ok rfl)
    rw [CacheOverrides.set_eq]
    refine ends_of_slot slot (error?_map _ _) fun overrides done => ?_
    obtain ⟨given, read, rfl⟩ := map_eq_ok_iff.mp done
    exact ⟨given, read, sets_override client cache setting given⟩

/-- An entry is refused, passed over, or sets its slot. -/
theorem applyEntry_ends (title : String) (target : SectionTarget) (key text : String) :
    (applyEntry title target key text).Ends settings
      ((target.refusal? key text).map (refuse title key)) (Applied target key text settings) := by
  cases target with
  | runtime client => exact applyRuntimeEntry_ends title client key text
  | cache client cache => exact applyCacheEntry_ends title client cache key text
  | properties client =>
    exact Action.ends_modify (applied_of_slot rfl rfl (sets_property client key text))

end ClientsSettings

end HotRod
