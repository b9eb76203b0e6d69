import HotRod.Proofs.Action.Errors
import HotRod.Settings.Assembly
set_option autoImplicit false

/-!
# Errors of settings

What goes wrong while a client is assembled is said about a property, an address, a URI, a file or the
settings as a whole. No server is involved yet, and so no error of a server comes up.
-/

namespace HotRod

open HotRod.Action

def ClientError.OfSettings : ClientError → Prop
  | invalidProperty _ _ _ | invalidServerAddress _ | invalidUri _ _ | invalidConfiguration _
  | cacheConfigurationResource _ _ _ | invalidSchema _ => True
  | managerUnavailable _ _ | noConnectionManager _ | schemaPush _ _ | registryClosed | remote _ => False

open ClientError (OfSettings)

theorem ofSettings_of_parseServerList {list : String} {error : ClientError}
    (failed : parseServerList list = .error error) : error.OfSettings := by
  obtain ⟨entry, refused⟩ := exists_of_mapM_eq_error failed
  unfold ServerAddress.parse at refused
  cases address : ServerAddress.read? entry with
  | none =>
    simp only [address, Except.error.injEq] at refused
    exact refused ▸ trivial
  | some address => simp [address] at refused

namespace Draft

theorem failsWith_applyProperty (files : Files) (key value : String) :
    (applyProperty files key value).FailsWith OfSettings := by
  intro draft error failed
  unfold applyProperty Action.run at failed
  cases meaning : PropertyKey.ofText? key with
  | none => simp [meaning] at failed
  | some known =>
    cases known with
    | client setting =>
      cases set : draft.setClient value setting with
      | ok changed => simp [meaning, set] at failed
      | error fault =>
        simp only [meaning, set, Except.error.injEq] at failed
        exact failed ▸ trivial
    | cache name setting =>
      cases set : (draft.cache name).set files value setting with
      | ok cache => simp [meaning, set] at failed
      | error fault =>
        simp only [meaning, set, Except.error.injEq] at failed
        subst failed
        cases fault <;> trivial

theorem failsWith_applyProperties (files : Files) (pairs : List (String × String)) :
    (applyProperties files pairs).FailsWith OfSettings :=
  .forEach fun pair => failsWith_applyProperty files pair.1 pair.2

theorem failsWith_applyEndpoint (files : Files) (bag : Properties) :
    (applyEndpoint files bag).FailsWith OfSettings := by
  unfold applyEndpoint
  cases bag[ClientKey.uri.text]? with
  | some uri =>
    refine FailsWith.bind (failsWith_ofExcept fun error failed => ?_) fun parsed => ?_
    · obtain ⟨fault, -, rfl⟩ := mapError_eq_error_iff.mp failed
      trivial
    · exact (failsWith_modify _).bind fun _ => failsWith_applyProperties files parsed.properties
  | none =>
    cases bag[ClientKey.serverList.text]? with
    | none => exact failsWith_pure ()
    | some list =>
      refine FailsWith.bind (failsWith_ofExcept fun error failed => ?_) fun servers => ?_
      · exact ofSettings_of_parseServerList failed
      · exact failsWith_modify _

theorem failsWith_applyBag (files : Files) (bag : Properties) :
    (applyBag files bag).FailsWith OfSettings := by
  refine (failsWith_applyEndpoint files bag).bind fun _ => ?_
  exact (failsWith_applyProperties files bag.toList).bind fun _ => failsWith_modify _

theorem ofSettings_of_buildCaches {caches : List (String × CacheDraft)}
    {built : KeyMap CacheConfiguration} {error : ClientError}
    (failed : buildCaches built caches = .error error) : error.OfSettings := by
  induction caches generalizing built with
  | nil => contradiction
  | cons cache caches ih =>
    rcases bind_eq_error failed with refused | ⟨configuration, later⟩
    · unfold CacheDraft.build at refused
      split at refused
      · cases refused
        trivial
      · contradiction
    · exact ih later

theorem ofSettings_of_build {draft : Draft} {error : ClientError}
    (failed : draft.build = .error error) : error.OfSettings := by
  rcases bind_eq_error failed with caches | ⟨caches, later⟩
  · exact ofSettings_of_buildCaches caches
  · rcases bind_eq_error later with refused | ⟨authentication, last⟩
    · unfold AuthenticationDraft.build at refused
      split at refused
      · cases refused
        trivial
      · contradiction
    · contradiction

end Draft

theorem CacheOverrides.failsWith_apply (files : Files) (settings : RuntimeSettings) (name : String)
    (overrides : CacheOverrides) : (overrides.apply files settings name).FailsWith OfSettings := by
  refine FailsWith.bind ?_ fun _ => failsWith_modify _
  unfold applyDefinition
  cases overrides.definitionFile with
  | some path =>
    refine (failsWith_emit _).bind fun _ => failsWith_get.bind fun draft => ?_
    refine FailsWith.bind (failsWith_ofExcept fun error failed => ?_) fun _ => failsWith_modify _
    obtain ⟨fault, -, rfl⟩ := mapError_eq_error_iff.mp failed
    trivial
  | none =>
    cases overrides.definition with
    | none => exact failsWith_pure ()
    | some text => exact failsWith_modify _

namespace SerializationContext

theorem failsWith_registerFile (name contents : String) :
    (registerFile name contents).FailsWith OfSettings := by
  unfold registerFile
  by_cases valid : isSchemaName name = true
  · rw [if_pos valid]
    refine failsWith_get.bind fun context => (failsWith_modify _).bind fun _ => ?_
    cases context.files[name]? with
    | none => exact failsWith_pure ()
    | some previous =>
      by_cases changed : previous ≠ contents
      · simpa only [if_pos changed] using failsWith_emit _
      · simpa only [if_neg changed] using failsWith_pure ()
  · rw [if_neg valid]
    exact failsWith_fail trivial

theorem failsWith_registerFiles (files : List (String × String)) :
    (registerFiles files).FailsWith OfSettings :=
  .forEach fun file => failsWith_registerFile file.1 file.2

theorem failsWith_registerMarshallers (marshallers : List MessageMarshaller) :
    (registerMarshallers marshallers).FailsWith OfSettings := by
  apply FailsWith.forEach
  intro marshaller
  refine failsWith_get.bind fun context => (failsWith_modify _).bind fun _ => ?_
  by_cases known : context.marshallers.contains marshaller.typeName = true
  · rw [if_pos known]
    exact failsWith_emit _
  · rw [if_neg known]
    exact failsWith_pure ()

end SerializationContext

theorem SchemaRegistration.failsWith_register (schemas : SchemaRegistration) :
    schemas.register.FailsWith OfSettings := by
  unfold register
  refine FailsWith.bind (.forEach fun initializer => ?_) fun _ => ?_
  · refine FailsWith.bind (.onPart (SerializationContext.failsWith_registerFile _ _)) fun _ => ?_
    refine FailsWith.bind (.onPart (SerializationContext.failsWith_registerMarshallers _)) fun _ => ?_
    exact failsWith_modify _
  refine FailsWith.bind ?_ fun _ => FailsWith.bind (.forEach fun source => ?_) fun _ => ?_
  · refine failsWith_get.bind fun target => ?_
    exact .onPart (SerializationContext.failsWith_registerFiles _)
  · refine FailsWith.bind (.onPart (SerializationContext.failsWith_registerFiles _)) fun _ => ?_
    exact failsWith_modify _
  · refine FailsWith.bind (.onPart (SerializationContext.failsWith_registerMarshallers _)) fun _ => ?_
    exact failsWith_get.bind fun _ => failsWith_emit _

namespace ClientDefinition

theorem failsWith_registerSchemas : registerSchemas.FailsWith OfSettings := by
  rintro ⟨properties, _ | marshaller, schemas⟩ error failed
  · contradiction
  · cases marshaller with
    | protoStream context =>
      change Except.map _ (schemas.register.run _).result = .error error at failed
      exact schemas.failsWith_register _ error (map_eq_error_iff.mp failed)
    | utf8 => contradiction
    | other mediaType => contradiction

theorem failsWith_assemble (files : Files) (settings : RuntimeSettings) (name : String) :
    (assemble files settings name).FailsWith OfSettings := by
  refine (failsWith_emit _).bind fun _ => failsWith_get.bind fun definition => ?_
  refine failsWith_registerSchemas.bind fun own => ?_
  cases settings.clients[name]? with
  | none =>
    refine FailsWith.bind (.building ?_) fun _ => failsWith_pure _
    exact (Draft.failsWith_applyBag files _).bind fun _ => failsWith_pure ()
  | some runtime =>
    refine FailsWith.bind (.forEach fun _ => failsWith_emit _) fun _ => ?_
    refine FailsWith.bind (.building ?_) fun _ => failsWith_pure _
    refine (Draft.failsWith_applyBag files _).bind fun _ => ?_
    exact .forEach fun cache => cache.2.failsWith_apply files settings cache.1

end ClientDefinition

theorem ClientsSettings.failsWith_assemble (files : Files) (client : String) :
    (assemble files client).FailsWith OfSettings :=
  failsWith_get.bind fun settings =>
    .onPart (ClientDefinition.failsWith_assemble files settings.runtime client)

end HotRod
