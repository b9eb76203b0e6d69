import HotRod.Client.Assembly
import HotRod.Proofs.Configuration.Apply
import HotRod.Proofs.Schema.Registration
set_option autoImplicit false

/-!
# Stages of an assembly

A completed assembly registered the schemas, applied the bag with the runtime settings written over it,
and then the overrides for caches. Registering schemas changes no key that means something to a
configuration, and the overrides change nothing but caches.
-/

namespace HotRod

open HotRod.Action

def Files.missing : Files where
  read _ := .error .notFound
  isFile _ := false
  isDirectory _ := false
  list _ := .error .notFound

/-- What writes leave under a key. -/
def lastWrite? (key : ClientKey) : List (ClientKey × Option String) → Option String
  | [] => none
  | (other, value?) :: writes => (lastWrite? key writes).or (if other = key then value? else none)

theorem lastValue?_keyed (writes : List (ClientKey × Option String)) (key : ClientKey) :
    lastValue? key.text (writes.filterMap fun (other, value?) =>
      value?.map fun value => (other.text, value)) = lastWrite? key writes := by
  induction writes with
  | nil => rfl
  | cons write writes ih =>
    obtain ⟨other, value?⟩ := write
    rw [lastWrite?, ← ih]
    cases value? with
    | none => simp
    | some value =>
      have same : other.text = key.text ↔ other = key :=
        ⟨fun equal => ClientKey.text_injective equal, congrArg ClientKey.text⟩
      simp [lastValue?_cons, same]

namespace RuntimeSection

/-- The value that a section leaves in a property. -/
def property? (runtime : RuntimeSection) : ClientKey → Option String
  | .uri => runtime.uri
  | .serverList => if runtime.uri.isSome then none else runtime.hosts.or runtime.serverList
  | .clientIntelligence => runtime.clientIntelligence.map ClientIntelligence.text
  | .tracingPropagation => some (Text.flagText runtime.tracingPropagation)
  | .useAuth => runtime.useAuth.map Text.flagText
  | .authUsername => runtime.username.or runtime.authUsername
  | .authPassword => runtime.password.or runtime.authPassword
  | .authRealm => runtime.authRealm
  | .authServerName => runtime.authServerName
  | .authClientSubject => runtime.authClientSubject
  | .authCallbackHandler => runtime.authCallbackHandler
  | .saslMechanism => runtime.saslMechanism
  | .trustStoreFile => runtime.trustStore
  | .trustStorePassword => runtime.trustStorePassword
  | .trustStoreType => runtime.trustStoreType
  | .tlsProvider => runtime.tlsProvider
  | .tlsProtocol => runtime.tlsProtocol
  | .tlsCiphers => ciphersText runtime.tlsCiphers
  | .marshaller | .useTls | .sniHostName | .connectTimeout | .socketTimeout | .maxRetries
  | .tcpNoDelay | .tcpKeepAlive => none

/-- A present spelling is written after the deprecated one, so that it stays. -/
theorem lastValue?_properties (runtime : RuntimeSection) (key : ClientKey) :
    lastValue? key.text runtime.properties = runtime.property? key := by
  rw [properties, lastValue?_keyed, writes]
  cases named : runtime.uri with
  | some uri => cases key <;> simp [property?, lastWrite?, named]
  | none => cases key <;> simp [property?, lastWrite?, named]

theorem getElem?_writeTo (runtime : RuntimeSection) (bag : Properties) (key : ClientKey) :
    (runtime.writeTo bag)[key.text]? = (runtime.property? key).or bag[key.text]? := by
  rw [writeTo, KeyMap.getElem?_extend, lastValue?_properties]

/-- Nothing is written but what a setting is handed on as. -/
theorem getElem?_writeTo_of_unknown (runtime : RuntimeSection) (bag : Properties) {name : String}
    (unknown : ClientKey.ofText? name = none) : (runtime.writeTo bag)[name]? = bag[name]? := by
  rw [writeTo, KeyMap.getElem?_extend]
  cases found : lastValue? name runtime.properties with
  | none => rfl
  | some value =>
    obtain ⟨key, -, given⟩ := List.mem_filterMap.mp (mem_of_lastValue? found)
    obtain ⟨_, -, same⟩ := Option.map_eq_some_iff.mp given
    obtain ⟨rfl, -⟩ := Prod.mk.inj same
    rw [ClientKey.ofText?_text] at unknown
    contradiction

theorem getElem?_writeTo_schemaKey (runtime : RuntimeSection) (bag : Properties) (file : String) :
    (runtime.writeTo bag)[Properties.schemaKey file]? = bag[Properties.schemaKey file]? := by
  apply getElem?_writeTo_of_unknown
  cases known : ClientKey.ofText? (Properties.schemaKey file) with
  | none => rfl
  | some key =>
    have named := Properties.schemaFile?_eq_some_iff.mpr (ClientKey.ofText?_eq_some_iff.mp known).symm
    simp [Properties.schemaFile?_text] at named

theorem completes_warn {σ ε : Type} {client : String} {runtime : RuntimeSection} {start finish : σ}
    (done : (runtime.warn client : Action σ ε Unit).Completes start () finish) : finish = start := by
  refine done.forEach_keeps (fun state => state = start) ?_ rfl
  intro message _ before after emitted same
  rw [← completes_emit.mp emitted, same]

end RuntimeSection

namespace CacheOverrides

theorem clientPart_apply {files : Files} {settings : RuntimeSettings} {name : String}
    {overrides : CacheOverrides} {before after : Draft}
    (done : (overrides.apply files settings name).Completes before () after) :
    after.clientPart = before.clientPart := by
  obtain ⟨middle, defined, set⟩ := completes_then.mp done
  rw [← completes_modify.mp set, Draft.clientPart_setCache]
  unfold applyDefinition at defined
  cases file : overrides.definitionFile with
  | some path =>
    simp only [file, completes_then, completes_emit, completes_get_bind, completes_ofExcept_bind,
      completes_modify] at defined
    obtain ⟨_, rfl, cache, -, rfl⟩ := defined
    rfl
  | none =>
    cases inline : overrides.definition with
    | some text =>
      simp only [file, inline, completes_modify] at defined
      rw [← defined, Draft.clientPart_setCache]
    | none =>
      simp only [file, inline, completes_pure] at defined
      rw [defined.2]

end CacheOverrides

theorem RuntimeSection.clientPart_applyCaches {files : Files} {settings : RuntimeSettings}
    {runtime : RuntimeSection} {before after : Draft}
    (done : (runtime.applyCaches files settings).Completes before () after) :
    after.clientPart = before.clientPart := by
  refine done.forEach_keeps (fun draft => draft.clientPart = before.clientPart) ?_ rfl
  intro item _ draft next applied same
  rw [CacheOverrides.clientPart_apply applied, same]

namespace ClientDefinition

theorem getElem?_effectiveBag (own : Properties) (runtime? : Option RuntimeSection) (key : ClientKey) :
    (effectiveBag own runtime?)[key.text]? = (runtime?.bind (·.property? key)).or own[key.text]? := by
  cases runtime? with
  | none => rfl
  | some runtime => exact runtime.getElem?_writeTo own key

theorem getElem?_effectiveBag_schemaKey (own : Properties) (runtime? : Option RuntimeSection)
    (file : String) :
    (effectiveBag own runtime?)[Properties.schemaKey file]? = own[Properties.schemaKey file]? := by
  cases runtime? with
  | none => rfl
  | some runtime => exact runtime.getElem?_writeTo_schemaKey own file

theorem context?_eq_some_iff {definition : ClientDefinition} {context : SerializationContext} :
    definition.context? = some context ↔ definition.marshaller = some (.protoStream context) := by
  rw [context?, Option.bind_eq_some_iff]
  constructor
  · rintro ⟨marshaller, supplied, found⟩
    cases marshaller <;> simp_all [Marshaller.context?]
  · intro supplied
    exact ⟨_, supplied, rfl⟩

theorem eq_of_registerSchemas {definition finish : ClientDefinition} {own : Properties}
    {context : SerializationContext} (proto : definition.context? = some context)
    (done : registerSchemas.Completes definition own finish) :
    own = (definition.schemas.registered ⟨context, definition.properties⟩).properties ∧
      finish.context? =
        some (definition.schemas.registered ⟨context, definition.properties⟩).context := by
  obtain ⟨succeeded, rfl⟩ := done
  unfold Action.run registerSchemas at *
  simp only [context?_eq_some_iff.mp proto] at succeeded ⊢
  obtain ⟨⟨⟩, registered, rfl⟩ := map_eq_ok_iff.mp succeeded
  obtain ⟨-, made⟩ := SchemaRegistration.completes_register.mp (completes_of_result registered)
  rw [← made]
  exact ⟨rfl, rfl⟩

theorem eq_of_registerSchemas_without_context {definition finish : ClientDefinition} {own : Properties}
    (other : definition.context? = none) (done : registerSchemas.Completes definition own finish) :
    own = definition.properties := by
  obtain ⟨succeeded, -⟩ := done
  unfold Action.run registerSchemas at succeeded
  split at succeeded
  · next proto => simp [context?_eq_some_iff.mpr proto] at other
  · exact (Except.ok.inj succeeded).symm

theorem getElem?_of_registerSchemas {definition finish : ClientDefinition} {own : Properties}
    (done : registerSchemas.Completes definition own finish) {key : String}
    (plain : Properties.schemaFile? key = none) : own[key]? = definition.properties[key]? := by
  cases other : definition.context? with
  | none => rw [eq_of_registerSchemas_without_context other done]
  | some context =>
    rw [(eq_of_registerSchemas other done).1, SchemaRegistration.registered,
      Properties.getElem?_embed_of_schemaFile?_eq_none plain,
      Properties.getElem?_embed_of_schemaFile?_eq_none plain]

/-- The stages of a completed assembly. -/
theorem stages_of_assemble {files : Files} {settings : RuntimeSettings} {name : String}
    {definition finish : ClientDefinition} {assembly : Assembly}
    (done : (assemble files settings name).Completes definition assembly finish) :
    ∃ own bag, registerSchemas.Completes definition own finish ∧
      bag = effectiveBag own settings.clients[name]? ∧
      (fill files settings settings.clients[name]? bag).Completes definition.emptyDraft ()
        assembly.draft ∧
      assembly.schemaFiles = definition.schemas.filesToPush bag := by
  unfold assemble at done
  obtain ⟨_, started, done⟩ := completes_then.mp done
  obtain rfl := completes_emit.mp started
  obtain ⟨own, learned, registered, done⟩ := completes_bind.mp (completes_get_bind.mp done)
  let bag := effectiveBag own settings.clients[name]?
  have rest : (building definition.emptyDraft (fill files settings settings.clients[name]? bag) >>=
      fun draft => pure ⟨draft, definition.schemas.filesToPush bag⟩).Completes learned assembly
        finish := by
    cases section? : settings.clients[name]? with
    | none => simpa only [bag, section?] using done
    | some runtime =>
      simp only [section?] at done
      obtain ⟨_, warned, remaining⟩ := completes_then.mp done
      obtain rfl := RuntimeSection.completes_warn warned
      simpa only [bag, section?] using remaining
  obtain ⟨draft, _, built, made⟩ := completes_bind.mp rest
  obtain ⟨filled, rfl⟩ := completes_building.mp built
  obtain ⟨rfl, rfl⟩ := completes_pure.mp made
  exact ⟨own, bag, registered, rfl, filled, rfl⟩

theorem stages_of_fill {files : Files} {settings : RuntimeSettings} {runtime? : Option RuntimeSection}
    {bag : Properties} {start finish : Draft}
    (done : (fill files settings runtime? bag).Completes start () finish) :
    ∃ filled, (Draft.applyBag files bag).Completes start () filled ∧
      finish.clientPart = filled.clientPart := by
  obtain ⟨filled, applied, rest⟩ := completes_then.mp done
  refine ⟨filled, applied, ?_⟩
  cases runtime? with
  | none => rw [(completes_pure.mp rest).2]
  | some runtime => exact RuntimeSection.clientPart_applyCaches rest

end ClientDefinition

end HotRod
