import HotRod.Proofs.Client.Overrides
import HotRod.Proofs.Configuration.Secrets
import HotRod.Settings.Assembly
set_option autoImplicit false

/-!
# Clients that look alike

Two clients look alike when they differ in the texts of passwords only, and in URIs that are read
alike. They are assembled alike at every step, with the same events, and what is built in the end looks
alike, or fails for the same reason.
-/

namespace HotRod

open HotRod.Action

section
variable {errors : ClientError → ClientError → Prop}

namespace Properties
variable {bag bag' : Properties}

theorem Alike.schemaFiles (alike : bag.Alike errors bag') : bag.schemaFiles = bag'.schemaFiles := by
  have files := congrArg Properties.schemaFiles alike.hidden
  rwa [schemaFiles_masked, schemaFiles_masked] at files

theorem Alike.embed (alike : bag.Alike errors bag') (files : List (String × String)) :
    (bag.embed files).Alike errors (bag'.embed files) := by
  constructor
  · rw [Properties.hidden, Properties.hidden, Properties.embed, Properties.embed, masked_extend,
      masked_extend]
    exact congrArg (KeyMap.extend · _) alike.hidden
  · intro text text' named named'
    rw [getElem?_embed_of_schemaFile?_eq_none (schemaFile?_text .uri)] at named named'
    exact alike.endpoint text text' named named'

end Properties

/-- Sections that look alike, with URIs that are read alike. -/
structure RuntimeSection.Alike (errors : ClientError → ClientError → Prop)
    (runtime runtime' : RuntimeSection) : Prop where
  hidden : runtime.masked (fun _ => "") = runtime'.masked fun _ => ""
  endpoint : ∀ text text', runtime.uri = some text → runtime'.uri = some text' →
    HotRodUri.ReadAlike errors text text'

namespace RuntimeSection.Alike
variable {runtime runtime' : RuntimeSection}

theorem refl (reflexive : ∀ error, errors error error) (runtime : RuntimeSection) :
    runtime.Alike errors runtime := by
  refine ⟨rfl, fun text text' named named' => ?_⟩
  obtain rfl : text = text' := Option.some.inj (named.symm.trans named')
  exact .refl reflexive text

theorem deprecations (alike : runtime.Alike errors runtime') :
    runtime.deprecations = runtime'.deprecations := by
  rw [← deprecations_masked, alike.hidden, deprecations_masked]

theorem caches (alike : runtime.Alike errors runtime') : runtime.caches = runtime'.caches :=
  congrArg (fun seen => seen.caches) alike.hidden

theorem mirrors_warn {σ τ : Type} {states : σ → τ → Prop} (alike : runtime.Alike errors runtime')
    (client : String) :
    (runtime.warn client : Action σ ClientError Unit).Mirrors states errors Eq
      (runtime'.warn client : Action τ ClientError Unit) := by
  unfold RuntimeSection.warn
  rw [alike.deprecations]
  exact Mirrors.forEach_same fun _ => mirrors_emit _

theorem uri_isSome (alike : runtime.Alike errors runtime') :
    runtime.uri.isSome = runtime'.uri.isSome := by
  have seen := congrArg (fun seen => seen.uri.isSome) alike.hidden
  simpa [masked] using seen

end RuntimeSection.Alike

structure ClientDefinition.Alike (errors : ClientError → ClientError → Prop)
    (definition definition' : ClientDefinition) : Prop where
  properties : definition.properties.Alike errors definition'.properties
  marshaller : definition.marshaller = definition'.marshaller
  schemas : definition.schemas = definition'.schemas

theorem ClientDefinition.Alike.refl (reflexive : ∀ error, errors error error)
    (definition : ClientDefinition) : definition.Alike errors definition :=
  ⟨.refl reflexive definition.properties, rfl, rfl⟩

structure SchemaTarget.Alike (errors : ClientError → ClientError → Prop)
    (target target' : SchemaTarget) : Prop where
  context : target.context = target'.context
  properties : target.properties.Alike errors target'.properties

variable (reflexive : ∀ error, errors error error)

namespace SchemaTarget
include reflexive

theorem mirrors_inContext (action : Action SerializationContext ClientError Unit) :
    (inContext action).Mirrors (SchemaTarget.Alike errors) errors Eq (inContext action) := by
  refine (mirrors_refl reflexive action).onPart (fun _ _ alike => alike.context) ?_
  intro target target' context context' alike same
  exact ⟨same, alike.properties⟩

omit reflexive in
theorem mirrors_embed (files : List (String × String)) :
    (Action.modify (embed · files) : Action SchemaTarget ClientError Unit).Mirrors
      (SchemaTarget.Alike errors) errors Eq (Action.modify (embed · files)) := by
  refine mirrors_modify fun target target' alike => ⟨alike.context, ?_⟩
  rw [embed_properties, embed_properties]
  exact alike.properties.embed files

theorem mirrors_registerInitializer (initializer : SchemaInitializer) :
    (registerInitializer initializer).Mirrors (SchemaTarget.Alike errors) errors Eq
      (registerInitializer initializer) :=
  (mirrors_inContext reflexive _).andThen
    ((mirrors_inContext reflexive _).andThen (mirrors_embed _))

theorem mirrors_registerEmbedded :
    registerEmbedded.Mirrors (SchemaTarget.Alike errors) errors Eq registerEmbedded := by
  refine Mirrors.get_bind fun target target' alike => ?_
  rw [alike.properties.schemaFiles]
  exact mirrors_inContext reflexive _ target target' alike

theorem mirrors_registerSource (source : SchemaSource) :
    (registerSource source).Mirrors (SchemaTarget.Alike errors) errors Eq (registerSource source) :=
  (mirrors_inContext reflexive _).andThen (mirrors_embed _)

end SchemaTarget

include reflexive

theorem SchemaRegistration.mirrors_register (schemas : SchemaRegistration) :
    schemas.register.Mirrors (SchemaTarget.Alike errors) errors Eq schemas.register := by
  refine Mirrors.andThen (Mirrors.forEach_same fun initializer => ?_) ?_
  · exact SchemaTarget.mirrors_registerInitializer reflexive initializer
  refine (SchemaTarget.mirrors_registerEmbedded reflexive).andThen (Mirrors.andThen ?_ ?_)
  · exact Mirrors.forEach_same fun source => SchemaTarget.mirrors_registerSource reflexive source
  refine (SchemaTarget.mirrors_inContext reflexive _).andThen ?_
  refine Mirrors.get_bind fun target target' alike => ?_
  rw [alike.context]
  exact mirrors_emit _ target target' alike

omit reflexive in
theorem Draft.LooksLike.cachesAlike : Draft.CachesAlike Draft.LooksLike :=
  ⟨fun alike => alike.cache, fun alike => alike.setCache⟩

namespace ClientDefinition

theorem mirrors_registerSchemas :
    registerSchemas.Mirrors (ClientDefinition.Alike errors) errors (Properties.Alike errors)
      registerSchemas := by
  intro definition definition' alike
  obtain ⟨properties, marshaller, schemas⟩ := definition
  obtain ⟨properties', marshaller', schemas'⟩ := definition'
  obtain ⟨bags, rfl, rfl⟩ : properties.Alike errors properties' ∧ marshaller = marshaller' ∧
    schemas = schemas' := ⟨alike.properties, alike.marshaller, alike.schemas⟩
  cases proto : marshaller with
  | none => exact ⟨⟨bags, rfl, rfl⟩, rfl, bags⟩
  | some supplied =>
    cases supplied with
    | utf8 => exact ⟨⟨bags, rfl, rfl⟩, rfl, bags⟩
    | other mediaType => exact ⟨⟨bags, rfl, rfl⟩, rfl, bags⟩
    | protoStream context =>
      obtain ⟨targets, events, results⟩ := schemas.mirrors_register reflexive ⟨context, properties⟩
        ⟨context, properties'⟩ ⟨rfl, bags⟩
      refine ⟨⟨bags, ?_, rfl⟩, events, results.map fun _ _ _ => targets.properties⟩
      exact congrArg (fun context => some (Marshaller.protoStream context)) targets.context

omit reflexive in
theorem alike_effectiveBag {own own' : Properties} (alike : own.Alike errors own')
    {runtime? runtime?' : Option RuntimeSection}
    (sections : Option.Rel (RuntimeSection.Alike errors) runtime? runtime?') :
    (effectiveBag own runtime?).Alike errors (effectiveBag own' runtime?') := by
  cases sections with
  | none => exact alike
  | @some runtime runtime' same =>
    constructor
    · rw [Properties.hidden, masked_effectiveBag, Properties.hidden, masked_effectiveBag,
        Option.map_some, Option.map_some, same.hidden]
      exact congrArg (effectiveBag · _) alike.hidden
    · intro text text' named named'
      rw [getElem?_effectiveBag] at named named'
      change runtime.uri.or _ = _ at named
      change runtime'.uri.or _ = _ at named'
      have both := same.uri_isSome
      cases uri : runtime.uri with
      | some given =>
        cases uri' : runtime'.uri with
        | some given' =>
          rw [uri, Option.some_or] at named
          rw [uri', Option.some_or] at named'
          exact same.endpoint text text' (uri.trans named) (uri'.trans named')
        | none => simp [uri, uri'] at both
      | none =>
        cases uri' : runtime'.uri with
        | some given' => simp [uri, uri'] at both
        | none =>
          rw [uri, Option.none_or] at named
          rw [uri', Option.none_or] at named'
          exact alike.endpoint text text' named named'

theorem mirrors_fill {files : Files} {settings settings' : RuntimeSettings}
    {runtime? runtime?' : Option RuntimeSection} {bag bag' : Properties}
    (resolve : settings.resolve = settings'.resolve)
    (sections : Option.Rel (RuntimeSection.Alike errors) runtime? runtime?')
    (bags : bag.Alike errors bag') :
    (fill files settings runtime? bag).Mirrors Draft.LooksLike errors Eq
      (fill files settings' runtime?' bag') := by
  refine (Draft.mirrors_applyBag reflexive bags).andThen ?_
  cases sections with
  | none => exact mirrors_pure rfl
  | some same =>
    exact RuntimeSection.mirrors_applyCaches reflexive Draft.LooksLike.cachesAlike resolve same.caches

end ClientDefinition

structure Assembly.Alike (assembly assembly' : Assembly) : Prop where
  draft : assembly.draft.LooksLike assembly'.draft
  schemaFiles : assembly.schemaFiles = assembly'.schemaFiles

namespace ClientDefinition

omit reflexive in
theorem mirrors_finish {definition definition' : ClientDefinition}
    {filling filling' : Action Draft ClientError Unit} {bag bag' : Properties}
    (alike : definition.Alike errors definition') (bags : bag.Alike errors bag')
    (filled : filling.Mirrors Draft.LooksLike errors Eq filling') :
    (building definition.emptyDraft filling >>= fun draft =>
        pure ⟨draft, definition.schemas.filesToPush bag⟩).Mirrors (ClientDefinition.Alike errors) errors
      Assembly.Alike (building definition'.emptyDraft filling' >>= fun draft =>
        pure ⟨draft, definition'.schemas.filesToPush bag'⟩) := by
  have drafts : definition.emptyDraft = definition'.emptyDraft := by
    rw [emptyDraft, alike.marshaller, emptyDraft]
  refine (filled.building (congrArg Draft.hidden drafts)).bind fun draft draft' same => ?_
  refine mirrors_pure ⟨same, ?_⟩
  change SchemaRegistration.filesToPush _ _ = SchemaRegistration.filesToPush _ _
  rw [alike.schemas, SchemaRegistration.filesToPush, bags.schemaFiles, SchemaRegistration.filesToPush]

theorem mirrors_assemble {files : Files} {settings settings' : RuntimeSettings} {name : String}
    (resolve : settings.resolve = settings'.resolve)
    (sections : Option.Rel (RuntimeSection.Alike errors) settings.clients[name]?
      settings'.clients[name]?) :
    (assemble files settings name).Mirrors (ClientDefinition.Alike errors) errors Assembly.Alike
      (assemble files settings' name) := by
  refine (mirrors_emit _).andThen (Mirrors.get_bind fun definition definition' alike => ?_)
  refine Mirrors.bind (mirrors_registerSchemas reflexive) (fun own own' owns => ?_) definition
    definition' alike
  have bags := alike_effectiveBag owns sections
  have filled := @mirrors_fill _ reflexive files _ _ _ _ _ _ resolve sections bags
  have rest := mirrors_finish alike bags filled
  generalize settings.clients[name]? = runtime? at *
  generalize settings'.clients[name]? = runtime?' at *
  cases sections with
  | none => exact rest
  | some same => exact (same.mirrors_warn name).andThen rest

end ClientDefinition

end

namespace Configuration

/-- The configuration without the texts of its passwords, and without the passwords and URIs that it
keeps. -/
def hidden (configuration : Configuration) : Configuration :=
  { configuration with
    authentication.password := configuration.authentication.password.map fun _ => ""
    tls.trustStorePassword := configuration.tls.trustStorePassword.map fun _ => ""
    properties := configuration.properties.hidden }

abbrev LooksLike (configuration configuration' : Configuration) : Prop :=
  configuration.hidden = configuration'.hidden

end Configuration

/-- No check looks at a password. -/
theorem Draft.build_hidden (draft : Draft) :
    draft.hidden.build = draft.build.map Configuration.hidden := by
  have authentication : draft.hidden.authentication.build =
      draft.authentication.build.map fun built =>
        { built with password := built.password.map fun _ => "" } := by
    unfold AuthenticationDraft.build
    change (if draft.authentication.isEnabled && !draft.authentication.hasCredentials &&
      !draft.authentication.isExternal then _ else _) = _
    split <;> rfl
  unfold Draft.build
  rw [authentication]
  change (buildCaches ∅ draft.caches.toList >>= _) = _
  cases buildCaches ∅ draft.caches.toList with
  | error error => rfl
  | ok caches => cases draft.authentication.build <;> rfl

theorem Draft.LooksLike.build {draft draft' : Draft} (alike : draft.LooksLike draft') :
    Matches Eq Configuration.LooksLike draft.build draft'.build := by
  refine Matches.of_map_eq ?_
  rw [← build_hidden, ← build_hidden, alike]

namespace ClientsSettings

/-- To resolve a client and forget the settings is to work on its definition and to forget that. -/
theorem within_resolve {σ : Type} (files : Files) (client : String) (settings : ClientsSettings) :
    (Action.within settings (resolve files client) : Action σ ClientError Configuration) =
      Action.within (settings.definitionOf client)
        (ClientDefinition.assemble files settings.runtime client >>= fun assembly =>
          Action.ofExcept assembly.draft.build) := by
  funext state
  have part : (assemble files client).run settings =
      ((Action.onPart (·.definitionOf client) (returnDefinition client)
        (ClientDefinition.assemble files settings.runtime client)).run settings) := by
    rw [assemble, run_bind_of_ok (run_get settings)]
    rfl
  change Outcome.mk state ((resolve files client).run settings).events
    ((resolve files client).run settings).result =
      ⟨state, (Action.run _ _).events, (Action.run _ _).result⟩
  rw [resolve, run_bind, run_bind, part, run_onPart]
  rcases (ClientDefinition.assemble files settings.runtime client).run
    (settings.definitionOf client) with ⟨left, events, error | assembly⟩
  · rfl
  · simp only [run_ofExcept]

end ClientsSettings

end HotRod
