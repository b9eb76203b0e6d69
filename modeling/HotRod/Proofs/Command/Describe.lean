import HotRod.Command.Describe
import HotRod.Proofs.Client.Mirrors
set_option autoImplicit false

/-!
# Descriptions do not tell passwords

What is shown of a configuration is the same for configurations that look alike, and clients that look
alike are resolved alike. So a description says and reports the same whatever the passwords are.
-/

namespace HotRod

open HotRod.Action

/-- Errors of commands that are the same but for the errors of clients in them. -/
def CommandError.Alike (errors : ClientError → ClientError → Prop) (error error' : CommandError) :
    Prop :=
  error = error' ∨ ∃ cause cause', errors cause cause' ∧ error = .client cause ∧ error' = .client cause'

structure ClientsSettings.Alike (errors : ClientError → ClientError → Prop) (client : String)
    (settings settings' : ClientsSettings) : Prop where
  names : settings.names = settings'.names
  resolve : settings.runtime.resolve = settings'.runtime.resolve
  sections : Option.Rel (RuntimeSection.Alike errors) settings.runtime.clients[client]?
    settings'.runtime.clients[client]?
  definition : (settings.definitionOf client).Alike errors (settings'.definitionOf client)

namespace Command

theorem toJson_hidden (configuration : Configuration) :
    configuration.hidden.toJson = configuration.toJson := rfl

theorem propertiesLine_masked (uri : String → String) (bag : Properties) :
    propertiesLine (bag.masked uri) = propertiesLine bag := by
  unfold propertiesLine
  rw [Properties.size_masked, Properties.schemaFiles_masked]

theorem configurationReport_hidden (client : String) (configuration : Configuration) :
    configurationReport client configuration.hidden = configurationReport client configuration := by
  have properties : propertiesLine configuration.hidden.properties =
      propertiesLine configuration.properties := propertiesLine_masked _ _
  have servers : serversLine configuration.hidden = serversLine configuration := rfl
  have marshaller : marshallerLine configuration.hidden = marshallerLine configuration := rfl
  have timeouts : timeoutsLine configuration.hidden = timeoutsLine configuration := rfl
  have authentication : authenticationLine configuration.hidden.authentication =
      authenticationLine configuration.authentication := rfl
  have tls : tlsLine configuration.hidden.tls = tlsLine configuration.tls := rfl
  unfold configurationReport
  rw [properties, servers, marshaller, timeouts, authentication, tls]
  rfl

def shownAs (client : String) (json : Bool) (configuration : Configuration) : String :=
  if json then configuration.toJson.render ++ "\n" else configurationReport client configuration

theorem shownAs_eq {configuration configuration' : Configuration}
    (alike : configuration.LooksLike configuration') (client : String) (json : Bool) :
    shownAs client json configuration = shownAs client json configuration' := by
  cases json with
  | true =>
    change configuration.toJson.render ++ "\n" = configuration'.toJson.render ++ "\n"
    rw [← toJson_hidden, alike, toJson_hidden]
  | false =>
    change configurationReport client configuration = configurationReport client configuration'
    rw [← configurationReport_hidden, alike, configurationReport_hidden]

/-- Clients that look alike are described alike. -/
theorem mirrors_describe {σ : Type} {errors : ClientError → ClientError → Prop}
    (reflexive : ∀ error, errors error error) {files : Files} {settings settings' : ClientsSettings}
    {client? : Option String} (alike : settings.Alike errors (clientNamed client?) settings')
    (json : Bool) :
    (describe files settings client? json : Action σ CommandError String).Mirrors Eq
      (CommandError.Alike errors) Eq (describe files settings' client? json) := by
  have required : (requireClient settings (clientNamed client?) : Action σ CommandError Unit).Mirrors Eq
      (CommandError.Alike errors) Eq (requireClient settings' (clientNamed client?)) := by
    unfold requireClient
    rw [alike.names]
    by_cases named : settings'.names.contains (clientNamed client?) = true
    · rw [if_pos named]
      exact mirrors_pure rfl
    · rw [if_neg named]
      exact mirrors_fail (.inl rfl)
  have assembled := @ClientDefinition.mirrors_assemble errors reflexive files _ _ _ alike.resolve
    alike.sections
  have resolved := assembled.bind fun assembly assembly' same => mirrors_ofExcept
    (same.draft.build.mono (fun error _ equal => equal ▸ reflexive error) fun _ _ looks => looks)
  have shown : (Action.within settings (ClientsSettings.resolve files (clientNamed client?)) :
      Action σ ClientError Configuration).Mirrors Eq errors Configuration.LooksLike
      (Action.within settings' (ClientsSettings.resolve files (clientNamed client?))) := by
    rw [ClientsSettings.within_resolve, ClientsSettings.within_resolve]
    exact resolved.within alike.definition
  refine required.andThen (Mirrors.bind (shown.mapError ?_) fun configuration configuration' same => ?_)
  · exact fun cause cause' same => .inr ⟨cause, cause', same, rfl, rfl⟩
  · exact mirrors_pure (shownAs_eq same (clientNamed client?) json)

end Command

theorem Properties.Alike.of_masked_eq {bag bag' : Properties} (same : bag.masked id = bag'.masked id) :
    bag.Alike Eq bag' := by
  refine ⟨?_, fun text text' named named' => ?_⟩
  · rw [Properties.hidden, ← masked_masked_id, same, masked_masked_id]
  · have values := congrArg (fun seen : Properties => seen[ClientKey.uri.text]?) same
    simp only [getElem?_masked, named, named', Option.map_some, seen_text, ClientKey.seen, id_eq,
      Option.some.injEq] at values
    exact values ▸ .refl (fun _ => rfl) text

theorem RuntimeSection.Alike.of_masked_eq {runtime runtime' : RuntimeSection}
    (same : runtime.masked id = runtime'.masked id) : runtime.Alike Eq runtime' := by
  refine ⟨?_, fun text text' named named' => ?_⟩
  · rw [← masked_masked_id, same, masked_masked_id]
  · have uris : runtime.uri.map id = runtime'.uri.map id := congrArg RuntimeSection.uri same
    obtain rfl : text = text' := by simpa [named, named'] using uris
    exact .refl (fun _ => rfl) text

theorem ClientDefinition.Alike.of_masked_eq {definition definition' : ClientDefinition}
    (same : definition.masked id = definition'.masked id) : definition.Alike Eq definition' := by
  obtain ⟨properties, marshaller, schemas⟩ := definition
  obtain ⟨properties', marshaller', schemas'⟩ := definition'
  obtain ⟨bags, rfl, rfl⟩ := ClientDefinition.mk.inj same
  exact ⟨.of_masked_eq bags, rfl, rfl⟩

/-- Settings that differ in the texts of passwords only look alike to every client. -/
theorem ClientsSettings.alike_of_masked_eq {settings settings' : ClientsSettings}
    (same : settings.masked id = settings'.masked id) (client : String) :
    settings.Alike Eq client settings' := by
  constructor
  · have names := congrArg names same
    rwa [names_masked, names_masked] at names
  · exact congrArg (fun seen => seen.runtime.resolve) same
  · have sections := congrArg (fun seen => seen.runtime.clients[client]?) same
    simp only [getElem?_clients_masked] at sections
    cases found : settings.runtime.clients[client]? <;>
      cases found' : settings'.runtime.clients[client]? <;>
      simp only [found, found', Option.map_none, Option.map_some, reduceCtorEq, Option.some.injEq]
        at sections
    · exact .none
    · exact .some (.of_masked_eq sections)
  · have definitions := congrArg (fun seen => seen.definitionOf client) same
    simp only [definitionOf_masked] at definitions
    exact .of_masked_eq definitions

namespace Command

/-- Whatever the texts of passwords are, a description is the same: as lines, as JSON or as an error,
and with the same events. -/
theorem describe_hides_passwords {σ : Type} (files : Files) {settings settings' : ClientsSettings}
    (same : settings.masked id = settings'.masked id) (client? : Option String) (json : Bool) :
    (describe files settings client? json : Action σ CommandError String) =
      describe files settings' client? json := by
  have mirrors := @mirrors_describe σ Eq (fun _ => rfl) files settings settings' client?
    (ClientsSettings.alike_of_masked_eq same _) json
  refine (mirrors.mono ?_ fun _ _ equal => equal).eq
  rintro error error' (equal | ⟨cause, _, rfl, rfl, rfl⟩)
  · exact equal
  · rfl

def guardedSettings (password trustStorePassword ownPassword : String) : ClientsSettings where
  runtime.clients := KeyMap.ofPairs [("c", {
    hosts := some "server"
    username := some "admin"
    password := some password
    trustStore := some "trust.jks"
    trustStorePassword := some trustStorePassword })]
  definitions := KeyMap.ofPairs [("c", {
    properties := KeyMap.ofPairs [(ClientKey.authPassword.text, ownPassword)] })]

/-- With other passwords the description is the same, and there is one. -/
theorem guarded_client_hides_passwords :
    (describe .missing (guardedSettings "one" "two" "three") (some "c") false : Action Unit _ _) =
        describe .missing (guardedSettings "four" "five" "six") (some "c") false ∧
      ((describe .missing (guardedSettings "one" "two" "three") (some "c") false).run
        ()).result.toBool = true := by
  have same : (guardedSettings "one" "two" "three").masked id =
      (guardedSettings "four" "five" "six").masked id := by
    simp only [guardedSettings, ClientsSettings.masked, KeyMap.map_ofPairs, ClientDefinition.masked,
      Properties.masked, List.map_cons, List.map_nil, Properties.seen_text]
    rfl
  exact ⟨describe_hides_passwords .missing same (some "c") false, by decide +kernel⟩

end Command

end HotRod
