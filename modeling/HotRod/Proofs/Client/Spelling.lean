import HotRod.Proofs.Action.Alike
import HotRod.Proofs.Client.Overrides
import HotRod.Proofs.Client.Precedence
import HotRod.Proofs.Configuration.UnknownKeys
import HotRod.Proofs.Settings.Readers
import HotRod.Proofs.Settings.Slot
set_option autoImplicit false

/-!
# Settings that are properties as well

A setting of a runtime section is handed on as a property, which the client's own properties may hold
instead. A text is taken once in the one place, printed and taken again, and in the other place it is taken
as it is: what it means, and whether it means anything, is the same.
-/

namespace HotRod

open HotRod.Action

def RuntimeKey.property : RuntimeKey → ClientKey
  | uri => .uri
  | hosts | serverList => .serverList
  | username | authUsername => .authUsername
  | password | authPassword => .authPassword
  | useAuth => .useAuth
  | authRealm => .authRealm
  | authServerName => .authServerName
  | authClientSubject => .authClientSubject
  | authCallbackHandler => .authCallbackHandler
  | saslMechanism => .saslMechanism
  | trustStore => .trustStoreFile
  | trustStorePassword => .trustStorePassword
  | trustStoreType => .trustStoreType
  | tlsProvider => .tlsProvider
  | tlsProtocol => .tlsProtocol
  | tlsCiphers => .tlsCiphers
  | clientIntelligence => .clientIntelligence
  | tracingPropagation => .tracingPropagation

namespace ClientKey
variable {key other : ClientKey}

/-- The properties that are decided together: a URI and a server list both name the servers. -/
def rivals : ClientKey → List ClientKey
  | uri | serverList => [uri, serverList]
  | key => [key]

theorem mem_rivals_self (key : ClientKey) : key ∈ key.rivals := by cases key <;> decide

theorem rivals_eq_of_mem (member : other ∈ key.rivals) : other.rivals = key.rivals := by
  cases key
  case uri | serverList => rcases List.mem_pair.mp member with rfl | rfl <;> rfl
  all_goals rw [List.mem_singleton.mp member]

end ClientKey

/-! ## What a section hands on -/

namespace RuntimeSection
variable {runtime : RuntimeSection} {setting : RuntimeKey} {key : ClientKey}

theorem property?_congr {other : RuntimeSection}
    (fields : ∀ setting : RuntimeKey, setting.property ∈ key.rivals →
      runtime.field setting = other.field setting) : runtime.property? key = other.property? key := by
  cases key
  case serverList =>
    have uri : runtime.uri = other.uri := fields .uri (by decide)
    have hosts : runtime.hosts = other.hosts := fields .hosts (by decide)
    have list : runtime.serverList = other.serverList := fields .serverList (by decide)
    simp only [property?, uri, hosts, list]
  case authUsername =>
    exact congrArg₂ Option.or (fields .username (by decide)) (fields .authUsername (by decide))
  case authPassword =>
    exact congrArg₂ Option.or (fields .password (by decide)) (fields .authPassword (by decide))
  case useAuth => exact congrArg (Option.map Text.flagText) (fields .useAuth (by decide))
  case clientIntelligence =>
    exact congrArg (Option.map ClientIntelligence.text) (fields .clientIntelligence (by decide))
  case tracingPropagation =>
    exact congrArg (fun flag => some (Text.flagText flag)) (fields .tracingPropagation (by decide))
  case tlsCiphers => exact congrArg ciphersText (fields .tlsCiphers (by decide))
  case uri => exact fields .uri (by decide)
  case authRealm => exact fields .authRealm (by decide)
  case authServerName => exact fields .authServerName (by decide)
  case authClientSubject => exact fields .authClientSubject (by decide)
  case authCallbackHandler => exact fields .authCallbackHandler (by decide)
  case saslMechanism => exact fields .saslMechanism (by decide)
  case trustStoreFile => exact fields .trustStore (by decide)
  case trustStorePassword => exact fields .trustStorePassword (by decide)
  case trustStoreType => exact fields .trustStoreType (by decide)
  case tlsProvider => exact fields .tlsProvider (by decide)
  case tlsProtocol => exact fields .tlsProtocol (by decide)
  all_goals rfl

/-- No setting that a property could be made of is there. -/
def Silent (runtime : RuntimeSection) (key : ClientKey) : Prop :=
  ∀ setting : RuntimeKey, setting.property ∈ key.rivals → runtime.field setting = setting.default

theorem Silent.property?_eq (silent : runtime.Silent key) :
    runtime.property? key = ({} : RuntimeSection).property? key :=
  property?_congr fun setting member => (silent setting member).trans (field_empty setting).symm

/-- The text that a value of a setting is handed on as. -/
def printed? (setting : RuntimeKey) (given : setting.Value) : Option String :=
  (({} : RuntimeSection).put setting given).property? setting.property

theorem property?_put_empty_of_ne (given : setting.Value) (rival : key ∈ setting.property.rivals)
    (different : key ≠ setting.property) :
    (({} : RuntimeSection).put setting given).property? key = ({} : RuntimeSection).property? key := by
  cases setting
  case uri =>
    obtain rfl : key = .serverList := (List.mem_pair.mp rival).resolve_left different
    cases given <;> rfl
  case hosts | serverList =>
    obtain rfl : key = .uri := (List.mem_pair.mp rival).resolve_right different
    rfl
  all_goals exact absurd (List.mem_singleton.mp rival) different

/-- A setting that is put where nothing was said of its property decides that property alone. -/
theorem property?_put (silent : runtime.Silent setting.property) (given : setting.Value)
    (key : ClientKey) :
    (runtime.put setting given).property? key =
      if key = setting.property then printed? setting given else runtime.property? key := by
  by_cases rival : key ∈ setting.property.rivals
  · have same := ClientKey.rivals_eq_of_mem rival
    have alone : (runtime.put setting given).property? key =
        (({} : RuntimeSection).put setting given).property? key := by
      refine property?_congr fun other member => ?_
      by_cases this : other = setting
      · subst this
        rw [field_put, field_put]
      · rw [field_put_of_ne this, field_put_of_ne this, silent other (same ▸ member), field_empty]
    have before : runtime.property? key = ({} : RuntimeSection).property? key := by
      apply Silent.property?_eq
      rw [Silent, same]
      exact silent
    rw [alone]
    split
    · next here =>
      subst here
      rfl
    · next different => rw [before, property?_put_empty_of_ne given rival different]
  · have different : key ≠ setting.property := fun same => rival (same ▸ key.mem_rivals_self)
    rw [if_neg different]
    refine property?_congr fun other member => field_put_of_ne ?_ _ _
    rintro rfl
    exact rival (ClientKey.rivals_eq_of_mem member ▸ key.mem_rivals_self)

end RuntimeSection

/-! ## What a text is taken for -/

/-- Two texts set a property alike: they are the same, or stand for the same value. -/
def ClientKey.TakenAlike (key : ClientKey) (text other : String) : Prop :=
  text = other ∨ (key ≠ .uri ∧ key ≠ .serverList) ∧ ∀ draft : Draft,
    ∃ changed, draft.setClient text key = .ok changed ∧ draft.setClient other key = .ok changed

namespace RuntimeKey
variable {setting : RuntimeKey} {text : String}

/-- A setting that is handed on only where it is set, as the text it was read from or one that is read
alike. Ciphers are written in another form than they are read in, and the flag for tracing is handed on
without being set. -/
def Single (setting : RuntimeKey) : Prop := setting ≠ .tlsCiphers ∧ setting ≠ .tracingPropagation

theorem exists_printed_of_read (single : setting.Single) {given : setting.Value}
    (read : setting.read text = .ok given) :
    ∃ printed, RuntimeSection.printed? setting given = some printed ∧
      setting.property.TakenAlike printed text := by
  cases setting
  case tlsCiphers => exact absurd rfl single.1
  case tracingPropagation => exact absurd rfl single.2
  case useAuth =>
    obtain ⟨flag, taken, rfl⟩ := map_eq_ok_iff.mp read
    refine ⟨Text.flagText flag, rfl, .inr ⟨by decide, fun draft => ?_⟩⟩
    refine ⟨draft.setAuthentication ({ · with enabled := some flag }), ?_, ?_⟩
    · exact map_eq_ok_iff.mpr ⟨flag, readFlag_flagText flag, rfl⟩
    · exact map_eq_ok_iff.mpr ⟨flag, readSettingFlag_eq_ok_iff_readFlag.mp taken, rfl⟩
  case clientIntelligence =>
    obtain ⟨intelligence, taken, rfl⟩ := map_eq_ok_iff.mp read
    refine ⟨intelligence.text, rfl, .inr ⟨by decide, fun draft => ?_⟩⟩
    refine ⟨{ draft with intelligence }, ?_, ?_⟩
    · exact map_eq_ok_iff.mpr ⟨intelligence, intelligence.read_text, rfl⟩
    · exact map_eq_ok_iff.mpr ⟨intelligence, mapError_eq_ok_iff.mp taken, rfl⟩
  all_goals
    cases read
    exact ⟨text, rfl, .inl rfl⟩

theorem not_completes_of_refused (single : setting.Single) {refused : RefusedValue}
    (read : setting.read text = .error refused) {bag : Properties}
    (stored : bag[setting.property.text]? = some text) {files : Files} {start finish : Draft} :
    ¬ (Draft.applyBag files bag).Completes start () finish := by
  intro applied
  obtain ⟨uri?, -, settled⟩ := Draft.settle_applyBag applied
  cases setting
  case tlsCiphers => exact absurd rfl single.1
  case tracingPropagation => exact absurd rfl single.2
  case useAuth =>
    obtain ⟨before, -, taken⟩ := settled .useAuth
    change Setting.settle _ bag[RuntimeKey.useAuth.property.text]? _ = _ at taken
    rw [stored] at taken
    obtain ⟨flag, taken, -⟩ := map_eq_ok_iff.mp taken
    have given := map_eq_error_iff.mp read
    exact nomatch (readSettingFlag_eq_ok_iff_readFlag.mpr taken).symm.trans given
  case clientIntelligence =>
    obtain ⟨before, -, taken⟩ := settled .intelligence
    change Setting.settle _ bag[RuntimeKey.clientIntelligence.property.text]? _ = _ at taken
    rw [stored] at taken
    obtain ⟨intelligence, taken, -⟩ := map_eq_ok_iff.mp taken
    have given := map_eq_error_iff.mp read
    have accepted : readSetting ClientIntelligence.read text = .ok intelligence :=
      mapError_eq_ok_iff.mpr taken
    exact nomatch accepted.symm.trans given
  all_goals cases read

end RuntimeKey

/-! ## Bags and drafts -/

namespace RuntimeSection
variable {runtime : RuntimeSection} {setting : RuntimeKey} {own : Properties} {text : String}

theorem getElem?_writeTo_name (runtime : RuntimeSection) (bag : Properties) (name : String) :
    (runtime.writeTo bag)[name]? = ((ClientKey.ofText? name).bind runtime.property?).or bag[name]? := by
  cases known : ClientKey.ofText? name with
  | none => exact runtime.getElem?_writeTo_of_unknown bag known
  | some key =>
    rw [ClientKey.ofText?_eq_some_iff.mp known]
    exact runtime.getElem?_writeTo bag key

theorem writeTo_put (silent : runtime.Silent setting.property) {given : setting.Value} {printed : String}
    (shown : printed? setting given = some printed) :
    (runtime.put setting given).writeTo own =
      (runtime.writeTo own).insert setting.property.text printed := by
  refine Std.ExtTreeMap.ext_getElem? fun name => ?_
  rw [KeyMap.getElem?_insert, getElem?_writeTo_name, getElem?_writeTo_name]
  by_cases here : setting.property.text = name
  · rw [if_pos here, ← here, ClientKey.ofText?_text, Option.bind_some, property?_put silent, if_pos rfl,
      shown, Option.some_or]
  · rw [if_neg here]
    cases known : ClientKey.ofText? name with
    | none => rfl
    | some key =>
      have different : key ≠ setting.property := by
        rintro rfl
        exact here (ClientKey.ofText?_eq_some_iff.mp known).symm
      rw [Option.bind_some, Option.bind_some, property?_put silent, if_neg different]

theorem writeTo_insert {key : ClientKey} (unwritten : runtime.property? key = none) (text : String) :
    runtime.writeTo (own.insert key.text text) = (runtime.writeTo own).insert key.text text := by
  refine Std.ExtTreeMap.ext_getElem? fun name => ?_
  rw [KeyMap.getElem?_insert, getElem?_writeTo_name, getElem?_writeTo_name, KeyMap.getElem?_insert]
  by_cases here : key.text = name
  · rw [if_pos here, if_pos here, ← here, ClientKey.ofText?_text, Option.bind_some, unwritten,
      Option.none_or]
  · rw [if_neg here, if_neg here]

end RuntimeSection

theorem RuntimeKey.property?_eq_none_of_silent {setting : RuntimeKey} {runtime : RuntimeSection}
    (single : setting.Single) (silent : runtime.Silent setting.property) :
    runtime.property? setting.property = none := by
  rw [silent.property?_eq]
  cases setting
  case tracingPropagation => exact absurd rfl single.2
  all_goals rfl

theorem Properties.insert_eq_map (bag : Properties) (name text other : String) :
    bag.insert name other =
      (bag.insert name text).map fun stored value => if stored = name then other else value := by
  refine Std.ExtTreeMap.ext_getElem? fun stored => ?_
  rw [Std.ExtTreeMap.getElem?_map, KeyMap.getElem?_insert, KeyMap.getElem?_insert]
  by_cases here : name = stored
  · simp [here]
  · simp [here, Ne.symm here]

namespace Draft
variable {files : Files} {key : ClientKey} {text other : String}

theorem applyProperty_eq_of_takenAlike
    (alike : ∀ draft : Draft, ∃ changed, draft.setClient text key = .ok changed ∧
      draft.setClient other key = .ok changed) :
    applyProperty files key.text text = applyProperty files key.text other := by
  funext draft
  change (applyProperty files key.text text).run draft = (applyProperty files key.text other).run draft
  obtain ⟨changed, left, right⟩ := alike draft
  rw [run_applyProperty_text, run_applyProperty_text, left, right]

theorem applyProperties_map {change : String → String → String} {pairs : List (String × String)}
    (same : ∀ pair ∈ pairs, applyProperty files pair.1 (change pair.1 pair.2) =
      applyProperty files pair.1 pair.2) :
    applyProperties files (pairs.map fun pair => (pair.1, change pair.1 pair.2)) =
      applyProperties files pairs := by
  induction pairs with
  | nil => rfl
  | cons pair pairs ih =>
    rw [List.forall_mem_cons] at same
    rw [List.map_cons, applyProperties_cons, same.1, ih same.2]
    rfl

theorem applyEndpoint_insert (bag : Properties) (text : String) (notUri : key ≠ .uri)
    (notList : key ≠ .serverList) :
    applyEndpoint files (bag.insert key.text text) = applyEndpoint files bag := by
  unfold applyEndpoint
  rw [KeyMap.getElem?_insert, KeyMap.getElem?_insert, if_neg (mt ClientKey.text_injective notUri),
    if_neg (mt ClientKey.text_injective notList)]

/-- A bag says the same of the settings with either text. -/
theorem applySettings_insert (bag : Properties) (alike : key.TakenAlike text other) :
    applySettings files (bag.insert key.text text) = applySettings files (bag.insert key.text other) := by
  rcases alike with rfl | ⟨⟨notUri, notList⟩, alike⟩
  · rfl
  · have lists : applyProperties files (bag.insert key.text other).toList =
        applyProperties files (bag.insert key.text text).toList := by
      rw [bag.insert_eq_map key.text text other, Std.ExtTreeMap.toList_map]
      refine @applyProperties_map files (fun name value => if name = key.text then other else value) _
        fun pair member => ?_
      have stored := Std.ExtTreeMap.mem_toList_iff_getElem?_eq_some.mp member
      by_cases here : pair.1 = key.text
      · rw [if_pos here]
        rw [here, KeyMap.getElem?_insert, if_pos rfl] at stored
        rw [here, ← Option.some.inj stored, applyProperty_eq_of_takenAlike alike]
      · rw [if_neg here]
    rw [applySettings, applySettings, applyEndpoint_insert bag _ notUri notList,
      applyEndpoint_insert bag _ notUri notList, lists]

/-- Drafts that differ in the properties they keep at most. -/
abbrev SameSettings (draft draft' : Draft) : Prop := draft.withoutProperties = draft'.withoutProperties

theorem SameSettings.cachesAlike : CachesAlike SameSettings where
  cache same name := congrArg (fun seen => seen.cache name) same
  setCache same name cache := congrArg (fun seen => seen.setCache name cache) same

end Draft

/-! ## Clients without a marshaller -/

theorem RuntimeSection.alike_warn {σ ε : Type} (client : String) (runtime : RuntimeSection) :
    (runtime.warn client : Action σ ε Unit).Alike (pure ()) := by
  unfold warn
  induction runtime.deprecations with
  | nil => exact .refl _
  | cons message messages ih => exact (Alike.emit _ _).trans ih

namespace ClientDefinition
variable {files : Files} {settings settings' : RuntimeSettings} {runtime runtime' : RuntimeSection}
  {bag bag' : Properties} {definition : ClientDefinition} {name : String}

/-- The draft that is filled from a client's section and its own properties. -/
def filled (files : Files) (settings : RuntimeSettings) (name : String)
    (definition : ClientDefinition) : Outcome Draft ClientError Unit :=
  let section? := settings.clients[name]?
  (fill files settings section? (effectiveBag definition.properties section?)).run {}

theorem filled_of_section (present : settings.clients[name]? = some runtime) :
    definition.filled files settings name =
      (fill files settings (some runtime) (runtime.writeTo definition.properties)).run {} := by
  rw [filled, present]
  rfl

theorem draft_of_assemble (plain : definition.marshaller = none) :
    ((assemble files settings name).run definition).result.map Assembly.draft =
      (definition.filled files settings name).result.map
        fun _ => (definition.filled files settings name).state := by
  obtain ⟨properties, _, schemas⟩ := definition
  subst plain
  let start : ClientDefinition := ⟨properties, none, schemas⟩
  have registered : (registerSchemas.run start).result = .ok properties := rfl
  unfold assemble filled
  generalize settings.clients[name]? = section?
  let bag := effectiveBag properties section?
  let last : Action ClientDefinition ClientError Assembly := do
    let draft ← building {} (fill files settings section? bag)
    return ⟨draft, schemas.filesToPush bag⟩
  trans (last.run start).result.map Assembly.draft
  · refine congrArg (Except.map Assembly.draft) ((Alike.emit _ _ start).trans ?_).2
    refine (same_bind_of_ok (congrArg Outcome.result (run_get start))).trans ?_
    refine (same_bind_of_ok registered).trans ?_
    cases section? with
    | none => exact .refl _
    | some runtime => exact (runtime.alike_warn name).bind (fun _ => .refl last) start
  · rw [run_bind, run_building]
    cases ((fill files settings section? bag).run {}).result <;> rfl

/-- Bags that say the same of the settings fill drafts with the same settings. -/
theorem mirrors_run_fill (same : Draft.applySettings files bag = Draft.applySettings files bag')
    (resolve : settings.resolve = settings'.resolve) (caches : runtime.caches = runtime'.caches)
    (start : Draft) :
    ((fill files settings (some runtime) bag).run start).Mirrors Draft.SameSettings Eq Eq
      ((fill files settings' (some runtime') bag').run start) := by
  have applied : ((Draft.applyBag files bag).run start).Mirrors Draft.SameSettings Eq Eq
      ((Draft.applyBag files bag').run start) := by
    rw [Draft.applyBag_eq, Draft.applyBag_eq, same]
    refine mirrors_run_bind ⟨rfl, rfl, .refl (fun _ => rfl) (fun _ => rfl) _⟩ fun _ _ _ => ?_
    exact mirrors_modify fun _ _ kept => kept
  refine mirrors_run_bind applied fun _ _ _ => ?_
  exact RuntimeSection.mirrors_applyCaches (fun _ => rfl) Draft.SameSettings.cachesAlike resolve caches

end ClientDefinition

end HotRod
