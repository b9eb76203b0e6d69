import HotRod.Proofs.Client.Spelling
import HotRod.Proofs.Registry.Description
import HotRod.Proofs.Settings.Addition
set_option autoImplicit false

/-!
# Documents that spell a setting differently

A document can give a setting in the runtime section of a client, or as one of the client's properties.
In the section a text is refused while the document is read, as a property only when the client is
put together. What comes of it in the end is the same.
-/

namespace HotRod

open HotRod.Action

namespace ClientsSettings
variable {files : Files} {client : String} {settings other : ClientsSettings} {runtime : RuntimeSection}
  {setting : RuntimeKey} {text : String}

abbrev filled (files : Files) (client : String) (settings : ClientsSettings) :
    Outcome Draft ClientError Unit :=
  (settings.definitionOf client).filled files settings.runtime client

theorem described_of_plain (plain : (settings.definitionOf client).marshaller = none) :
    settings.described files client =
      (settings.filled files client).result.bind fun _ => (settings.filled files client).state.build := by
  have drafts : (settings.assembled files client).map Assembly.draft = _ :=
    ClientDefinition.draft_of_assemble plain
  cases filled : (settings.filled files client).result with
  | error error =>
    rw [filled] at drafts
    rw [described_of_assembled_error (map_eq_error_iff.mp drafts)]
    rfl
  | ok done =>
    rw [filled] at drafts
    obtain ⟨assembly, made, drawn⟩ := map_eq_ok_iff.mp drafts
    rw [described_of_assembled made, drawn]
    rfl

theorem described_congr (plain : (settings.definitionOf client).marshaller = none)
    (plain' : (other.definitionOf client).marshaller = none)
    (alike : (settings.filled files client).Mirrors Draft.SameSettings Eq Eq
      (other.filled files client)) :
    (settings.described files client).map Configuration.withoutProperties =
      (other.described files client).map Configuration.withoutProperties := by
  rw [described_of_plain plain, described_of_plain plain']
  obtain ⟨states, -, results⟩ := alike
  rw [results.eq]
  cases (other.filled files client).result with
  | error error => rfl
  | ok done =>
    change Except.map _ (Draft.build _) = Except.map _ (Draft.build _)
    rw [← Draft.build_withoutProperties, ← Draft.build_withoutProperties, states]

theorem properties_of_described {runtime? : Option RuntimeSection} {bag : Properties}
    {configuration : Configuration} (plain : (settings.definitionOf client).marshaller = none)
    (filled : settings.filled files client =
      (ClientDefinition.fill files settings.runtime runtime? bag).run {})
    (shown : settings.described files client = .ok configuration) : configuration.properties = bag := by
  rw [described_of_plain plain, filled] at shown
  obtain ⟨⟨⟩, done, built⟩ := bind_eq_ok_iff.mp shown
  rw [Draft.properties_of_build built, ClientDefinition.properties_of_fill (completes_of_result done)]
  exact KeyMap.extend_toList bag

/-! ## One setting, two spellings -/

theorem definitionOf_setProperty (settings : ClientsSettings) (client key text : String) :
    (settings.setProperty client key text).definitionOf client =
      { settings.definitionOf client with
        properties := (settings.definitionOf client).properties.insert key text } := by
  rw [setProperty, definitionOf_setDefinition, if_pos rfl]

theorem marshaller_setProperty (settings : ClientsSettings) (client key text : String) :
    ((settings.setProperty client key text).definitionOf client).marshaller =
      (settings.definitionOf client).marshaller := by
  rw [definitionOf_setProperty]

theorem filled_setRuntime (silent : runtime.Silent setting.property) {given : setting.Value}
    {printed : String} (shown : RuntimeSection.printed? setting given = some printed) :
    let spelled := settings.setRuntime client (runtime.put setting given)
    spelled.filled files client =
      (ClientDefinition.fill files spelled.runtime (some (runtime.put setting given))
        ((runtime.writeTo (settings.definitionOf client).properties).insert setting.property.text
          printed)).run {} := by
  intro spelled
  have put : spelled.runtime.clients[client]? = some (runtime.put setting given) :=
    (KeyMap.getElem?_insert _ _ _ _).trans (if_pos rfl)
  rw [filled, ClientDefinition.filled_of_section put, ← RuntimeSection.writeTo_put silent shown]
  rfl

theorem printed_of_described (silent : runtime.Silent setting.property) {given : setting.Value}
    {printed : String} (shown : RuntimeSection.printed? setting given = some printed)
    (plain : (settings.definitionOf client).marshaller = none) {configuration : Configuration}
    (described : (settings.setRuntime client (runtime.put setting given)).described files client =
      .ok configuration) :
    configuration.properties[setting.property.text]? = some printed := by
  have still : ((settings.setRuntime client (runtime.put setting given)).definitionOf client).marshaller =
      none := plain
  rw [properties_of_described still (filled_setRuntime silent shown) described, KeyMap.getElem?_insert,
    if_pos rfl]

section
variable (single : setting.Single) (silent : runtime.Silent setting.property)
  (present : settings.runtime.clients[client]? = some runtime)
include single silent present

theorem filled_setProperty :
    (settings.setProperty client setting.property.text text).filled files client =
      (ClientDefinition.fill files settings.runtime (some runtime)
        ((runtime.writeTo (settings.definitionOf client).properties).insert setting.property.text
          text)).run {} := by
  have still : (settings.setProperty client setting.property.text text).runtime.clients[client]? =
      some runtime := present
  have unwritten := RuntimeKey.property?_eq_none_of_silent single silent
  rw [filled, ClientDefinition.filled_of_section still, definitionOf_setProperty,
    RuntimeSection.writeTo_insert unwritten]
  rfl

variable (plain : (settings.definitionOf client).marshaller = none)
include plain

theorem text_of_described {configuration : Configuration}
    (described : (settings.setProperty client setting.property.text text).described files client =
      .ok configuration) :
    configuration.properties[setting.property.text]? = some text := by
  have still := (marshaller_setProperty settings client setting.property.text text).trans plain
  rw [properties_of_described still (filled_setProperty single silent present) described,
    KeyMap.getElem?_insert, if_pos rfl]

/-- A setting that has been read into the section of a client counts as its text does among the client's
properties. -/
theorem described_spellings {given : setting.Value} (read : setting.read text = .ok given) :
    ((settings.setRuntime client (runtime.put setting given)).described files client).map
        Configuration.withoutProperties =
      ((settings.setProperty client setting.property.text text).described files client).map
        Configuration.withoutProperties := by
  obtain ⟨printed, shown, alike⟩ := RuntimeKey.exists_printed_of_read single read
  refine described_congr plain ((marshaller_setProperty _ _ _ _).trans plain) ?_
  rw [filled_setRuntime silent shown, filled_setProperty single silent present]
  exact ClientDefinition.mirrors_run_fill (Draft.applySettings_insert _ alike) rfl
    (RuntimeSection.caches_put runtime setting given) {}

/-- A text that the section refuses is refused among the properties too. -/
theorem described_of_refused {refused : RefusedValue} (read : setting.read text = .error refused) :
    ((settings.setProperty client setting.property.text text).described files client).toOption =
      none := by
  have still := (marshaller_setProperty settings client setting.property.text text).trans plain
  cases shown : (settings.setProperty client setting.property.text text).described files client with
  | error error => rfl
  | ok configuration =>
    rw [described_of_plain still, filled_setProperty single silent present] at shown
    obtain ⟨⟨⟩, done, -⟩ := bind_eq_ok_iff.mp shown
    obtain ⟨_, applied, -⟩ := ClientDefinition.stages_of_fill (completes_of_result done)
    refine absurd applied (RuntimeKey.not_completes_of_refused single read ?_)
    rw [KeyMap.getElem?_insert, if_pos rfl]

end

/-! ## Documents -/

/-- The configuration that a settings text gives for a client, if neither the text nor what it says of the
client is rejected. -/
def configured? (files : Files) (directory text client : String) : Option Configuration :=
  ((parse text directory : Action Unit SettingsError ClientsSettings).run ()).result.toOption.bind
    fun settings => (settings.described files client).toOption

section
variable {document : Ini.Document} {directory : String}
  (delivered : Ini.Document.read text = .ok document)
include delivered

theorem configured?_of_problem (found : document.problem? ≠ none) :
    configured? files directory text client = none := by
  obtain ⟨problem, found⟩ := Option.ne_none_iff_exists'.mp found
  rw [configured?, parse_of_delivered delivered, ofDocument_of_problem directory found]
  rfl

theorem configured?_of_no_problem (files : Files) (client : String) (sound : document.problem? = none)
    (of : settings.OfGroups directory document.groups) :
    configured? files directory text client = (settings.described files client).toOption := by
  rw [configured?, parse_of_delivered delivered, ofDocument_eq_ok_iff.mpr ⟨sound, of⟩]
  rfl

end

theorem exists_ofGroups {groups : List Ini.Group} (readable : ∀ group ∈ groups, group.Readable)
    (directory : String) : ∃ settings : ClientsSettings, settings.OfGroups directory groups := by
  let document : Ini.Document := { groups }
  have sound : document.problem? = none := Ini.Document.problem?_eq_none_iff.mpr ⟨rfl, readable⟩
  obtain ⟨settings, -, of⟩ := ofDocument_of_no_problem directory sound
  exact ⟨settings, of⟩

namespace OfGroups
variable {directory : String} {groups : List Ini.Group}

theorem exists_runtime (of : settings.OfGroups directory groups)
    (sectioned : (SectionTarget.runtime client).NamedIn groups) :
    ∃ runtime, settings.runtime.clients[client]? = some runtime ∧
      settings.runtimeSection client = runtime := by
  have there : client ∈ settings.runtime.clients := (of.has (.runtime client)).mpr sectioned
  refine ⟨settings.runtime.clients[client], Std.ExtTreeMap.getElem?_eq_some_getElem there, ?_⟩
  rw [runtimeSection, runtimeOf, Std.ExtTreeMap.getElem?_eq_some_getElem there, Option.getD_some]

theorem silent (of : settings.OfGroups directory groups) {key : ClientKey}
    (alone : ∀ setting : RuntimeKey, setting.property ∈ key.rivals →
      (SectionTarget.runtime client).last? groups setting.text = none) :
    (settings.runtimeSection client).Silent key := by
  intro setting member
  have value := of.values (.runtime client setting)
  rw [Slot.target, Slot.text, alone setting member] at value
  exact (Except.ok.inj value).symm

end OfGroups

end ClientsSettings

namespace Ini

/-- Two documents that are alike, but that one has a setting in the section of a client and the other has it
as a property of the client, where nothing else says what it is. -/
structure Respelled (client : String) (setting : RuntimeKey) (text : String) (groups : List Group)
    (document other : Document) : Prop where
  untitled : other.untitled = document.untitled
  sectioned : (SectionTarget.runtime client).NamedIn groups
  alone : ∀ rival : RuntimeKey, rival.property ∈ setting.property.rivals →
    (SectionTarget.runtime client).last? groups rival.text = none
  unset : (SectionTarget.properties client).last? groups setting.property.text = none
  structured : Gains (.runtime client) setting.text text groups document.groups
  raw : Gains (.properties client) setting.property.text text groups other.groups

namespace Respelled
variable {client text : String} {setting : RuntimeKey} {groups : List Group} {document other : Document}

theorem structured_problem?_eq_none_iff (respelled : Respelled client setting text groups document other) :
    document.problem? = none ↔
      (document.untitled = [] ∧ ∀ group ∈ groups, group.Readable) ∧
        ∃ given, setting.read text = .ok given := by
  rw [Document.problem?_eq_none_iff, respelled.structured.readable, SectionTarget.accepts_setting, and_assoc]

theorem raw_problem?_eq_none_iff (respelled : Respelled client setting text groups document other) :
    other.problem? = none ↔ document.untitled = [] ∧ ∀ group ∈ groups, group.Readable := by
  rw [Document.problem?_eq_none_iff, respelled.raw.readable, respelled.untitled]
  exact and_congr_right fun _ => and_iff_left (SectionTarget.accepts_property _ _ _)

end Respelled

end Ini

namespace ClientsSettings
variable {files : Files} {client value text other : String} {setting : RuntimeKey}
  {document rewritten : Ini.Document} {groups : List Ini.Group}

/-- Both spellings of a setting give the same configuration but for the properties it keeps, or both are
rejected. What is kept is the text as it was read in the section, or as it stands among the properties. -/
theorem spellings_agree (single : setting.Single) (delivered : Ini.Document.read text = .ok document)
    (also : Ini.Document.read other = .ok rewritten)
    (respelled : Ini.Respelled client setting value groups document rewritten) (directory : String) :
    (configured? files directory text client).map Configuration.withoutProperties =
      (configured? files directory other client).map Configuration.withoutProperties ∧
    (∀ configuration, configured? files directory text client = some configuration →
      ∃ given, setting.read value = .ok given ∧
        configuration.properties[setting.property.text]? = RuntimeSection.printed? setting given) ∧
    ∀ configuration, configured? files directory other client = some configuration →
      configuration.properties[setting.property.text]? = some value := by
  have first := respelled.structured_problem?_eq_none_iff
  have second := respelled.raw_problem?_eq_none_iff
  by_cases sound : document.untitled = [] ∧ ∀ group ∈ groups, group.Readable
  · obtain ⟨settings, of⟩ := exists_ofGroups sound.2 directory
    obtain ⟨runtime, present, here⟩ := of.exists_runtime respelled.sectioned
    have silent : runtime.Silent setting.property := here ▸ of.silent respelled.alone
    have plain := of.plain.marshaller client
    have raw := configured?_of_no_problem also files client (second.mpr sound)
      (of.gain_property respelled.raw respelled.unset)
    cases read : setting.read value with
    | error refused =>
      have refuses : document.problem? ≠ none := by simp [first, read]
      rw [configured?_of_problem delivered refuses, raw,
        described_of_refused single silent present plain read]
      exact ⟨rfl, (fun _ shown => nomatch shown), (fun _ shown => nomatch shown)⟩
    | ok given =>
      have unset := respelled.alone setting setting.property.mem_rivals_self
      have structured := configured?_of_no_problem delivered files client
        (first.mpr ⟨sound, given, read⟩) (of.gain_setting respelled.structured unset read)
      rw [here] at structured
      rw [structured, raw]
      refine ⟨?_, fun configuration shown => ⟨given, rfl, ?_⟩, fun configuration shown => ?_⟩
      · rw [← toOption_map, described_spellings single silent present plain read, toOption_map]
      · obtain ⟨printed, printing, -⟩ := RuntimeKey.exists_printed_of_read single read
        rw [printed_of_described silent printing plain (eq_ok_of_toOption shown), printing]
      · exact text_of_described single silent present plain (eq_ok_of_toOption shown)
  · rw [configured?_of_problem delivered (mt first.mp fun both => sound both.1),
      configured?_of_problem also (mt second.mp sound)]
    exact ⟨rfl, (fun _ shown => nomatch shown), (fun _ shown => nomatch shown)⟩

def credentialed : List Ini.Group :=
  [⟨"infinispan-client.c", [("hosts", "a"), ("username", "u"), ("password", "p")]⟩]

def switchedOff : Ini.Document where
  groups :=
    [⟨"infinispan-client.c",
      [("hosts", "a"), ("use-auth", "FALSE"), ("username", "u"), ("password", "p")]⟩]

def switchedOffByProperty : Ini.Document where
  groups :=
    [⟨"infinispan-client.c", [("hosts", "a"), ("username", "u"), ("password", "p")]⟩,
      ⟨"hotrod-client.c", [("infinispan.client.hotrod.use_auth", "FALSE")]⟩]

def switchedOffText : String :=
  "[infinispan-client.c]\nhosts=a\nuse-auth=FALSE\nusername=u\npassword=p\n"

def switchedOffByPropertyText : String :=
  "[infinispan-client.c]\nhosts=a\nusername=u\npassword=p\n" ++
    "[hotrod-client.c]\ninfinispan.client.hotrod.use_auth=FALSE\n"

theorem respelled_switchedOff :
    Ini.Respelled "c" .useAuth "FALSE" credentialed switchedOff switchedOffByProperty where
  untitled := rfl
  sectioned := ⟨_, List.mem_cons_self, .runtime "c", by decide +kernel, SectionTarget.mem_makes_self _⟩
  alone rival member := by
    cases rival <;> revert member <;> decide +kernel
  unset := by decide +kernel
  structured := .entry [] [] [("hosts", "a")] [("username", "u"), ("password", "p")] (by decide +kernel)
  raw := .group credentialed [] (by decide +kernel)

/-- A flag in capitals switches authentication off, in a section or by a property. -/
theorem flag_counts_either_way :
    Ini.Document.read switchedOffText = .ok switchedOff ∧
    Ini.Document.read switchedOffByPropertyText = .ok switchedOffByProperty ∧
    ∃ configuration configuration',
      configured? .missing "." switchedOffText "c" = some configuration ∧
      configured? .missing "." switchedOffByPropertyText "c" = some configuration' ∧
      configuration.authentication.enabled = false ∧
      configuration'.withoutProperties = configuration.withoutProperties ∧
      configuration.properties[ClientKey.useAuth.text]? = some "false" ∧
      configuration'.properties[ClientKey.useAuth.text]? = some "FALSE" := by
  have delivered : Ini.Document.read switchedOffText = .ok switchedOff :=
    eq_ok_of_toOption (by decide +kernel)
  have also : Ini.Document.read switchedOffByPropertyText = .ok switchedOffByProperty :=
    eq_ok_of_toOption (by decide +kernel)
  obtain ⟨same, printed, kept⟩ := @spellings_agree .missing _ _ _ _ _ _ _ _ ⟨by decide, by decide⟩
    delivered also respelled_switchedOff "."
  have disabled : (configured? .missing "." switchedOffText "c").map (·.authentication.enabled) =
      some false := by decide +kernel
  obtain ⟨configuration, shown, disabled⟩ := Option.map_eq_some_iff.mp disabled
  rw [shown] at same
  obtain ⟨configuration', shown', alike⟩ := Option.map_eq_some_iff.mp same.symm
  obtain ⟨given, read, text⟩ := printed configuration shown
  have off : given = some false := Except.ok.inj (read.symm.trans rfl)
  subst off
  exact ⟨delivered, also, configuration, configuration', shown, shown', disabled, alike, text,
    kept configuration' shown'⟩

end ClientsSettings

end HotRod
