import HotRod.Proofs.Settings.Rearrangement
set_option autoImplicit false

/-!
# Documents with one more entry

An entry for a slot that no other entry sets may be added anywhere, to a section about its target or as a
section of its own. The settings are those without it, in which the target is there and the slot is set.
-/

namespace HotRod

namespace SectionTarget
variable {groups more : List Ini.Group}

theorem entries_append (target : SectionTarget) (groups more : List Ini.Group) :
    target.entries (groups ++ more) = target.entries groups ++ target.entries more := by
  rw [entries, List.filter_append, List.flatMap_append]
  rfl

theorem entries_of_about {target : SectionTarget} {title : String} {entries : List (String × String)}
    (about : ofTitle? title = some target) : target.entries [⟨title, entries⟩] = entries := by
  simp [SectionTarget.entries, about]

theorem entries_of_not_about {target : SectionTarget} {title : String}
    {entries : List (String × String)} (elsewhere : ofTitle? title ≠ some target) :
    target.entries [⟨title, entries⟩] = [] := by
  simp [SectionTarget.entries, elsewhere]

/-- An entry with a known key has a value for it. -/
def Accepts (target : SectionTarget) (key text : String) : Prop :=
  ∀ slot, target.slot? key = some slot → ∃ value, slot.read text = .ok value

theorem accepts_setting {client text : String} {setting : RuntimeKey} :
    (runtime client).Accepts setting.text text ↔ ∃ given, setting.read text = .ok given := by
  have known : (runtime client).slot? setting.text = some (.runtime client setting) :=
    slot?_eq_some_iff.mpr ⟨rfl, rfl⟩
  simp only [Accepts, known, Option.some.injEq, forall_eq']
  rfl

theorem accepts_property (client key text : String) : (properties client).Accepts key text := by
  rintro slot ⟨⟩
  exact ⟨some text, rfl⟩

end SectionTarget

namespace Ini

/-- One entry is added, to a group about a target or in a group of its own. -/
inductive Gains (target : SectionTarget) (key text : String) : List Group → List Group → Prop
  | entry (before after : List Group) {title : String} (entries more : List (String × String)) :
    SectionTarget.ofTitle? title = some target →
    Gains target key text (before ++ [⟨title, entries ++ more⟩] ++ after)
      (before ++ [⟨title, entries ++ [(key, text)] ++ more⟩] ++ after)
  | group (before after : List Group) {title : String} :
    SectionTarget.ofTitle? title = some target →
    Gains target key text (before ++ after) (before ++ [⟨title, [(key, text)]⟩] ++ after)

theorem Group.readable_of_about {target : SectionTarget} {title : String}
    {entries : List (String × String)} (about : SectionTarget.ofTitle? title = some target) :
    Group.Readable ⟨title, entries⟩ ↔ ∀ entry ∈ entries, target.Accepts entry.1 entry.2 := by
  simp [Readable, about, SectionTarget.Accepts]

namespace Gains
variable {target : SectionTarget} {key text : String} {groups others : List Group}

theorem titled (gains : Gains target key text groups others) :
    ∃ title, SectionTarget.ofTitle? title = some target := by
  cases gains with
  | entry _ _ _ _ about => exact ⟨_, about⟩
  | group _ _ about => exact ⟨_, about⟩

theorem entries_self (gains : Gains target key text groups others) :
    ∃ before after, target.entries groups = before ++ after ∧
      target.entries others = before ++ [(key, text)] ++ after := by
  cases gains with
  | entry before after entries more about =>
    refine ⟨target.entries before ++ entries, more ++ target.entries after, ?_, ?_⟩
    · rw [SectionTarget.entries_append, SectionTarget.entries_append, SectionTarget.entries_of_about about]
      simp only [List.append_assoc]
    · rw [SectionTarget.entries_append, SectionTarget.entries_append, SectionTarget.entries_of_about about]
      simp only [List.append_assoc]
  | group before after about =>
    refine ⟨target.entries before, target.entries after, SectionTarget.entries_append _ _ _, ?_⟩
    rw [SectionTarget.entries_append, SectionTarget.entries_append, SectionTarget.entries_of_about about]

theorem entries_of_ne (gains : Gains target key text groups others) {other : SectionTarget}
    (different : other ≠ target) : other.entries others = other.entries groups := by
  have elsewhere {title : String} (about : SectionTarget.ofTitle? title = some target) :
      SectionTarget.ofTitle? title ≠ some other :=
    fun also => different (Option.some.inj (also.symm.trans about))
  cases gains with
  | entry before after entries more about =>
    simp only [SectionTarget.entries_append, SectionTarget.entries_of_not_about (elsewhere about)]
  | group before after about =>
    simp only [SectionTarget.entries_append, SectionTarget.entries_of_not_about (elsewhere about),
      List.append_nil]

theorem last?_self (gains : Gains target key text groups others)
    (silent : target.last? groups key = none) : target.last? others key = some text := by
  obtain ⟨before, after, without, added⟩ := gains.entries_self
  rw [SectionTarget.last?, without, lastValue?_append, Option.or_eq_none_iff] at silent
  rw [SectionTarget.last?, added, lastValue?_append, lastValue?_append, silent.1, lastValue?_cons]
  simp

theorem last?_of_ne (gains : Gains target key text groups others) {other : SectionTarget} {name : String}
    (different : ¬ (other = target ∧ name = key)) : other.last? others name = other.last? groups name := by
  by_cases about : other = target
  · subst about
    obtain ⟨before, after, without, added⟩ := gains.entries_self
    have apart : key ≠ name := fun same => different ⟨rfl, same.symm⟩
    rw [SectionTarget.last?, added, SectionTarget.last?, without]
    simp [lastValue?_append, lastValue?_cons, apart]
  · rw [SectionTarget.last?, gains.entries_of_ne about, SectionTarget.last?]

theorem namedIn (gains : Gains target key text groups others) {other : SectionTarget} :
    other.NamedIn others ↔ other.NamedIn groups ∨ other ∈ target.makes := by
  cases gains with
  | entry before after entries more about =>
    simp only [SectionTarget.namedIn_append, SectionTarget.namedIn_singleton, about, Option.some.injEq,
      exists_eq_left']
    grind
  | group before after about =>
    simp only [SectionTarget.namedIn_append, SectionTarget.namedIn_singleton, about, Option.some.injEq,
      exists_eq_left']
    grind

theorem readable (gains : Gains target key text groups others) :
    (∀ group ∈ others, group.Readable) ↔
      (∀ group ∈ groups, group.Readable) ∧ target.Accepts key text := by
  cases gains with
  | entry before after entries more about =>
    simp only [List.forall_mem_append, List.forall_mem_singleton, Group.readable_of_about about]
    grind
  | group before after about =>
    simp only [List.forall_mem_append, List.forall_mem_singleton, Group.readable_of_about about]
    grind

theorem sameSense {others' : List Group} (gains : Gains target key text groups others)
    (also : Gains target key text groups others') (silent : target.last? groups key = none) :
    SameSense others others' where
  last other name := by
    by_cases here : other = target ∧ name = key
    · obtain ⟨rfl, rfl⟩ := here
      rw [gains.last?_self silent, also.last?_self silent]
    · rw [gains.last?_of_ne here, also.last?_of_ne here]
  named other := gains.namedIn.trans also.namedIn.symm
  readable := gains.readable.trans also.readable.symm

end Gains

end Ini

namespace ClientsSettings

theorem setRuntime_setRuntime (settings : ClientsSettings) (client : String)
    (runtime later : RuntimeSection) :
    (settings.setRuntime client runtime).setRuntime client later = settings.setRuntime client later := by
  simp only [setRuntime, KeyMap.insert_insert]

theorem setDefinition_setDefinition (settings : ClientsSettings) (client : String)
    (definition later : ClientDefinition) :
    (settings.setDefinition client definition).setDefinition client later =
      settings.setDefinition client later := by
  simp only [setDefinition, KeyMap.insert_insert]

end ClientsSettings

namespace ClientsSettings.OfGroups
variable {directory key text : String} {groups others : List Ini.Group} {settings after : ClientsSettings}
  {target : SectionTarget}

theorem of_sameSense (of : settings.OfGroups directory groups) (same : Ini.SameSense groups others) :
    settings.OfGroups directory others where
  plain := of.plain
  values slot := by
    rw [← same.last]
    exact of.values slot
  has target := (of.has target).trans (same.named target)

/-- Settings with one more entry: the target is made, and the entry is applied. -/
theorem gain (of : settings.OfGroups directory groups) (gains : Ini.Gains target key text groups others)
    (silent : target.last? groups key = none)
    (applied : Applied target key text (settings.touch target) after) :
    after.OfGroups directory others := by
  obtain ⟨title, about⟩ := gains.titled
  have last := (of.touch about).entry about applied
  have added : Ini.Gains target key text groups (groups ++ [⟨title, [(key, text)]⟩]) := by
    simpa only [List.append_nil] using Ini.Gains.group groups [] about
  exact last.of_sameSense (added.sameSense gains silent)

theorem gain_setting {client : String} {setting : RuntimeKey} {given : setting.Value}
    (of : settings.OfGroups directory groups)
    (gains : Ini.Gains (.runtime client) setting.text text groups others)
    (silent : (SectionTarget.runtime client).last? groups setting.text = none)
    (read : setting.read text = .ok given) :
    (settings.setRuntime client ((settings.runtimeSection client).put setting given)).OfGroups directory
      others := by
  have known : (SectionTarget.runtime client).slot? setting.text = some (.runtime client setting) :=
    SectionTarget.slot?_eq_some_iff.mpr ⟨rfl, rfl⟩
  have last := of.gain gains silent (applied_of_slot known read (sets_runtime client setting given))
  rwa [ClientsSettings.touch, runtimeSection_setRuntime, if_pos rfl, setRuntime_setRuntime] at last

theorem gain_property {client : String} (of : settings.OfGroups directory groups)
    (gains : Ini.Gains (.properties client) key text groups others)
    (silent : (SectionTarget.properties client).last? groups key = none) :
    (settings.setProperty client key text).OfGroups directory others := by
  have last := of.gain gains silent (applied_of_slot rfl rfl (sets_property client key text))
  rwa [setProperty, ClientsSettings.touch, definitionOf_setDefinition, if_pos rfl,
    setDefinition_setDefinition] at last

end ClientsSettings.OfGroups

end HotRod
