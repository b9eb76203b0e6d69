import HotRod.Proofs.Settings.Entry
import HotRod.Settings.Load
set_option autoImplicit false

/-!
# Settings of a whole document

The groups of a document are taken one after another. As long as there is no problem, each slot has
the value of the last entry for it among the groups so far that are about its target, and what is there
is what some group has named. The first group or entry with a problem ends it all.
-/

namespace HotRod

namespace SectionTarget

def entries (target : SectionTarget) (groups : List Ini.Group) : List (String × String) :=
  (groups.filter fun group => ofTitle? group.title = some target).flatMap Ini.Group.entries

/-- The value of the last entry with a key, among the groups about a target. -/
def last? (target : SectionTarget) (groups : List Ini.Group) (key : String) : Option String :=
  lastValue? key (target.entries groups)

def NamedIn (target : SectionTarget) (groups : List Ini.Group) : Prop :=
  ∃ group ∈ groups, ∃ named, ofTitle? group.title = some named ∧ target ∈ named.makes

variable {target : SectionTarget} {groups more : List Ini.Group} {title key : String}

theorem last?_append (target : SectionTarget) (groups more : List Ini.Group) (key : String) :
    target.last? (groups ++ more) key = (target.last? more key).or (target.last? groups key) := by
  rw [last?, entries, List.filter_append, List.flatMap_append]
  exact lastValue?_append key _ _

theorem last?_singleton (target : SectionTarget) (group : Ini.Group) (key : String) :
    target.last? [group] key =
      if ofTitle? group.title = some target then lastValue? key group.entries else none := by
  by_cases about : ofTitle? group.title = some target <;> simp [last?, entries, about]

theorem namedIn_append : target.NamedIn (groups ++ more) ↔ target.NamedIn groups ∨ target.NamedIn more := by
  simp [NamedIn, or_and_right, exists_or]

theorem namedIn_singleton {group : Ini.Group} :
    target.NamedIn [group] ↔ ∃ named, ofTitle? group.title = some named ∧ target ∈ named.makes := by
  simp [NamedIn]

theorem last?_title : target.last? (groups ++ [⟨title, []⟩]) key = target.last? groups key := by
  rw [last?_append, last?_singleton]
  simp

theorem last?_entry {entries : List (String × String)} {name text : String} :
    target.last? (groups ++ [⟨title, entries ++ [(name, text)]⟩]) key =
      if ofTitle? title = some target ∧ name = key then some text
      else target.last? (groups ++ [⟨title, entries⟩]) key := by
  rw [last?_append, last?_append, last?_singleton, last?_singleton, lastValue?_append, lastValue?_cons]
  by_cases about : ofTitle? title = some target <;> by_cases same : name = key <;>
    simp [about, same]

end SectionTarget

namespace ClientsSettings

/-- The settings that the groups of a document amount to. -/
structure OfGroups (directory : String) (groups : List Ini.Group) (settings : ClientsSettings) :
    Prop where
  plain : settings.Plain directory
  values : ∀ slot : Slot, slot.settle (slot.target.last? groups slot.text) = .ok (settings.value slot)
  has : ∀ target, settings.Has target ↔ target.NamedIn groups

theorem ofGroups_nil (directory : String) : (setResourceDirectory directory {}).OfGroups directory [] where
  plain := ⟨rfl, fun _ => rfl, fun _ => rfl⟩
  values slot := by
    cases slot with
    | schemaRegistration | property client key => rfl
    | runtime client key => exact congrArg Except.ok (RuntimeSection.field_empty key).symm
    | override client cache key => exact congrArg Except.ok (CacheOverrides.field_empty key).symm
  has target := by
    cases target <;> simp [Has, SectionTarget.NamedIn, setResourceDirectory, runtimeSection, runtimeOf]

namespace OfGroups
variable {directory title : String} {groups : List Ini.Group} {settings after : ClientsSettings}
  {target : SectionTarget}

theorem touch (of : settings.OfGroups directory groups)
    (named : SectionTarget.ofTitle? title = some target) :
    (settings.touch target).OfGroups directory (groups ++ [⟨title, []⟩]) where
  plain := of.plain.touch target
  values slot := by
    rw [SectionTarget.last?_title, value_touch]
    exact of.values slot
  has other := by
    rw [has_touch, SectionTarget.namedIn_append, SectionTarget.namedIn_singleton, of.has, named]
    simp [or_comm]

theorem entry {entries : List (String × String)} {key text : String}
    (of : settings.OfGroups directory (groups ++ [⟨title, entries⟩]))
    (named : SectionTarget.ofTitle? title = some target)
    (applied : Applied target key text settings after) :
    after.OfGroups directory (groups ++ [⟨title, entries ++ [(key, text)]⟩]) := by
  have names (other : SectionTarget) :
      other.NamedIn (groups ++ [⟨title, entries ++ [(key, text)]⟩]) ↔
        other.NamedIn (groups ++ [⟨title, entries⟩]) := by
    simp only [SectionTarget.namedIn_append, SectionTarget.namedIn_singleton]
  have slot_of {slot : Slot}
      (here : SectionTarget.ofTitle? title = some slot.target ∧ key = slot.text) :
      target.slot? key = some slot :=
    SectionTarget.slot?_eq_some_iff.mpr ⟨Option.some.inj (named.symm.trans here.1), here.2⟩
  unfold Applied at applied
  cases known : target.slot? key with
  | none =>
    simp only [known] at applied
    subst applied
    refine ⟨of.plain, fun slot => ?_, fun other => (of.has other).trans (names other).symm⟩
    rw [SectionTarget.last?_entry, if_neg fun here => nomatch known.symm.trans (slot_of here)]
    exact of.values slot
  | some slot =>
    simp only [known] at applied
    obtain ⟨given, read, sets⟩ := applied
    obtain ⟨about, same⟩ := SectionTarget.slot?_eq_some_iff.mp known
    have there : settings.Has slot.target := by
      rw [of.has, SectionTarget.namedIn_append, SectionTarget.namedIn_singleton]
      exact .inr ⟨target, named, about ▸ target.mem_makes_self⟩
    refine ⟨sets.plain directory of.plain, fun other => ?_, fun other => ?_⟩
    · rw [SectionTarget.last?_entry]
      by_cases this : other = slot
      · subst this
        rw [if_pos ⟨about ▸ named, same⟩, sets.value]
        exact read
      · rw [if_neg fun here => this (Option.some.inj ((slot_of here).symm.trans known)),
          sets.others other this]
        exact of.values other
    · rw [sets.has there, of.has, names]

/-- A client is named when some group names it, be it for its settings, a cache or its properties. -/
theorem mem_names_iff (of : settings.OfGroups directory groups) {client : String} :
    client ∈ settings.names ↔
      ∃ group ∈ groups, ∃ target, SectionTarget.ofTitle? group.title = some target ∧
        target.client = client := by
  have made (target : SectionTarget) :
      SectionTarget.properties client ∈ target.makes ∨ SectionTarget.runtime client ∈ target.makes ↔
        target.client = client := by
    cases target <;> simp [SectionTarget.makes, SectionTarget.client, eq_comm]
  have there := or_congr (of.has (.properties client)) (of.has (.runtime client))
  rw [mem_names]
  refine there.trans ?_
  simp only [SectionTarget.NamedIn, ← made, and_or_left, exists_or]

end OfGroups

end ClientsSettings

namespace Ini

/-- The first problem with a group: its title, or an entry that is refused. -/
def Group.problem? (group : Group) : Option SettingsError :=
  match SectionTarget.ofTitle? group.title with
  | none => some (.unrecognisedTitle group.title)
  | some target => group.entries.findSome? fun (key, text) =>
      (target.refusal? key text).map (ClientsSettings.refuse group.title key)

def Document.problem? (document : Document) : Option SettingsError :=
  if document.untitled.isEmpty then document.groups.findSome? Group.problem?
  else some (.parse .untitledEntries)

/-- The title of a group is recognised, and every entry with a known key has a value for it. -/
def Group.Readable (group : Group) : Prop :=
  ∃ target, SectionTarget.ofTitle? group.title = some target ∧
    ∀ key text, (key, text) ∈ group.entries →
      ∀ slot, target.slot? key = some slot → ∃ value, slot.read text = .ok value

theorem Group.problem?_eq_none_iff {group : Group} : group.problem? = none ↔ group.Readable := by
  unfold problem? Readable
  cases SectionTarget.ofTitle? group.title with
  | none => simp
  | some target =>
    simp [SectionTarget.refusal?, error?_eq_none_iff]

theorem Document.problem?_eq_none_iff {document : Document} :
    document.problem? = none ↔
      document.untitled = [] ∧ ∀ group ∈ document.groups, group.Readable := by
  unfold problem?
  split
  · next empty =>
    rw [List.findSome?_eq_none_iff]
    simp [List.isEmpty_iff.mp empty, Group.problem?_eq_none_iff]
  · next entries => simp [mt List.isEmpty_iff.mpr entries]

end Ini

namespace ClientsSettings
variable {directory : String}

theorem applyGroup_ends {groups : List Ini.Group} {settings : ClientsSettings}
    (of : settings.OfGroups directory groups) (group : Ini.Group) :
    (applyGroup group).Ends settings group.problem? (OfGroups directory (groups ++ [group])) := by
  unfold applyGroup Ini.Group.problem?
  cases named : SectionTarget.ofTitle? group.title with
  | none => exact Action.ends_fail
  | some target =>
    apply Action.Ends.of_same (Action.same_bind_of_ok rfl)
    refine Action.ends_forEach (fun entries => OfGroups directory (groups ++ [⟨group.title, entries⟩]))
      ?_ group.entries [] (of.touch named)
    intro entries item before of
    exact (applyEntry_ends group.title target item.1 item.2).mono fun _ => of.entry named

/-- A document amounts to its groups unless there is a problem, and then ends with the first. -/
theorem applyDocument_ends (directory : String) (document : Ini.Document) :
    (applyDocument document).Ends (setResourceDirectory directory {}) document.problem?
      (OfGroups directory document.groups) := by
  unfold applyDocument Ini.Document.problem?
  split
  · exact Action.ends_forEach (OfGroups directory) (fun _ group _ of => applyGroup_ends of group)
      document.groups [] (ofGroups_nil directory)
  · exact Action.ends_fail

end ClientsSettings

end HotRod
