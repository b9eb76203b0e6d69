import HotRod.Proofs.Settings.Groups
set_option autoImplicit false

/-!
# Rearranged documents

Groups may change places as long as those about one target stay in order, a group may be split in two
about the same target, and a group may come twice in a row. The settings of a document remain what they
are.
-/

namespace HotRod

namespace Ini

/-- The groups of one document come from those of another. -/
inductive Rearranged : List Group → List Group → Prop
  | refl (groups : List Group) : Rearranged groups groups
  | symm {groups others : List Group} : Rearranged groups others → Rearranged others groups
  | trans {groups middle others : List Group} :
    Rearranged groups middle → Rearranged middle others → Rearranged groups others
  | within (before after : List Group) {groups others : List Group} :
    Rearranged groups others → Rearranged (before ++ groups ++ after) (before ++ others ++ after)
  | reorder {groups others : List Group} :
    (∀ target?, groups.filter (SectionTarget.ofTitle? ·.title = target?) =
      others.filter (SectionTarget.ofTitle? ·.title = target?)) →
    Rearranged groups others
  | split {title later : String} (entries more : List (String × String)) :
    SectionTarget.ofTitle? title = SectionTarget.ofTitle? later →
    Rearranged [⟨title, entries ++ more⟩] [⟨title, entries⟩, ⟨later, more⟩]
  | double (group : Group) : Rearranged [group] [group, group]

theorem Rearranged.swap {group other : Group}
    (different : SectionTarget.ofTitle? group.title ≠ SectionTarget.ofTitle? other.title) :
    Rearranged [group, other] [other, group] := by
  apply reorder
  intro target?
  by_cases about : SectionTarget.ofTitle? group.title = target?
  · have elsewhere : SectionTarget.ofTitle? other.title ≠ target? :=
      fun also => different (about.trans also.symm)
    simp [about, elsewhere]
  · simp [List.filter_cons, about]

/-- Groups give the same settings, or no settings at all. -/
structure SameSense (groups others : List Group) : Prop where
  last : ∀ (target : SectionTarget) key, target.last? groups key = target.last? others key
  named : ∀ target : SectionTarget, target.NamedIn groups ↔ target.NamedIn others
  readable : (∀ group ∈ groups, group.Readable) ↔ ∀ group ∈ others, group.Readable

namespace SameSense
variable {groups middle others : List Group}

theorem refl (groups : List Group) : SameSense groups groups :=
  ⟨fun _ _ => rfl, fun _ => .rfl, .rfl⟩

theorem symm (same : SameSense groups others) : SameSense others groups :=
  ⟨fun target key => (same.last target key).symm, fun target => (same.named target).symm,
    same.readable.symm⟩

theorem trans (same : SameSense groups middle) (also : SameSense middle others) :
    SameSense groups others :=
  ⟨fun target key => (same.last target key).trans (also.last target key),
    fun target => (same.named target).trans (also.named target), same.readable.trans also.readable⟩

theorem within (before after : List Group) (same : SameSense groups others) :
    SameSense (before ++ groups ++ after) (before ++ others ++ after) where
  last target key := by
    simp only [SectionTarget.last?_append, same.last]
  named target := by
    simp only [SectionTarget.namedIn_append, same.named]
  readable := by
    simp only [List.forall_mem_append, same.readable]

theorem reorder (order : ∀ target?, groups.filter (SectionTarget.ofTitle? ·.title = target?) =
    others.filter (SectionTarget.ofTitle? ·.title = target?)) : SameSense groups others := by
  have mem (group : Group) : group ∈ groups ↔ group ∈ others := by
    have about := congrArg (group ∈ ·) (order (SectionTarget.ofTitle? group.title))
    simpa only [List.mem_filter, decide_true, and_true, eq_iff_iff] using about
  constructor
  · intro target key
    rw [SectionTarget.last?, SectionTarget.entries, order (some target)]
    rfl
  · intro target
    simp only [SectionTarget.NamedIn, mem]
  · simp only [mem]

theorem split {title later : String} (entries more : List (String × String))
    (same : SectionTarget.ofTitle? title = SectionTarget.ofTitle? later) :
    SameSense [⟨title, entries ++ more⟩] [⟨title, entries⟩, ⟨later, more⟩] where
  last target key := by
    change target.last? [⟨title, entries ++ more⟩] key =
      target.last? ([⟨title, entries⟩] ++ [⟨later, more⟩]) key
    simp only [SectionTarget.last?_append, SectionTarget.last?_singleton, ← same, lastValue?_append]
    split
    · rfl
    · rfl
  named target := by simp [SectionTarget.NamedIn, same]
  readable := by
    simp only [List.forall_mem_cons, Group.Readable, ← same]
    cases SectionTarget.ofTitle? title with
    | none => simp
    | some target => simp [or_imp, forall_and]

theorem double (group : Group) : SameSense [group] [group, group] where
  last target key := by
    change target.last? [group] key = target.last? ([group] ++ [group]) key
    rw [SectionTarget.last?_append, Option.or_self]
  named target := by simp [SectionTarget.NamedIn]
  readable := by simp

end SameSense

/-- Each kind of rearrangement keeps the sense of the groups. -/
theorem Rearranged.sameSense {groups others : List Group} (rearranged : Rearranged groups others) :
    SameSense groups others := by
  induction rearranged with
  | refl groups => exact .refl groups
  | symm _ same => exact same.symm
  | trans _ _ same also => exact same.trans also
  | within before after _ same => exact same.within before after
  | reorder order => exact .reorder order
  | split entries more same => exact .split entries more same
  | double group => exact .double group

/-- Rearranged groups are as free of problems as before, though another problem may come first. -/
theorem Rearranged.problem?_eq_none_iff {document rearranged : Document}
    (untitled : rearranged.untitled = document.untitled)
    (same : Rearranged document.groups rearranged.groups) :
    rearranged.problem? = none ↔ document.problem? = none := by
  rw [Document.problem?_eq_none_iff, Document.problem?_eq_none_iff, untitled, same.sameSense.readable]

end Ini

namespace ClientsSettings
variable {σ : Type} {text directory : String} {document : Ini.Document}

theorem OfGroups.eq_of_sameSense {groups others : List Ini.Group} {settings other : ClientsSettings}
    (same : Ini.SameSense groups others) (of : settings.OfGroups directory groups)
    (also : other.OfGroups directory others) : settings = other := by
  apply eq_of_value of.plain also.plain
  · intro slot
    have left := of.values slot
    rw [same.last, also.values slot] at left
    exact (Except.ok.inj left).symm
  · intro target
    rw [of.has, also.has, same.named]

/-- The settings that a document makes, or the problem that ends it. -/
def ofDocument (directory : String) (document : Ini.Document) : Except SettingsError ClientsSettings :=
  let ended := (applyDocument document).run (setResourceDirectory directory {})
  ended.result.map fun _ => ended.state

theorem ofDocument_of_problem (directory : String) {problem : SettingsError}
    (found : document.problem? = some problem) : ofDocument directory document = .error problem := by
  have ends := applyDocument_ends directory document
  rw [found] at ends
  rw [ofDocument, ends]
  rfl

theorem ofDocument_of_no_problem (directory : String) (sound : document.problem? = none) :
    ∃ settings, ofDocument directory document = .ok settings ∧
      settings.OfGroups directory document.groups := by
  have ends := applyDocument_ends directory document
  rw [sound] at ends
  obtain ⟨done, of⟩ := ends
  refine ⟨_, ?_, of⟩
  rw [ofDocument, done]
  rfl

theorem ofDocument_eq_ok_iff {settings : ClientsSettings} :
    ofDocument directory document = .ok settings ↔
      document.problem? = none ∧ settings.OfGroups directory document.groups := by
  cases found : document.problem? with
  | some problem =>
    rw [ofDocument_of_problem directory found]
    exact ⟨nofun, fun sound => absurd sound.1 (Option.some_ne_none problem)⟩
  | none =>
    obtain ⟨same, succeeds, of⟩ := ofDocument_of_no_problem directory found
    rw [succeeds]
    constructor
    · rintro ⟨⟩
      exact ⟨rfl, of⟩
    · rintro ⟨-, also⟩
      rw [of.eq_of_sameSense (.refl document.groups) also]

theorem ofDocument_eq_error_iff {error : SettingsError} :
    ofDocument directory document = .error error ↔ document.problem? = some error := by
  cases found : document.problem? with
  | some problem =>
    rw [ofDocument_of_problem directory found, Except.error.injEq, Option.some.injEq]
  | none =>
    obtain ⟨settings, succeeds, -⟩ := ofDocument_of_no_problem directory found
    rw [succeeds]
    exact ⟨nofun, fun problem => absurd problem (Option.some_ne_none error).symm⟩

theorem ofDocument_rearranged {rearranged : Ini.Document}
    (untitled : rearranged.untitled = document.untitled)
    (same : Ini.Rearranged document.groups rearranged.groups) (directory : String) :
    (ofDocument directory rearranged).toOption = (ofDocument directory document).toOption := by
  have sound := same.problem?_eq_none_iff untitled
  cases found : document.problem? with
  | some problem =>
    rw [found] at sound
    obtain ⟨later, foundLater⟩ :=
      Option.ne_none_iff_exists'.mp (mt sound.mp (Option.some_ne_none problem))
    rw [ofDocument_of_problem directory found, ofDocument_of_problem directory foundLater]
    rfl
  | none =>
    obtain ⟨settings, succeeds, of⟩ := ofDocument_of_no_problem directory found
    obtain ⟨again, succeedsAgain, ofAgain⟩ := ofDocument_of_no_problem directory (sound.mpr found)
    rw [succeeds, succeedsAgain, of.eq_of_sameSense same.sameSense ofAgain]

theorem parse_of_delivered (delivered : Ini.Document.read text = .ok document) (directory : String)
    (state : σ) : ((parse text directory).run state).result = ofDocument directory document := by
  unfold parse
  rw [delivered]
  exact (Action.same_bind_of_ok rfl).2

/-- The last entry for each slot decides, and nothing else of the order or the grouping does. A text
makes the settings of the document that it is read as. -/
theorem documents_take_last (directory : String) (document : Ini.Document) :
    ((∃ settings, ofDocument directory document = .ok settings) ↔
      document.untitled = [] ∧ ∀ group ∈ document.groups, group.Readable) ∧
    (∀ error, ofDocument directory document = .error error ↔ document.problem? = some error) ∧
    (∀ settings, ofDocument directory document = .ok settings →
      settings.OfGroups directory document.groups ∧
      ∀ client, client ∈ settings.names ↔
        ∃ group ∈ document.groups, ∃ target, SectionTarget.ofTitle? group.title = some target ∧
          target.client = client) ∧
    (∀ rearranged : Ini.Document, rearranged.untitled = document.untitled →
      Ini.Rearranged document.groups rearranged.groups →
      (ofDocument directory rearranged).toOption = (ofDocument directory document).toOption) ∧
    ∀ {σ : Type} (text : String) (state : σ), Ini.Document.read text = .ok document →
      ((parse text directory).run state).result = ofDocument directory document := by
  refine ⟨?_, fun error => ofDocument_eq_error_iff, ?_, ?_, ?_⟩
  · rw [← Ini.Document.problem?_eq_none_iff]
    constructor
    · rintro ⟨settings, succeeds⟩
      exact (ofDocument_eq_ok_iff.mp succeeds).1
    · intro sound
      obtain ⟨settings, succeeds, -⟩ := ofDocument_of_no_problem directory sound
      exact ⟨settings, succeeds⟩
  · intro settings succeeds
    have of := (ofDocument_eq_ok_iff.mp succeeds).2
    exact ⟨of, fun client => of.mem_names_iff⟩
  · intro rearranged untitled same
    exact ofDocument_rearranged untitled same directory
  · intro σ text state delivered
    exact parse_of_delivered delivered directory state

def apart : Ini.Document where
  groups :=
    [⟨"infinispan-client", [("hosts", "a"), ("use-auth", "true")]⟩, ⟨"hotrod-client.b", [("k", "1")]⟩,
      ⟨"infinispan-client", [("hosts", "c")]⟩]

def together : Ini.Document where
  groups :=
    [⟨"hotrod-client.b", [("k", "1")]⟩,
      ⟨"infinispan-client", [("hosts", "a"), ("use-auth", "true"), ("hosts", "c")]⟩]

def apartText : String :=
  "[infinispan-client]\nhosts=a\nuse-auth=true\n[hotrod-client.b]\nk=1\n[infinispan-client]\nhosts=c\n"

def togetherText : String :=
  "[hotrod-client.b]\nk=1\n[infinispan-client]\nhosts=a\nuse-auth=true\nhosts=c\n"

theorem rearranged_apart : Ini.Rearranged apart.groups together.groups := by
  have other : Ini.Rearranged apart.groups
      [⟨"hotrod-client.b", [("k", "1")]⟩,
        ⟨"infinispan-client", [("hosts", "a"), ("use-auth", "true")]⟩,
        ⟨"infinispan-client", [("hosts", "c")]⟩] :=
    .within [] [⟨"infinispan-client", [("hosts", "c")]⟩] (.swap (by decide +kernel))
  refine other.trans ?_
  exact .within [⟨"hotrod-client.b", [("k", "1")]⟩] []
    (.symm (.split [("hosts", "a"), ("use-auth", "true")] [("hosts", "c")] rfl))

/-- The hosts named last count, and bringing the two sections together changes nothing. -/
theorem section_apart_takes_last :
    Ini.Document.read apartText = .ok apart ∧ Ini.Document.read togetherText = .ok together ∧
    ∃ settings, ((parse apartText "." : Action Unit SettingsError ClientsSettings).run ()).result =
        .ok settings ∧
      settings.value (.runtime defaultClient .hosts) = some "c" ∧
      ((parse togetherText "." : Action Unit SettingsError ClientsSettings).run ()).result.toOption =
        some settings := by
  have delivered : Ini.Document.read apartText = .ok apart := eq_ok_of_toOption (by decide +kernel)
  have also : Ini.Document.read togetherText = .ok together := eq_ok_of_toOption (by decide +kernel)
  obtain ⟨succeeds, -, result, same, read⟩ := documents_take_last "." apart
  obtain ⟨-, -, -, -, readTogether⟩ := documents_take_last "." together
  have sound : apart.problem? = none := by decide +kernel
  obtain ⟨settings, done⟩ := succeeds.mpr (Ini.Document.problem?_eq_none_iff.mp sound)
  refine ⟨delivered, also, settings, (read apartText () delivered).trans done, ?_, ?_⟩
  · have last : SectionTarget.last? (.runtime defaultClient) apart.groups "hosts" = some "c" := by
      decide +kernel
    have value := (result settings done).1.values (.runtime defaultClient .hosts)
    rw [Slot.target, Slot.text, RuntimeKey.text, last] at value
    exact (Except.ok.inj value).symm
  · rw [readTogether togetherText () also, same together rfl rearranged_apart, done]
    rfl

end ClientsSettings

end HotRod
