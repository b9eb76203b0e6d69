import HotRod.Proofs.Text.Split
import HotRod.Settings.Section
set_option autoImplicit false

/-!
# What the titles of sections say

The titles of each kind of section are written down (`Titled`), and a title is read as a section exactly
where it is one of these. A client whose name holds a mark of a cache has no sections of its own for caches:
the title is cut at the first mark.
-/

namespace HotRod.SectionTarget

/-- No mark of a cache is found in a client's name, or across an end of it. -/
@[mk_iff] structure Unmarked (client : String) : Prop where
  whole : client ≠ "cache"
  start : ¬ "cache.".toList <+: client.toList
  inside : ¬ ".cache.".toList <:+: client.toList
  finish : ¬ ".cache".toList <:+ client.toList

/-- The only end of the mark that it also begins with is its dot. -/
theorem mark_infix_iff {client : List Char} :
    ".cache.".toList <:+: client ++ ".cache".toList ↔
      ".cache.".toList <:+: client ∨ ".cache".toList <:+ client := by
  refine (Text.infix_append_dropLast_iff (by decide)).trans (or_congr_right ?_)
  constructor
  · rintro ⟨front, back, started, nonempty, cut, ends, begins⟩
    obtain ⟨c, rest, rfl⟩ := List.exists_cons_of_ne_nil nonempty
    obtain rfl : c = '.' := (List.cons_prefix_cons.mp begins).1
    have whole : front = ".cache".toList ∧ rest = [] := by
      simpa [List.cons_eq_append_iff, started] using cut
    exact whole.1 ▸ ends
  · intro ends
    exact ⟨_, ['.'], by decide, by decide, by decide, ends, by decide⟩

/-- The titles that sections have, and what these are about. -/
inductive Titled : String → SectionTarget → Prop
  | properties : Titled "hotrod-client" (.properties defaultClient)
  | propertiesOf {client : String} : client ≠ "" →
      Titled ("hotrod-client." ++ client) (.properties client)
  | runtime : Titled "infinispan-client" (.runtime defaultClient)
  | runtimeOf {client : String} : client ≠ "" → ¬ "cache.".toList <+: client.toList →
      ¬ ".cache.".toList <:+: client.toList →
      Titled ("infinispan-client." ++ client) (.runtime client)
  | cache {name : String} : name ≠ "" →
      Titled ("infinispan-client.cache." ++ name) (.cache defaultClient name)
  | cacheOf {client name : String} : client ≠ "" → Unmarked client → name ≠ "" →
      Titled ("infinispan-client." ++ client ++ ".cache." ++ name) (.cache client name)

theorem ofTitle?_append_runtimeTitle (rest : String) :
    ofTitle? ("infinispan-client." ++ rest) = ofRuntimeRest? rest.toList := by
  have spelled : ("infinispan-client." ++ rest).toList = (runtimeTitle ++ ".").toList ++ rest.toList :=
    String.toList_append
  generalize "infinispan-client." ++ rest = title at spelled ⊢
  have other : title ≠ propertiesTitle := by
    rintro rfl
    exact absurd (List.cons.inj spelled).1 (by decide)
  have elsewhere : Text.withoutPrefix? (propertiesTitle ++ ".").toList title.toList = none := by
    rw [Option.eq_none_iff_forall_ne_some]
    intro client found
    rw [spelled, Text.withoutPrefix?_eq_some_iff] at found
    exact absurd (List.cons.inj found).1 (by decide)
  have longer : title ≠ runtimeTitle := by
    rintro rfl
    have lengths := congrArg List.length spelled
    simp [runtimeTitle] at lengths
  have here := Text.withoutPrefix?_eq_some_iff.mpr spelled
  simp only [ofTitle?, other, elsewhere, longer, here, if_false, Option.bind_some]

theorem ofTitle?_append_propertiesTitle {client : String} (nonempty : client ≠ "") :
    ofTitle? ("hotrod-client." ++ client) = some (.properties client) := by
  have spelled : ("hotrod-client." ++ client).toList =
      (propertiesTitle ++ ".").toList ++ client.toList := String.toList_append
  generalize "hotrod-client." ++ client = title at spelled ⊢
  have longer : title ≠ propertiesTitle := by
    rintro rfl
    have lengths := congrArg List.length spelled
    simp [propertiesTitle] at lengths
  have here := Text.withoutPrefix?_eq_some_iff.mpr spelled
  simp only [ofTitle?, longer, here, if_false]
  simp [nonempty]

theorem Unmarked.splitFirst? {client : String} (unmarked : Unmarked client) (name : List Char) :
    Text.splitFirst? ".cache.".toList (client.toList ++ ".cache.".toList ++ name) =
      some (client.toList, name) := by
  refine Text.splitFirst?_eq_some_iff.mpr ⟨rfl, fun found => ?_⟩
  rcases mark_infix_iff.mp found with inside | finish
  · exact unmarked.inside inside
  · exact unmarked.finish finish

theorem Unmarked.not_prefix {client : String} (nonempty : client ≠ "") (unmarked : Unmarked client)
    (name : List Char) : ¬ "cache.".toList <+: client.toList ++ ".cache.".toList ++ name := by
  rintro ⟨rest, spelled⟩
  rw [List.append_assoc, List.append_eq_append_iff] at spelled
  rcases spelled with ⟨more, longer, -⟩ | ⟨more, across, next⟩
  · exact unmarked.start ⟨more, longer.symm⟩
  · cases more with
    | nil => exact unmarked.start ⟨[], by simpa using across⟩
    | cons c more =>
      obtain rfl : c = '.' := (List.cons.inj next).1.symm
      have whole : client.toList = "cache".toList ∧ more = [] := by
        simpa [List.cons_eq_append_iff, nonempty] using across
      exact unmarked.whole (String.toList_inj.mp whole.1)

theorem ofTitle?_of_titled {title : String} {target : SectionTarget} (titled : Titled title target) :
    ofTitle? title = some target := by
  cases titled with
  | properties => rfl
  | runtime => rfl
  | propertiesOf nonempty => exact ofTitle?_append_propertiesTitle nonempty
  | @runtimeOf client nonempty start inside =>
    have unmarked : Text.withoutPrefix? cacheMark.toList client.toList = none :=
      Text.withoutPrefix?_eq_none_iff.mpr start
    have uncut : Text.splitFirst? ('.' :: cacheMark.toList) client.toList = none :=
      Text.splitFirst?_eq_none_iff.mpr inside
    rw [ofTitle?_append_runtimeTitle, ofRuntimeRest?]
    simp [unmarked, uncut, nonempty]
  | @cache name nonempty =>
    have marked : Text.withoutPrefix? cacheMark.toList ("cache." ++ name).toList = some name.toList :=
      Text.withoutPrefix?_eq_some_iff.mpr String.toList_append
    have spelled : "infinispan-client.cache." ++ name = "infinispan-client." ++ ("cache." ++ name) := by
      rw [← String.append_assoc]
      rfl
    rw [spelled, ofTitle?_append_runtimeTitle, ofRuntimeRest?, marked]
    simp [nonempty]
  | @cacheOf client name nonempty unmarked named =>
    have letters : (client ++ ".cache." ++ name).toList =
        client.toList ++ ".cache.".toList ++ name.toList := by
      simp only [String.toList_append]
    have unstarted : Text.withoutPrefix? cacheMark.toList (client ++ ".cache." ++ name).toList = none := by
      rw [letters]
      exact Text.withoutPrefix?_eq_none_iff.mpr (unmarked.not_prefix nonempty name.toList)
    have cut : Text.splitFirst? ('.' :: cacheMark.toList) (client ++ ".cache." ++ name).toList =
        some (client.toList, name.toList) := by
      rw [letters]
      exact unmarked.splitFirst? name.toList
    have spelled : "infinispan-client." ++ client ++ ".cache." ++ name =
        "infinispan-client." ++ (client ++ ".cache." ++ name) := by
      simp only [String.append_assoc]
    rw [spelled, ofTitle?_append_runtimeTitle, ofRuntimeRest?, unstarted, cut]
    simp [nonempty, named]

theorem unmarked_of_first {client name : List Char}
    (start : ¬ "cache.".toList <+: client ++ ".cache.".toList ++ name)
    (once : ¬ ".cache.".toList <:+: client ++ ".cache".toList) : Unmarked (.ofList client) := by
  obtain ⟨inside, finish⟩ := not_or.mp (mt mark_infix_iff.mpr once)
  have letters : (String.ofList client).toList = client := String.toList_ofList
  constructor
  · intro whole
    obtain rfl : client = "cache".toList := by rw [← letters, whole]
    exact start ⟨"cache.".toList ++ name, by simp⟩
  · intro early
    rw [letters] at early
    rw [List.append_assoc] at start
    exact start (early.trans (List.prefix_append _ _))
  · rwa [letters]
  · rwa [letters]

theorem titled_of_ofRuntimeRest? {rest : String} {target : SectionTarget}
    (read : ofRuntimeRest? rest.toList = some target) : Titled ("infinispan-client." ++ rest) target := by
  unfold ofRuntimeRest? at read
  split at read
  · next name marked =>
    split at read
    · contradiction
    · next nonempty =>
      cases read
      rw [Text.eq_append_of_withoutPrefix? marked, ← String.append_assoc]
      exact .cache (by simpa using nonempty)
  · next unmarked =>
    have start := Text.withoutPrefix?_eq_none_iff.mp unmarked
    split at read
    · next client name cut =>
      obtain ⟨spelled, once⟩ := Text.splitFirst?_eq_some_iff.mp cut
      have letters : rest = String.ofList client ++ ".cache." ++ String.ofList name := by
        rw [← String.toList_inj, spelled]
        simp [cacheMark]
      have apart := unmarked_of_first (spelled ▸ start) once
      split at read
      · contradiction
      · next nonempty =>
        cases read
        rw [letters, ← String.append_assoc, ← String.append_assoc]
        exact .cacheOf (by simp_all) apart (by simp_all)
    · next uncut =>
      split at read
      · contradiction
      · next nonempty =>
        cases read
        rw [String.ofList_toList]
        exact .runtimeOf (by simpa using nonempty) start (Text.splitFirst?_eq_none_iff.mp uncut)

theorem titled_of_ofTitle? {title : String} {target : SectionTarget}
    (read : ofTitle? title = some target) : Titled title target := by
  unfold ofTitle? at read
  split at read
  · next same =>
    cases read
    exact same ▸ .properties
  · split at read
    · next client found =>
      split at read
      · contradiction
      · next nonempty =>
        cases read
        rw [Text.eq_append_of_withoutPrefix? found]
        exact .propertiesOf (by simpa using nonempty)
    · split at read
      · next same =>
        cases read
        exact same ▸ .runtime
      · obtain ⟨letters, found, read⟩ := Option.bind_eq_some_iff.mp read
        rw [Text.eq_append_of_withoutPrefix? found]
        exact titled_of_ofRuntimeRest? (String.toList_ofList ▸ read)

theorem ofTitle?_eq_some_iff {title : String} {target : SectionTarget} :
    ofTitle? title = some target ↔ Titled title target :=
  ⟨titled_of_ofTitle?, ofTitle?_of_titled⟩

section
variable {title client name : String}

theorem ofTitle?_eq_properties_iff :
    ofTitle? title = some (.properties client) ↔
      (title = "hotrod-client" ∧ client = defaultClient) ∨
        (client ≠ "" ∧ title = "hotrod-client." ++ client) := by
  rw [ofTitle?_eq_some_iff]
  constructor
  · intro titled
    cases titled with
    | properties => exact .inl ⟨rfl, rfl⟩
    | propertiesOf nonempty => exact .inr ⟨nonempty, rfl⟩
  · rintro (⟨rfl, rfl⟩ | ⟨nonempty, rfl⟩)
    · exact .properties
    · exact .propertiesOf nonempty

theorem ofTitle?_eq_runtime_iff :
    ofTitle? title = some (.runtime client) ↔
      (title = "infinispan-client" ∧ client = defaultClient) ∨
        (client ≠ "" ∧ ¬ "cache.".toList <+: client.toList ∧
          ¬ ".cache.".toList <:+: client.toList ∧ title = "infinispan-client." ++ client) := by
  rw [ofTitle?_eq_some_iff]
  constructor
  · intro titled
    cases titled with
    | runtime => exact .inl ⟨rfl, rfl⟩
    | runtimeOf nonempty start inside => exact .inr ⟨nonempty, start, inside, rfl⟩
  · rintro (⟨rfl, rfl⟩ | ⟨nonempty, start, inside, rfl⟩)
    · exact .runtime
    · exact .runtimeOf nonempty start inside

theorem ofTitle?_eq_cache_iff :
    ofTitle? title = some (.cache client name) ↔
      name ≠ "" ∧ ((client = defaultClient ∧ title = "infinispan-client.cache." ++ name) ∨
        (client ≠ "" ∧ Unmarked client ∧
          title = "infinispan-client." ++ client ++ ".cache." ++ name)) := by
  rw [ofTitle?_eq_some_iff]
  constructor
  · intro titled
    cases titled with
    | cache named => exact ⟨named, .inl ⟨rfl, rfl⟩⟩
    | cacheOf nonempty unmarked named => exact ⟨named, .inr ⟨nonempty, unmarked, rfl⟩⟩
  · rintro ⟨named, ⟨rfl, rfl⟩ | ⟨nonempty, unmarked, rfl⟩⟩
    · exact .cache named
    · exact .cacheOf nonempty unmarked named

end

theorem unmarked_defaultClient : Unmarked defaultClient := by
  constructor <;> decide +kernel

/-- The titles of each kind, in both spellings of what belongs to the default client. -/
theorem titles_follow_table :
    (∀ title client, ofTitle? title = some (.properties client) ↔
      (title = "hotrod-client" ∧ client = defaultClient) ∨
        (client ≠ "" ∧ title = "hotrod-client." ++ client)) ∧
    (∀ title name, ofTitle? title = some (.cache defaultClient name) ↔
      name ≠ "" ∧ (title = "infinispan-client.cache." ++ name ∨
        title = "infinispan-client.<default>.cache." ++ name)) ∧
    (∀ client name, client ≠ "" → name ≠ "" →
      (ofTitle? ("infinispan-client." ++ client ++ ".cache." ++ name) = some (.cache client name) ↔
        client ≠ "cache" ∧ ¬ "cache.".toList <+: client.toList ∧
          ¬ ".cache.".toList <:+: client.toList ∧ ¬ ".cache".toList <:+ client.toList)) ∧
    (∀ title client, ofTitle? title = some (.runtime client) ↔
      (title = "infinispan-client" ∧ client = defaultClient) ∨
        (client ≠ "" ∧ ¬ "cache.".toList <+: client.toList ∧
          ¬ ".cache.".toList <:+: client.toList ∧ title = "infinispan-client." ++ client)) ∧
    ∀ title, (∀ target, ¬ Titled title target) → ofTitle? title = none := by
  refine ⟨fun title client => ofTitle?_eq_properties_iff, fun title name => ?_,
    fun client name nonempty named => ?_, fun title client => ofTitle?_eq_runtime_iff,
    fun title untitled => ?_⟩
  · have nonempty : defaultClient ≠ "" := by decide
    have spelled : "infinispan-client." ++ defaultClient ++ ".cache." =
      "infinispan-client.<default>.cache." := rfl
    rw [ofTitle?_eq_cache_iff, spelled]
    simp only [unmarked_defaultClient, true_and, ne_eq, nonempty, not_false_eq_true]
  · rw [ofTitle?_eq_cache_iff, ← unmarked_iff]
    constructor
    · rintro ⟨-, ⟨rfl, -⟩ | ⟨-, unmarked, -⟩⟩
      · exact unmarked_defaultClient
      · exact unmarked
    · intro unmarked
      exact ⟨named, .inr ⟨nonempty, unmarked, rfl⟩⟩
  · rw [Option.eq_none_iff_forall_ne_some]
    exact fun target read => untitled target (ofTitle?_eq_some_iff.mp read)

/-- The name of a client may hold dots, and so may that of its cache. -/
theorem dotted_names_are_cut_apart :
    "a.b" ≠ "" ∧ "cache.c" ≠ "" ∧
      ofTitle? ("infinispan-client." ++ "a.b" ++ ".cache." ++ "cache.c") =
        some (.cache "a.b" "cache.c") := by
  have named : "a.b" ≠ "" := by decide
  have cache : "cache.c" ≠ "" := by decide
  refine ⟨named, cache, (titles_follow_table.2.2.1 "a.b" "cache.c" named cache).mpr ⟨by decide, ?_⟩⟩
  decide +kernel

theorem default_client_is_also_named :
    ofTitle? "infinispan-client.<default>.cache.k" = some (.cache defaultClient "k") ∧
      ¬ ∃ name, name ≠ "" ∧
        "infinispan-client.<default>.cache.k" = "infinispan-client.cache." ++ name := by
  refine ⟨by decide +kernel, ?_⟩
  rintro ⟨name, -, spelled⟩
  have begins : "infinispan-client.cache.".toList <+: "infinispan-client.<default>.cache.k".toList :=
    ⟨name.toList, (String.toList_append.symm.trans (congrArg String.toList spelled.symm))⟩
  revert begins
  decide +kernel

end HotRod.SectionTarget
