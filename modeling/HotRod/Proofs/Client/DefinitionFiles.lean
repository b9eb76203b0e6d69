import HotRod.Proofs.Client.CachePrecedence
import HotRod.Proofs.Configuration.Build
set_option autoImplicit false

/-!
# Files that are recorded for definitions

A cache is given its definition by any number of sources, in the query of a URI, in the bag and in the
overrides. The last source counts, while the file that is recorded is the last file among them. So the
definition comes from the recorded file unless another text was given after that file.
-/

namespace HotRod

open HotRod.Action

namespace CacheSource

def file? {α : Type} : CacheSource α → Option String
  | .file path => some path
  | _ => none

def inline? : CacheSource String → Option String
  | .value definition => some definition
  | .text definition => some definition
  | .file _ => none

end CacheSource

/-- What sources make of a definition when they are applied in order: the last one counts, the last file
is recorded, and no file is passed over that cannot be read. -/
structure CacheDraft.Defines (files : Files) (given : List (CacheSource String))
    (before after : CacheDraft) : Prop where
  settled : CacheSetting.definition.settle files given.getLast? before.definition = .ok after.definition
  recorded : after.definitionFile =
    (given.filterMap CacheSource.file?).getLast?.or before.definitionFile
  readable : ∀ path, .file path ∈ given → ∃ contents, files.read path = .ok contents

namespace CacheDraft

namespace Defines
variable {files : Files} {given : List (CacheSource String)} {before after : CacheDraft}

theorem nothing (definition : after.definition = before.definition)
    (recorded : after.definitionFile = before.definitionFile) : Defines files [] before after where
  settled := by
    rw [definition]
    rfl
  recorded := recorded
  readable _ member := absurd member List.not_mem_nil

theorem inline {source : CacheSource String} {definition : String}
    (gives : source.inline? = some definition) :
    Defines files [source] before { before with definition := some definition } := by
  cases source with
  | file path => cases gives
  | value other | text other =>
    cases gives
    constructor
    · rfl
    · rfl
    · intro path member
      cases List.mem_singleton.mp member

theorem file {path : String} {changed : CacheDraft}
    (read : before.readDefinition files path = .ok changed) :
    Defines files [.file path] before changed := by
  obtain ⟨contents, found, rfl⟩ := map_eq_ok_iff.mp read
  constructor
  · exact map_eq_ok_iff.mpr ⟨contents, CacheSetting.resolve_file found, rfl⟩
  · rfl
  · intro other member
    obtain rfl := CacheSource.file.inj (List.mem_singleton.mp member)
    exact ⟨contents, found⟩

theorem append {later : List (CacheSource String)} {middle : CacheDraft}
    (first : Defines files given before middle) (second : Defines files later middle after) :
    Defines files (given ++ later) before after where
  settled := by
    rw [List.getLast?_append]
    cases last : later.getLast? with
    | some source =>
      have settled := second.settled
      rw [last] at settled
      exact settled
    | none =>
      have kept := second.settled
      rw [last, CacheSetting.settle, Except.ok.injEq] at kept
      rw [Option.none_or, first.settled, kept]
  recorded := by
    rw [List.filterMap_append, List.getLast?_append, Option.or_assoc, ← first.recorded, second.recorded]
  readable path member := by
    rcases List.mem_append.mp member with early | late
    · exact first.readable path early
    · exact second.readable path late

/-- A file that is recorded where none was before could be read, and the definition comes from it unless
another text was given last. -/
theorem origin (defines : Defines files given {} after) {path : String}
    (recorded : after.definitionFile = some path) :
    ∃ contents, files.read path = .ok contents ∧
      (after.definition = some contents ↔
        ∀ text, given.getLast?.bind CacheSource.inline? = some text → text = contents) := by
  have last : (given.filterMap CacheSource.file?).getLast? = some path := by
    have same := defines.recorded
    rw [recorded, Option.or_none] at same
    exact same.symm
  obtain ⟨source, among, reads⟩ := List.mem_filterMap.mp (List.mem_of_getLast? last)
  obtain ⟨contents, found⟩ : ∃ contents, files.read path = .ok contents := by
    cases source with
    | file other =>
      cases reads
      exact defines.readable path among
    | _ => cases reads
  refine ⟨contents, found, ?_⟩
  have settled := defines.settled
  cases counts : given.getLast? with
  | none =>
    rw [List.getLast?_eq_none_iff.mp counts] at among
    exact absurd among List.not_mem_nil
  | some final =>
    obtain ⟨front, rfl⟩ := List.getLast?_eq_some_iff.mp counts
    rw [counts] at settled
    obtain ⟨definition, given, same⟩ := map_eq_ok_iff.mp settled
    rw [← same, Option.bind_some, Option.some.injEq]
    cases final with
    | file other =>
      rw [List.filterMap_append, List.getLast?_append] at last
      obtain rfl : other = path := Option.some.inj last
      rw [CacheSetting.resolve_file found] at given
      exact iff_of_true (Except.ok.inj given).symm nofun
    | value text | text text =>
      cases given
      exact ⟨fun equal _ gives => (Option.some.inj gives).symm.trans equal, fun all => all _ rfl⟩

end Defines

theorem defines_set {files : Files} {draft changed : CacheDraft} {key : CacheKey} {text : String}
    (set : draft.set files text key = .ok changed) :
    Defines files (CacheSetting.definition.keySource? key text).toList draft changed := by
  cases key
  case configurationUri => exact .file (mapError_eq_ok_iff.mp set)
  case configuration =>
    cases set
    exact .inline rfl
  case templateName =>
    cases set
    exact .nothing rfl rfl
  case nearCacheMode | nearCacheMaxEntries | bloomFilter =>
    obtain ⟨value, -, rfl⟩ := map_eq_ok_iff.mp (mapError_eq_ok_iff.mp set)
    exact .nothing rfl rfl

end CacheDraft

namespace Draft
variable {files : Files} {before after : Draft}

/-- One property is at most one source for the definition of a cache. -/
theorem defines_of_applied (cache : String) {property text : String}
    (applied : Applied files property text before after) :
    CacheDraft.Defines files (CacheSetting.definition.propertySource? cache (property, text)).toList
      (before.cache cache) (after.cache cache) := by
  cases applied with
  | ignored meaning =>
    rw [CacheSetting.definition.propertySource?_of_other (by simp [meaning])]
    exact .nothing rfl rfl
  | @client key _ named set =>
    have meaning := PropertyKey.ofText?_eq_client_iff.mpr named
    have same : after.cache cache = before.cache cache :=
      cache_eq_of_getElem? (by rw [caches_setClient set])
    rw [CacheSetting.definition.propertySource?_of_other (by simp [meaning]), same]
    exact .nothing rfl rfl
  | @cache named key changed meaning set =>
    rw [CacheSetting.definition.propertySource?_of_cache meaning, cache_setCache]
    by_cases same : named = cache
    · subst same
      rw [if_pos rfl, if_pos rfl]
      exact CacheDraft.defines_set set
    · rw [if_neg same, if_neg same]
      exact .nothing rfl rfl

theorem defines_applyProperties (cache : String) {properties : List (String × String)}
    (done : (applyProperties files properties).Completes before () after) :
    CacheDraft.Defines files
      (properties.filterMap (CacheSetting.definition.propertySource? cache))
      (before.cache cache) (after.cache cache) := by
  unfold applyProperties at done
  induction properties generalizing before with
  | nil =>
    rw [completes_forEach_nil.mp done]
    exact .nothing rfl rfl
  | cons property properties ih =>
    obtain ⟨middle, applied, rest⟩ := completes_forEach_cons.mp done
    rw [List.filterMap_eq_flatMap_toList, List.flatMap_cons, ← List.filterMap_eq_flatMap_toList]
    exact (defines_of_applied cache (applied_of_completes applied)).append (ih rest)

theorem defines_applyBag {bag : Properties}
    (done : (applyBag files bag).Completes before () after) :
    ∃ uri?, bag[ClientKey.uri.text]?.mapM HotRodUri.parse = .ok uri? ∧
      ∀ cache, CacheDraft.Defines files
        ((uri?.elim [] HotRodUri.properties ++ bag.toList).filterMap
          (CacheSetting.definition.propertySource? cache))
        (before.cache cache) (after.cache cache) := by
  obtain ⟨uri?, aimed, asked, applied, aims, query, properties, rfl⟩ := stages_of_applyBag done
  refine ⟨uri?, aims.parsed, fun cache => ?_⟩
  have same : aimed.cache cache = before.cache cache := by cases aims <;> rfl
  have queried := defines_applyProperties cache query
  have bagged := defines_applyProperties cache properties
  rw [same] at queried
  rw [List.filterMap_append]
  exact queried.append bagged

end Draft

namespace CacheOverrides
variable {files : Files} {settings : RuntimeSettings} {name : String} {overrides : CacheOverrides}
  {before after : Draft}

def given (settings : RuntimeSettings) (overrides : CacheOverrides) : List (CacheSource String) :=
  ((overrides.sources settings .definition).findSome? id).toList

theorem defines_setCache {sources : List (CacheSource String)} {changed : CacheDraft}
    (defines : CacheDraft.Defines files sources (before.cache name) changed) :
    CacheDraft.Defines files sources (before.cache name) ((before.setCache name changed).cache name) := by
  rw [Draft.cache_setCache, if_pos rfl]
  exact defines

theorem defines_applyDefinition
    (done : (overrides.applyDefinition files settings name).Completes before () after) :
    CacheDraft.Defines files (overrides.given settings) (before.cache name) (after.cache name) := by
  unfold applyDefinition at done
  unfold given sources
  cases file : overrides.definitionFile with
  | some path =>
    simp only [file, completes_then, completes_emit, completes_get_bind, completes_ofExcept_bind,
      completes_modify] at done
    obtain ⟨_, rfl, cache, read, rfl⟩ := done
    exact defines_setCache (.file (mapError_eq_ok_iff.mp read))
  | none =>
    cases inline : overrides.definition with
    | some text =>
      simp only [file, inline, completes_modify] at done
      subst done
      exact defines_setCache (.inline rfl)
    | none =>
      simp only [file, inline, completes_pure] at done
      rw [done.2]
      exact .nothing rfl rfl

theorem defines_apply (done : (overrides.apply files settings name).Completes before () after) :
    CacheDraft.Defines files (overrides.given settings) (before.cache name) (after.cache name) := by
  obtain ⟨middle, defined, set⟩ := completes_then.mp done
  obtain rfl := completes_modify.mp set
  have near : CacheDraft.Defines files [] (middle.cache name)
      (overrides.applyNearCache (middle.cache name)) := .nothing rfl rfl
  rw [← List.append_nil (overrides.given settings)]
  exact (defines_applyDefinition defined).append (defines_setCache near)

theorem Meets.defines {cache : String} {own : Option CacheOverrides}
    (meets : Meets files settings cache before after own) :
    CacheDraft.Defines files (own.elim [] (·.given settings)) (before.cache cache)
      (after.cache cache) := by
  cases meets with
  | nothing kept =>
    rw [Draft.cache_eq_of_getElem? kept]
    exact .nothing rfl rfl
  | applied start applied finish =>
    rw [← Draft.cache_eq_of_getElem? start, Draft.cache_eq_of_getElem? finish]
    exact defines_apply applied

end CacheOverrides

def definitionSources (settings : RuntimeSettings) (runtime? : Option RuntimeSection)
    (bag : Properties) (uri? : Option HotRodUri) (cache : String) : List (CacheSource String) :=
  (uri?.elim [] HotRodUri.properties ++ bag.toList).filterMap
      (CacheSetting.definition.propertySource? cache) ++
    (runtime?.bind (·.caches[cache]?)).elim [] (·.given settings)

namespace ClientDefinition
variable {files : Files} {settings : RuntimeSettings} {name : String} {definition : ClientDefinition}
  {assembly : Assembly}

theorem defines_fill {runtime? : Option RuntimeSection} {bag : Properties} {start finish : Draft}
    (done : (fill files settings runtime? bag).Completes start () finish) :
    ∃ uri?, bag[ClientKey.uri.text]?.mapM HotRodUri.parse = .ok uri? ∧
      ∀ cache, CacheDraft.Defines files (definitionSources settings runtime? bag uri? cache)
        (start.cache cache) (finish.cache cache) := by
  obtain ⟨applied, bagged, overridden⟩ := completes_then.mp done
  obtain ⟨uri?, parsed, defines⟩ := Draft.defines_applyBag bagged
  refine ⟨uri?, parsed, fun cache => (defines cache).append ?_⟩
  cases runtime? with
  | none =>
    rw [(completes_pure.mp overridden).2]
    exact .nothing rfl rfl
  | some runtime => exact (RuntimeSection.meets_applyCaches overridden cache).defines

/-- For each cache a built configuration records the last file that was given for it. That file could be
read, and its contents are the definition exactly if no other text was given after it. -/
theorem recorded_file_is_origin_iff {configuration : Configuration}
    (assembled : ((assemble files settings name).run definition).result = .ok assembly)
    (built : assembly.draft.build = .ok configuration) :
    ∃ bag uri?, (registerSchemas.run definition).result.map
        (effectiveBag · settings.clients[name]?) = .ok bag ∧
      bag[ClientKey.uri.text]?.mapM HotRodUri.parse = .ok uri? ∧
      ∀ (key : String) (cache : CacheConfiguration), configuration.caches[key]? = some cache →
        let given := definitionSources settings settings.clients[name]? bag uri? key
        cache.definitionFile = (given.filterMap CacheSource.file?).getLast? ∧
          ∀ path, cache.definitionFile = some path → ∃ contents, files.read path = .ok contents ∧
            (cache.definition = some contents ↔
              ∀ text, given.getLast?.bind CacheSource.inline? = some text → text = contents) := by
  obtain ⟨own, bag, registered, effective, filled, -⟩ :=
    stages_of_assemble (completes_of_result assembled)
  obtain ⟨uri?, parsed, defines⟩ := defines_fill filled
  refine ⟨bag, uri?, ?_, parsed, ?_⟩
  · rw [registered.1, effective]
    rfl
  · intro key cache there given
    obtain ⟨draft, drafted, made⟩ := Draft.exists_cache_of_build built there
    obtain ⟨same, file⟩ := CacheDraft.definition_of_build made
    have fresh : definition.emptyDraft.cache key = {} := by
      rw [Draft.cache, emptyDraft, Std.ExtTreeMap.getElem?_empty, Option.getD_none]
    have finished : assembly.draft.cache key = draft := by
      rw [Draft.cache, drafted, Option.getD_some]
    have defined := defines key
    rw [fresh, finished] at defined
    rw [same, file]
    constructor
    · rw [defined.recorded, Option.or_none]
    · intro path recorded
      exact defined.origin recorded

end ClientDefinition

def filedDefinition : ClientDefinition where
  properties := KeyMap.ofPairs [((PropertyKey.cache "n" .configurationUri).text, "n.xml")]

def overridingSettings (overrides : CacheOverrides) : RuntimeSettings where
  clients := KeyMap.ofPairs [("c", { caches := KeyMap.ofPairs [("n", overrides)] })]

def filedFiles : Files where
  read path := if path = "n.xml" then .ok "file of n" else .error .notFound
  isFile _ := false
  isDirectory _ := false
  list _ := .error .notFound

theorem exists_overridden {overrides : CacheOverrides} {cache : CacheConfiguration}
    (made : (((ClientDefinition.assemble filedFiles (overridingSettings overrides) "c").run
      filedDefinition).result.toOption.bind (·.draft.build.toOption)).bind (·.caches["n"]?) =
        some cache) :
    ∃ assembly configuration,
      ((ClientDefinition.assemble filedFiles (overridingSettings overrides) "c").run
        filedDefinition).result = .ok assembly ∧
      assembly.draft.build = .ok configuration ∧ configuration.caches["n"]? = some cache := by
  obtain ⟨configuration, built, there⟩ := Option.bind_eq_some_iff.mp made
  obtain ⟨assembly, assembled, built⟩ := Option.bind_eq_some_iff.mp built
  exact ⟨assembly, configuration, eq_ok_of_toOption assembled, eq_ok_of_toOption built, there⟩

/-- With other overrides for the cache, the definition comes from the recorded file. -/
theorem recorded_file_defines_cache :
    ∃ assembly configuration cache,
      ((ClientDefinition.assemble filedFiles (overridingSettings { bloomFilter := some false }) "c").run
        filedDefinition).result = .ok assembly ∧
      assembly.draft.build = .ok configuration ∧ configuration.caches["n"]? = some cache ∧
      cache.definitionFile = some "n.xml" ∧ cache.definition = some "file of n" := by
  let settings := overridingSettings { bloomFilter := some false }
  obtain ⟨cache, made⟩ := Option.isSome_iff_exists.mp (by decide +kernel :
    ((((ClientDefinition.assemble filedFiles settings "c").run filedDefinition).result.toOption.bind
      (·.draft.build.toOption)).bind (·.caches["n"]?)).isSome = true)
  obtain ⟨assembly, configuration, assembled, built, there⟩ := exists_overridden made
  obtain ⟨bag, uri?, effective, parsed, origins⟩ :=
    ClientDefinition.recorded_file_is_origin_iff assembled built
  have own : (ClientDefinition.registerSchemas.run filedDefinition).result =
      .ok filedDefinition.properties := rfl
  rw [own] at effective
  obtain rfl := Except.ok.inj effective
  have unnamed : (ClientDefinition.effectiveBag filedDefinition.properties
      settings.clients["c"]?)[ClientKey.uri.text]? = none := by decide +kernel
  rw [unnamed] at parsed
  obtain rfl : none = uri? := Except.ok.inj parsed
  have sources : definitionSources settings settings.clients["c"]?
      (ClientDefinition.effectiveBag filedDefinition.properties settings.clients["c"]?) none "n" =
        [.file "n.xml"] := by decide +kernel
  obtain ⟨last, origin⟩ := origins "n" cache there
  rw [sources] at last origin
  obtain ⟨contents, read, same⟩ := origin "n.xml" last
  obtain rfl : "file of n" = contents := Except.ok.inj read
  exact ⟨assembly, configuration, cache, assembled, built, there, last, same.mpr nofun⟩

/-- With an inline definition over it, the recorded file is not where the definition comes from. -/
theorem recorded_file_is_stale :
    ∃ assembly configuration cache,
      ((ClientDefinition.assemble filedFiles (overridingSettings { definition := some "inline" }) "c").run
        filedDefinition).result = .ok assembly ∧
      assembly.draft.build = .ok configuration ∧ configuration.caches["n"]? = some cache ∧
      cache.definitionFile = some "n.xml" ∧ filedFiles.read "n.xml" = .ok "file of n" ∧
      cache.definition ≠ some "file of n" := by
  obtain ⟨assembly, configuration, assembled, built, there⟩ :=
    @exists_overridden { definition := some "inline" }
      ⟨"n", some "inline", some "n.xml", none, .disabled, -1, false⟩ (by decide +kernel)
  exact ⟨assembly, configuration, _, assembled, built, there, rfl, rfl, by decide⟩

end HotRod
