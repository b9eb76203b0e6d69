import HotRod.Proofs.Client.Assembly
import HotRod.Proofs.Client.CacheProperties
set_option autoImplicit false

/-!
# Which source decides a setting of a cache

A bag counts over the query of its URI, and the overrides of a runtime section, which are applied last,
count over both. There is every cache that one of them names, and each of its settings has the value of
the source of the highest rank, whatever they say of other caches.
-/

namespace HotRod

open HotRod.Action

namespace CacheOverrides
variable {files : Files} {settings : RuntimeSettings} {name : String} {overrides : CacheOverrides}
  {before after : Draft}

theorem settle_applyDefinition
    (done : (overrides.applyDefinition files settings name).Completes before () after) :
    ∃ text? path?,
      let defined := { before.cache name with definition := text?, definitionFile := path? }
      (after = before ∧ before.cache name = defined ∨ after = before.setCache name defined) ∧
      CacheSetting.definition.settle files ((overrides.sources settings .definition).findSome? id)
        (before.cache name).definition = .ok text? := by
  unfold applyDefinition at done
  cases file : overrides.definitionFile with
  | some path =>
    simp only [file, completes_then, completes_emit, completes_get_bind, completes_ofExcept_bind,
      completes_modify] at done
    obtain ⟨_, rfl, cache, given, rfl⟩ := done
    obtain ⟨contents, read, rfl⟩ := map_eq_ok_iff.mp (mapError_eq_ok_iff.mp given)
    refine ⟨some contents, some (settings.resolve path), .inr rfl, ?_⟩
    simp only [sources, file]
    exact map_eq_ok_iff.mpr ⟨contents, CacheSetting.resolve_file read, rfl⟩
  | none =>
    cases inline : overrides.definition with
    | some text =>
      simp only [file, inline, completes_modify] at done
      refine ⟨some text, (before.cache name).definitionFile, .inr done.symm, ?_⟩
      simp only [sources, file, inline]
      rfl
    | none =>
      simp only [file, inline, completes_pure] at done
      refine ⟨_, _, .inl ⟨done.2.symm, rfl⟩, ?_⟩
      simp only [sources, file, inline]
      rfl

theorem settle_apply
    (done : (overrides.apply files settings name).Completes before () after) :
    ∃ changed, after = before.setCache name changed ∧ ∀ {α : Type} (setting : CacheSetting α),
      setting.settle files ((overrides.sources settings setting).findSome? id)
        ((before.cache name).value? setting) = .ok (changed.value? setting) := by
  obtain ⟨middle, defines, set⟩ := completes_then.mp done
  obtain rfl := completes_modify.mp set
  obtain ⟨text?, path?, ways, settled⟩ := settle_applyDefinition defines
  refine ⟨overrides.applyNearCache
    { before.cache name with definition := text?, definitionFile := path? }, ?_, ?_⟩
  · rcases ways with ⟨rfl, same⟩ | rfl
    · exact congrArg (fun cache => middle.setCache name (overrides.applyNearCache cache)) same
    · rw [Draft.cache_setCache, if_pos rfl, Draft.setCache_setCache]
  · intro α setting
    cases setting
    case definition => exact settled
    case templateName => rfl
    case nearCacheMode => exact CacheSetting.nearCacheMode.settle_value _ _
    case nearCacheMaxEntries => exact CacheSetting.nearCacheMaxEntries.settle_value _ _
    case bloomFilter => exact CacheSetting.bloomFilter.settle_value _ _

/-- What overrides make of one cache, if there are any for it, whatever is done to others around them. -/
inductive Meets (files : Files) (settings : RuntimeSettings) (cache : String) (before after : Draft) :
    Option CacheOverrides → Prop
  | nothing : after.caches[cache]? = before.caches[cache]? → Meets files settings cache before after none
  | applied {overrides : CacheOverrides} {start finish : Draft} :
      start.caches[cache]? = before.caches[cache]? →
      (overrides.apply files settings cache).Completes start () finish →
      after.caches[cache]? = finish.caches[cache]? →
      Meets files settings cache before after (some overrides)

end CacheOverrides

namespace RuntimeSection
variable {files : Files} {settings : RuntimeSettings} {before after : Draft}

theorem meets_overrides {items : List (String × CacheOverrides)} (distinct : (items.map Prod.fst).Nodup)
    (done : (forEach items fun (name, overrides) =>
      overrides.apply files settings name).Completes before () after) (cache : String) :
    CacheOverrides.Meets files settings cache before after (items.lookup cache) := by
  induction items generalizing before with
  | nil =>
    rw [completes_forEach_nil.mp done]
    exact .nothing rfl
  | cons item items ih =>
    obtain ⟨name, overrides⟩ := item
    obtain ⟨middle, applied, rest⟩ := completes_forEach_cons.mp done
    obtain ⟨new, distinct⟩ := List.nodup_cons.mp distinct
    have later := ih distinct rest
    rw [List.lookup_cons]
    by_cases same : cache = name
    · subst same
      have unlisted : items.lookup cache = none := by
        rw [← Option.not_isSome_iff_eq_none, lookup_isSome_iff_mem_keys]
        exact new
      rw [unlisted] at later
      rw [beq_self_eq_true]
      cases later with
      | nothing kept => exact .applied rfl applied kept
    · obtain ⟨changed, rfl, -⟩ := CacheOverrides.settle_apply applied
      have untouched := Draft.getElem?_setCache_of_ne before same changed
      rw [beq_false_of_ne same]
      generalize items.lookup cache = own at later ⊢
      cases later with
      | nothing kept => exact .nothing (kept.trans untouched)
      | applied start meets finish => exact .applied (start.trans untouched) meets finish

theorem meets_applyCaches {runtime : RuntimeSection}
    (done : (runtime.applyCaches files settings).Completes before () after) (cache : String) :
    CacheOverrides.Meets files settings cache before after runtime.caches[cache]? := by
  have names : runtime.caches.toList.map Prod.fst = runtime.caches.keys :=
    Std.ExtTreeMap.map_fst_toList_eq_keys
  have listed : runtime.caches.toList.lookup cache = runtime.caches[cache]? :=
    lookup_eq_of_mem_iff fun _ => Std.ExtTreeMap.mem_toList_iff_getElem?_eq_some
  rw [← listed]
  exact meets_overrides (names ▸ Std.ExtTreeMap.nodup_keys) done cache

theorem settle_applyCaches {runtime : RuntimeSection}
    (done : (runtime.applyCaches files settings).Completes before () after) :
    (∀ cache, cache ∈ after.caches ↔ cache ∈ runtime.caches ∨ cache ∈ before.caches) ∧
    ∀ (cache : String) {α : Type} (setting : CacheSetting α),
      setting.settle files
        ((runtime.caches[cache]?.elim [] (·.sources settings setting)).findSome? id)
        ((before.cache cache).value? setting) = .ok ((after.cache cache).value? setting) := by
  refine ⟨fun cache => ?_, fun cache α setting => ?_⟩
  · have meets := meets_applyCaches done cache
    rw [Std.ExtTreeMap.mem_iff_isSome_getElem?, Std.ExtTreeMap.mem_iff_isSome_getElem?,
      Std.ExtTreeMap.mem_iff_isSome_getElem?]
    generalize runtime.caches[cache]? = own at meets ⊢
    cases meets with
    | nothing kept => simp [kept]
    | applied _ applied finish =>
      obtain ⟨changed, rfl, -⟩ := CacheOverrides.settle_apply applied
      rw [finish, Draft.getElem?_setCache_self]
      simp
  · have meets := meets_applyCaches done cache
    unfold Draft.cache
    generalize runtime.caches[cache]? = own at meets ⊢
    cases meets with
    | nothing kept =>
      rw [kept]
      rfl
    | applied start applied finish =>
      obtain ⟨changed, rfl, settled⟩ := CacheOverrides.settle_apply applied
      rw [finish, Draft.getElem?_setCache_self, ← start]
      exact settled setting

end RuntimeSection

namespace CacheSetting
variable {α : Type} {files : Files}

/-- A source that is there decides over all that is ranked below it. -/
theorem resolve_or (setting : CacheSetting α) {lower : Option (CacheSource α)} {below : Option α}
    (settled : lower.mapM (setting.resolve files) = .ok below) (source? : Option (CacheSource α)) :
    (source?.or lower).mapM (setting.resolve files) = setting.settle files source? below := by
  cases source? with
  | none => exact settled
  | some source => rfl

theorem decisive?_eq (setting : CacheSetting α) (settings : RuntimeSettings)
    (runtime? : Option RuntimeSection) (bag : Properties) (uri? : Option HotRodUri) (cache : String) :
    setting.decisive? settings runtime? bag uri? cache =
      (((runtime?.bind (·.caches[cache]?)).elim [] (·.sources settings setting)).findSome? id).or
        (((setting.bagSources bag cache).findSome? id).or
          (uri?.bind fun uri => setting.lastSource? cache uri.properties)) := by
  rw [decisive?, sources, List.findSome?_append, List.findSome?_append, Option.or_assoc,
    List.findSome?_singleton]
  rfl

end CacheSetting

namespace ClientDefinition
variable {files : Files} {settings : RuntimeSettings}

/-- The overrides of a section, if there is one, count over a bag that was applied. -/
theorem settle_caches_fill {runtime? : Option RuntimeSection} {bag : Properties} {start finish : Draft}
    (done : (fill files settings runtime? bag).Completes start () finish) :
    ∃ applied, (Draft.applyBag files bag).Completes start () applied ∧
      (∀ cache, cache ∈ finish.caches ↔
        (∃ runtime, runtime? = some runtime ∧ cache ∈ runtime.caches) ∨ cache ∈ applied.caches) ∧
      ∀ (cache : String) {α : Type} (setting : CacheSetting α),
        setting.settle files
          (((runtime?.bind (·.caches[cache]?)).elim [] (·.sources settings setting)).findSome? id)
          ((applied.cache cache).value? setting) = .ok ((finish.cache cache).value? setting) := by
  obtain ⟨applied, bagged, overridden⟩ := completes_then.mp done
  refine ⟨applied, bagged, ?_⟩
  cases runtime? with
  | none =>
    obtain ⟨-, rfl⟩ := completes_pure.mp overridden
    exact ⟨by simp, fun _ _ _ => rfl⟩
  | some runtime =>
    obtain ⟨named, each⟩ := RuntimeSection.settle_applyCaches overridden
    exact ⟨fun cache => by simp [named], each⟩

/-- In a completed assembly there is every cache that is named and no other one, and each of its settings
has the value of its source of the highest rank. -/
theorem assemble_resolves_caches {name : String} {definition : ClientDefinition} {assembly : Assembly}
    (assembled : ((assemble files settings name).run definition).result = .ok assembly) :
    ∃ bag uri?, (registerSchemas.run definition).result.map
        (effectiveBag · settings.clients[name]?) = .ok bag ∧
      bag[ClientKey.uri.text]?.mapM HotRodUri.parse = .ok uri? ∧
      (∀ cache, cache ∈ assembly.draft.caches ↔ NamesCache settings.clients[name]? bag uri? cache) ∧
      ∀ (cache : String) (draft : CacheDraft), assembly.draft.caches[cache]? = some draft →
        ∀ {α : Type} (setting : CacheSetting α),
          (setting.decisive? settings settings.clients[name]? bag uri? cache).mapM
            (setting.resolve files) = .ok (draft.value? setting) := by
  obtain ⟨own, bag, registered, effective, filled, -⟩ :=
    stages_of_assemble (completes_of_result assembled)
  obtain ⟨applied, bagged, listed, overridden⟩ := settle_caches_fill filled
  obtain ⟨uri?, parsed, named, settled⟩ := Draft.settle_caches_applyBag bagged
  have new (cache : String) : definition.emptyDraft.caches[cache]? = none :=
    Std.ExtTreeMap.getElem?_empty
  refine ⟨bag, uri?, ?_, parsed, fun cache => ?_, fun cache draft there α setting => ?_⟩
  · rw [registered.1, effective]
    rfl
  · rw [listed, named, Std.ExtTreeMap.mem_iff_isSome_getElem? (t := definition.emptyDraft.caches), new]
    simp [NamesCache]
  · obtain ⟨before, query, last⟩ := settled cache setting
    have unset : (definition.emptyDraft.cache cache).value? setting = none := by
      rw [Draft.cache, new]
      cases setting <;> rfl
    rw [unset] at query
    have nothing : (none : Option (CacheSource α)).mapM (setting.resolve files) = .ok none := rfl
    have lowest := (setting.resolve_or nothing
      (uri?.bind fun uri => setting.lastSource? cache uri.properties)).trans query
    rw [Option.or_none] at lowest
    have lower := (setting.resolve_or lowest ((setting.bagSources bag cache).findSome? id)).trans last
    have present : draft = assembly.draft.cache cache := by rw [Draft.cache, there, Option.getD_some]
    rw [setting.decisive?_eq, setting.resolve_or lower, overridden, present]

end ClientDefinition

def cachesSection : RuntimeSection where
  uri := some ("hotrod://h?cache.a.near_cache.max_entries=5&cache.a.b.configuration=query" ++
    "&cache.q.configuration_uri=q.xml&cache.q.configuration=query")
  caches := KeyMap.ofPairs [("a", {
    definitionFile := some "a.xml", definition := some "runtime", nearCacheMode := some .disabled })]

def cachesUri : HotRodUri where
  tls := false
  servers := [⟨"h", 11222⟩]
  username := none
  password := none
  properties := [((PropertyKey.cache "a" .nearCacheMaxEntries).text, "5"),
    ((PropertyKey.cache "a.b" .configuration).text, "query"),
    ((PropertyKey.cache "q" .configurationUri).text, "q.xml"),
    ((PropertyKey.cache "q" .configuration).text, "query")]

def cachesSettings : RuntimeSettings where
  resourceDirectory := "etc"
  clients := KeyMap.ofPairs [("c", cachesSection)]

def cachesDefinition : ClientDefinition where
  properties := KeyMap.ofPairs [
    ((PropertyKey.cache "a" .configuration).text, "bag"),
    ((PropertyKey.cache "a" .nearCacheMode).text, "INVALIDATED"),
    ((PropertyKey.cache "a.b" .configuration).text, "bag"),
    ((PropertyKey.cache "a.b" .configurationUri).text, "b.xml")]

def cachesBag : Properties :=
  ClientDefinition.effectiveBag cachesDefinition.properties (some cachesSection)

def cachesFiles : Files where
  read path :=
    if path = "etc/a.xml" then .ok "file of a"
    else if path = "b.xml" then .ok "file of a.b"
    else if path = "q.xml" then .ok "file of q"
    else .error .notFound
  isFile _ := false
  isDirectory _ := false
  list _ := .error .notFound

/-- Here every rank decides one setting of a cache. -/
theorem assemble_resolves_ranked_caches :
    ∃ assembly a ab q,
      ((ClientDefinition.assemble cachesFiles cachesSettings "c").run cachesDefinition).result =
        .ok assembly ∧
      assembly.draft.caches["a"]? = some a ∧
      assembly.draft.caches["a.b"]? = some ab ∧
      assembly.draft.caches["q"]? = some q ∧
      a.value? .definition = some "file of a" ∧
      a.value? .nearCacheMode = some .disabled ∧
      a.value? .nearCacheMaxEntries = some 5 ∧
      ab.value? .definition = some "file of a.b" ∧
      ab.value? .bloomFilter = none ∧
      q.value? .definition = some "query" := by
  obtain ⟨assembly, assembled⟩ := exists_ok_of_toBool (by decide +kernel :
    ((ClientDefinition.assemble cachesFiles cachesSettings "c").run cachesDefinition).result.toBool =
      true)
  obtain ⟨bag, uri?, effective, parsed, named, resolved⟩ :=
    ClientDefinition.assemble_resolves_caches assembled
  have section? : cachesSettings.clients["c"]? = some cachesSection := by decide +kernel
  have own : (ClientDefinition.registerSchemas.run cachesDefinition).result =
      .ok cachesDefinition.properties := rfl
  rw [own, section?] at effective
  obtain rfl : cachesBag = bag := Except.ok.inj effective
  have read : cachesBag[ClientKey.uri.text]?.mapM HotRodUri.parse = .ok (some cachesUri) :=
    eq_ok_of_toOption (by decide +kernel)
  obtain rfl := Except.ok.inj (read.symm.trans parsed)
  rw [section?] at named resolved
  have present (cache : String)
      (names : NamesCache (some cachesSection) cachesBag (some cachesUri) cache) :
      ∃ draft, assembly.draft.caches[cache]? = some draft := by
    have member : cache ∈ assembly.draft.caches := (named cache).mpr names
    rw [Std.ExtTreeMap.mem_iff_isSome_getElem?] at member
    exact Option.isSome_iff_exists.mp member
  obtain ⟨a, isA⟩ := present "a" (.inl ⟨cachesSection, rfl, by decide +kernel⟩)
  obtain ⟨ab, isAB⟩ := present "a.b" (.inr ⟨by decide, .configuration, .inl (by decide +kernel)⟩)
  obtain ⟨q, isQ⟩ := present "q"
    (.inr ⟨by decide, .configuration, .inr ⟨cachesUri, rfl, by decide +kernel⟩⟩)
  have decided {cache : String} {draft : CacheDraft} (there : assembly.draft.caches[cache]? = some draft)
      {α : Type} {setting : CacheSetting α} {value : Option α}
      (decides : ((setting.decisive? cachesSettings (some cachesSection) cachesBag (some cachesUri)
        cache).mapM (setting.resolve cachesFiles)).toOption = some value) :
      draft.value? setting = value :=
    Except.ok.inj ((resolved cache draft there setting).symm.trans (eq_ok_of_toOption decides))
  exact ⟨assembly, a, ab, q, assembled, isA, isAB, isQ, decided isA (by decide +kernel),
    decided isA (by decide +kernel), decided isA (by decide +kernel),
    decided isAB (by decide +kernel), decided isAB (by decide +kernel),
    decided isQ (by decide +kernel)⟩

end HotRod
