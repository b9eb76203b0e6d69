import HotRod.Proofs.Client.CacheSetting
import HotRod.Proofs.Configuration.Apply
import HotRod.Proofs.Properties.Key
import Mathlib.Data.List.Basic
set_option autoImplicit false

/-!
# What properties make of caches

Bag and query are applied one property after the other, and each property changes one setting of one
cache, so that the last property of a setting counts. A bag is applied in the order of its keys, in
which the file of a definition comes after the definition itself.
-/

namespace HotRod

open HotRod.Action

/-- What an entry is read as, where a list says how each key that counts is read. -/
def readingOf? {β γ : Type} (readings : List (String × (β → γ))) (entry : String × β) : Option γ :=
  readings.findSome? fun (key, read) => if entry.1 = key then some (read entry.2) else none

theorem readingOf?_cons {β γ : Type} (key : String) (read : β → γ)
    (readings : List (String × (β → γ))) (entry : String × β) :
    readingOf? ((key, read) :: readings) entry =
      if entry.1 = key then some (read entry.2) else readingOf? readings entry := by
  unfold readingOf?
  by_cases same : entry.1 = key <;> simp [same]

/-- Where the keys that count are listed from the greatest to the least, the last of the entries that
are read in a map is that of the first key in the list. -/
theorem KeyMap.getLast?_readingOf? {β γ : Type} (entries : KeyMap β)
    {readings : List (String × (β → γ))}
    (descending : readings.Pairwise fun reading lower => lower.1 < reading.1) :
    (entries.toList.filterMap (readingOf? readings)).getLast? =
      (readings.map fun (key, read) => entries[key]?.map read).findSome? id := by
  induction readings with
  | nil =>
    have unread : entries.toList.filterMap (readingOf? ([] : List (String × (β → γ)))) = [] := by
      rw [List.filterMap_eq_nil_iff]
      exact fun _ _ => rfl
    rw [unread]
    rfl
  | cons reading readings ih =>
    obtain ⟨key, read⟩ := reading
    obtain ⟨greatest, descending⟩ := List.pairwise_cons.mp descending
    rw [List.map_cons, findSome?_id_cons]
    change _ = (entries[key]?.map read).or _
    cases there : entries[key]? with
    | none =>
      have same : entries.toList.filterMap (readingOf? ((key, read) :: readings)) =
          entries.toList.filterMap (readingOf? readings) := by
        refine List.filterMap_congr fun entry member => ?_
        have apart : entry.1 ≠ key := by
          rintro rfl
          rw [Std.ExtTreeMap.mem_toList_iff_getElem?_eq_some.mp member] at there
          contradiction
        rw [readingOf?_cons, if_neg apart]
      rw [same, ih descending]
      rfl
    | some value =>
      obtain ⟨before, after, split⟩ :=
        List.append_of_mem (Std.ExtTreeMap.mem_toList_iff_getElem?_eq_some.mpr there)
      have ordered := @Std.ExtTreeMap.ordered_keys_toList _ _ _ entries _
      rw [split, List.pairwise_append, List.pairwise_cons] at ordered
      have unread : after.filterMap (readingOf? ((key, read) :: readings)) = [] := by
        rw [List.filterMap_eq_nil_iff]
        intro entry member
        have later : key < entry.1 := compareOfLessAndEq_eq_lt.mp (ordered.2.1.1 entry member)
        have apart : ∀ reading ∈ (key, read) :: readings, entry.1 ≠ reading.1 := by
          intro reading among same
          rw [same] at later
          rcases List.mem_cons.mp among with rfl | lower
          · exact Std.Irrefl.irrefl _ later
          · exact Std.Irrefl.irrefl _ (String.lt_trans (greatest reading lower) later)
        rw [readingOf?, List.findSome?_eq_none_iff]
        exact fun reading among => if_neg (apart reading among)
      have first : readingOf? ((key, read) :: readings) (key, value) = some (read value) := by
        rw [readingOf?_cons, if_pos rfl]
      rw [split, List.filterMap_append, List.filterMap_cons_some first, unread, List.getLast?_append]
      rfl

namespace CacheSetting
variable {α : Type} {files : Files}

def settle (files : Files) (setting : CacheSetting α) (source? : Option (CacheSource α))
    (before : Option α) : Except CacheFault (Option α) :=
  match source? with
  | some source => (setting.resolve files source).map some
  | none => .ok before

theorem resolve_file {path contents : String} (read : files.read path = .ok contents) :
    definition.resolve files (.file path) = .ok contents :=
  bind_eq_ok_iff.mpr ⟨contents, mapError_eq_ok_iff.mpr read, rfl⟩

theorem settle_value (setting : CacheSetting α) (value? before : Option α) :
    setting.settle files ([value?.map .value].findSome? id) before = .ok (value?.or before) := by
  cases value? <;> rfl

def keySource? (setting : CacheSetting α) (key : CacheKey) (text : String) : Option (CacheSource α) :=
  setting.readings.findSome? fun (other, source) => if key = other then some (source text) else none

theorem settle_set (setting : CacheSetting α) {draft changed : CacheDraft} {key : CacheKey}
    {text : String} (set : draft.set files text key = .ok changed) :
    setting.settle files (setting.keySource? key text) (draft.value? setting) =
      .ok (changed.value? setting) := by
  cases key
  case configurationUri =>
    obtain ⟨contents, read, rfl⟩ := map_eq_ok_iff.mp (mapError_eq_ok_iff.mp set)
    cases setting
    case definition => exact map_eq_ok_iff.mpr ⟨contents, resolve_file read, rfl⟩
    all_goals rfl
  case nearCacheMode | nearCacheMaxEntries | bloomFilter =>
    obtain ⟨value, read, rfl⟩ := map_eq_ok_iff.mp (mapError_eq_ok_iff.mp set)
    cases setting
    case nearCacheMode | nearCacheMaxEntries | bloomFilter =>
      first | rfl | exact map_eq_ok_iff.mpr ⟨value, mapError_eq_ok_iff.mpr read, rfl⟩
    all_goals rfl
  case configuration | templateName =>
    cases set
    cases setting <;> rfl

theorem propertySource?_of_cache (setting : CacheSetting α) {property text named : String}
    {key : CacheKey} (meaning : PropertyKey.ofText? property = some (.cache named key))
    (cache : String) :
    setting.propertySource? cache (property, text) =
      if named = cache then setting.keySource? key text else none := by
  obtain ⟨nonempty, rfl⟩ := PropertyKey.ofText?_eq_cache_iff.mp meaning
  unfold propertySource? keySource?
  by_cases same : named = cache
  · subst same
    rw [if_neg nonempty, if_pos rfl]
    congr 1
    funext ⟨other, source⟩
    by_cases equal : key = other
    · simp [equal]
    · have apart : (PropertyKey.cache named key).text ≠ (PropertyKey.cache named other).text :=
        fun text => equal (PropertyKey.text_cache_injective text).2
      exact (if_neg apart).trans (if_neg equal).symm
  · rw [if_neg same]
    by_cases empty : cache = ""
    · rw [if_pos empty]
    · rw [if_neg empty, List.findSome?_eq_none_iff]
      intro reading _
      exact if_neg fun text => same (PropertyKey.text_cache_injective text).1

theorem propertySource?_of_other (setting : CacheSetting α) {property : String}
    (meaning : ∀ named key, PropertyKey.ofText? property ≠ some (.cache named key)) (cache : String)
    (text : String) : setting.propertySource? cache (property, text) = none := by
  unfold propertySource?
  by_cases empty : cache = ""
  · rw [if_pos empty]
  · rw [if_neg empty, List.findSome?_eq_none_iff]
    intro reading _
    refine if_neg fun spelled => meaning cache reading.1 ?_
    exact PropertyKey.ofText?_eq_cache_iff.mpr ⟨empty, spelled⟩

end CacheSetting

namespace Draft
variable {files : Files} {draft changed : Draft} {text : String}

theorem caches_setClient {key : ClientKey} (set : draft.setClient text key = .ok changed) :
    changed.caches = draft.caches := by
  cases key
  case marshaller => rw [eq_of_setClient_marshaller set]
  case clientIntelligence | tracingPropagation | useAuth | useTls | connectTimeout | socketTimeout
      | maxRetries | tcpNoDelay | tcpKeepAlive =>
    obtain ⟨value, -, rfl⟩ := map_eq_ok_iff.mp set
    rfl
  all_goals
    cases set
    rfl

theorem cache_eq_of_getElem? {draft other : Draft} {name : String}
    (same : draft.caches[name]? = other.caches[name]?) : draft.cache name = other.cache name :=
  congrArg (·.getD {}) same

theorem getElem?_setCache_self (draft : Draft) (name : String) (cache : CacheDraft) :
    (draft.setCache name cache).caches[name]? = some cache := by
  rw [setCache, KeyMap.getElem?_insert, if_pos rfl]

theorem getElem?_setCache_of_ne (draft : Draft) {name other : String} (apart : other ≠ name)
    (cache : CacheDraft) : (draft.setCache name cache).caches[other]? = draft.caches[other]? := by
  rw [setCache, KeyMap.getElem?_insert, if_neg apart.symm]

theorem cache_setCache (draft : Draft) (name other : String) (cache : CacheDraft) :
    (draft.setCache name cache).cache other = if name = other then cache else draft.cache other := by
  by_cases same : name = other
  · subst same
    rw [if_pos rfl, Draft.cache, getElem?_setCache_self, Option.getD_some]
  · rw [if_neg same]
    exact cache_eq_of_getElem? (draft.getElem?_setCache_of_ne (Ne.symm same) cache)

theorem setCache_setCache (draft : Draft) (name : String) (cache later : CacheDraft) :
    (draft.setCache name cache).setCache name later = draft.setCache name later := by
  simp [setCache, KeyMap.insert_insert]

theorem mem_setCache_iff {name other : String} {cache : CacheDraft} :
    other ∈ (draft.setCache name cache).caches ↔ other = name ∨ other ∈ draft.caches :=
  KeyMap.mem_insert_iff

end Draft

namespace CacheSetting
variable {α : Type} {files : Files}

theorem settle_of_applied (setting : CacheSetting α) (cache : String) {property text : String}
    {before after : Draft} (applied : Draft.Applied files property text before after) :
    setting.settle files (setting.propertySource? cache (property, text))
      ((before.cache cache).value? setting) = .ok ((after.cache cache).value? setting) := by
  cases applied with
  | ignored meaning =>
    rw [setting.propertySource?_of_other (by simp [meaning]), settle]
  | @client key _ named set =>
    have meaning := PropertyKey.ofText?_eq_client_iff.mpr named
    have same : after.cache cache = before.cache cache :=
      Draft.cache_eq_of_getElem? (by rw [Draft.caches_setClient set])
    rw [setting.propertySource?_of_other (by simp [meaning]), settle, same]
  | @cache named _ changed meaning set =>
    rw [setting.propertySource?_of_cache meaning, Draft.cache_setCache]
    by_cases same : named = cache
    · subst same
      rw [if_pos rfl, if_pos rfl]
      exact setting.settle_set set
    · rw [if_neg same, if_neg same, settle]

theorem lastSource?_cons (setting : CacheSetting α) (cache : String) (property : String × String)
    (properties : List (String × String)) :
    setting.lastSource? cache (property :: properties) =
      (setting.lastSource? cache properties).or (setting.propertySource? cache property) := by
  rw [lastSource?, lastSource?, ← List.singleton_append, List.filterMap_append, List.getLast?_append]
  cases given : setting.propertySource? cache property <;> simp [given]

/-- Of applied properties the last source of a setting settles it. -/
theorem settle_applyProperties (setting : CacheSetting α) (cache : String)
    {properties : List (String × String)} {before after : Draft}
    (done : (Draft.applyProperties files properties).Completes before () after) :
    setting.settle files (setting.lastSource? cache properties) ((before.cache cache).value? setting) =
      .ok ((after.cache cache).value? setting) := by
  unfold Draft.applyProperties at done
  induction properties generalizing before with
  | nil =>
    rw [completes_forEach_nil.mp done]
    rfl
  | cons property properties ih =>
    obtain ⟨middle, applied, rest⟩ := completes_forEach_cons.mp done
    have head := setting.settle_of_applied cache (Draft.applied_of_completes applied)
    have tail := ih rest
    rw [lastSource?_cons]
    cases later : setting.lastSource? cache properties with
    | some source =>
      rw [later] at tail
      exact tail
    | none =>
      rw [later, settle, Except.ok.injEq] at tail
      rw [Option.none_or, head, tail]

theorem descending_readings (setting : CacheSetting α) (cache : String) :
    setting.readings.Pairwise fun reading lower =>
      (PropertyKey.cache cache lower.1).text < (PropertyKey.cache cache reading.1).text := by
  cases setting
  case definition =>
    refine List.pairwise_pair.mpr ?_
    rw [String.lt_iff, PropertyKey.toList_text_cache, PropertyKey.toList_text_cache]
    have shorter : CacheKey.configuration.ending < CacheKey.configurationUri.ending := by decide
    exact List.append_left_lt (List.append_left_lt shorter)
  all_goals exact List.pairwise_singleton _ _

/-- Of a bag that is applied in the order of its keys, the source of the highest rank comes last. -/
theorem lastSource?_toList (setting : CacheSetting α) (bag : Properties) (cache : String) :
    setting.lastSource? cache bag.toList = (setting.bagSources bag cache).findSome? id := by
  unfold lastSource? bagSources
  by_cases empty : cache = ""
  · have unread : bag.toList.filterMap (setting.propertySource? cache) = [] := by
      rw [List.filterMap_eq_nil_iff]
      exact fun property _ => if_pos empty
    have unset : ∀ key, bag.cacheText? cache key = none := fun key => if_pos empty
    rw [unread, List.getLast?_nil, eq_comm, List.findSome?_eq_none_iff]
    intro source? member
    obtain ⟨reading, -, rfl⟩ := List.mem_map.mp member
    exact congrArg (Option.map reading.2) (unset reading.1)
  · let readings := setting.readings.map fun reading =>
      ((PropertyKey.cache cache reading.1).text, reading.2)
    have read : setting.propertySource? cache = readingOf? readings := by
      funext property
      rw [propertySource?, if_neg empty, readingOf?, List.findSome?_map]
      rfl
    have descending : readings.Pairwise fun reading lower => lower.1 < reading.1 :=
      List.pairwise_map.mpr (setting.descending_readings cache)
    rw [read, KeyMap.getLast?_readingOf? bag descending, List.map_map]
    refine congrArg (List.findSome? id) (List.map_congr_left fun reading _ => ?_)
    exact congrArg (Option.map reading.2) (if_neg empty).symm

end CacheSetting

namespace Draft
variable {files : Files} {cache : String}

theorem mem_caches_of_applied {property text : String} {before after : Draft}
    (applied : Applied files property text before after) :
    cache ∈ after.caches ↔ cache ∈ before.caches ∨
      cache ≠ "" ∧ ∃ key, property = (PropertyKey.cache cache key).text := by
  have unnamed (meaning : ∀ named key, PropertyKey.ofText? property ≠ some (.cache named key)) :
      ¬ (cache ≠ "" ∧ ∃ key, property = (PropertyKey.cache cache key).text) :=
    fun ⟨nonempty, key, spelled⟩ =>
      meaning cache key (PropertyKey.ofText?_eq_cache_iff.mpr ⟨nonempty, spelled⟩)
  cases applied with
  | ignored meaning => rw [or_iff_left (unnamed (by simp [meaning]))]
  | client named set =>
    have meaning := PropertyKey.ofText?_eq_client_iff.mpr named
    rw [caches_setClient set, or_iff_left (unnamed (by simp [meaning]))]
  | @cache named key _ meaning _ =>
    obtain ⟨nonempty, rfl⟩ := PropertyKey.ofText?_eq_cache_iff.mp meaning
    rw [mem_setCache_iff, or_comm]
    refine or_congr_right ⟨?_, ?_⟩
    · rintro rfl
      exact ⟨nonempty, key, rfl⟩
    · rintro ⟨-, other, spelled⟩
      exact (PropertyKey.text_cache_injective spelled).1.symm

theorem mem_caches_of_applyProperties {properties : List (String × String)} {before after : Draft}
    (done : (applyProperties files properties).Completes before () after) :
    cache ∈ after.caches ↔ cache ∈ before.caches ∨
      cache ≠ "" ∧ ∃ key, (PropertyKey.cache cache key).text ∈ properties.map Prod.fst := by
  unfold applyProperties at done
  induction properties generalizing before with
  | nil =>
    rw [completes_forEach_nil.mp done]
    simp
  | cons property properties ih =>
    obtain ⟨middle, applied, rest⟩ := completes_forEach_cons.mp done
    rw [ih rest, mem_caches_of_applied (applied_of_completes applied), or_assoc, ← and_or_left,
      ← exists_or]
    simp only [List.map_cons, List.mem_cons, eq_comm]

/-- What an applied bag makes of the caches: those of its keys and of its URI's query are named, and for
every setting the bag counts, and then the query. -/
theorem settle_caches_applyBag {bag : Properties} {start finish : Draft}
    (done : (applyBag files bag).Completes start () finish) :
    ∃ uri?, bag[ClientKey.uri.text]?.mapM HotRodUri.parse = .ok uri? ∧
      (∀ cache, cache ∈ finish.caches ↔ cache ∈ start.caches ∨
        cache ≠ "" ∧ ∃ key : CacheKey, (PropertyKey.cache cache key).text ∈ bag ∨
          ∃ uri, uri? = some uri ∧ (PropertyKey.cache cache key).text ∈ uri.properties.map Prod.fst) ∧
      ∀ (cache : String) {α : Type} (setting : CacheSetting α), ∃ before,
        setting.settle files (uri?.bind fun uri => setting.lastSource? cache uri.properties)
          ((start.cache cache).value? setting) = .ok before ∧
        setting.settle files ((setting.bagSources bag cache).findSome? id) before =
          .ok ((finish.cache cache).value? setting) := by
  obtain ⟨uri?, aimed, asked, applied, aims, query, properties, rfl⟩ := stages_of_applyBag done
  have same : aimed.caches = start.caches := by cases aims <;> rfl
  have listed {text : String} : text ∈ bag.toList.map Prod.fst ↔ text ∈ bag := by
    rw [Std.ExtTreeMap.map_fst_toList_eq_keys, Std.ExtTreeMap.mem_keys]
  have queried {text : String} : text ∈ (uri?.elim [] HotRodUri.properties).map Prod.fst ↔
      ∃ uri, uri? = some uri ∧ text ∈ uri.properties.map Prod.fst := by
    cases uri? <;> simp
  refine ⟨uri?, aims.parsed, fun cache => ?_, fun cache α setting => ?_⟩
  · change cache ∈ applied.caches ↔ _
    rw [mem_caches_of_applyProperties properties, mem_caches_of_applyProperties query, same, or_assoc,
      ← and_or_left, or_comm (a := ∃ _, _), ← exists_or]
    simp only [listed, queried]
  · refine ⟨(asked.cache cache).value? setting, ?_, ?_⟩
    · have settled := setting.settle_applyProperties cache query
      have unchanged : aimed.cache cache = start.cache cache := cache_eq_of_getElem? (by rw [same])
      rw [unchanged] at settled
      cases uri? with
      | some uri => exact settled
      | none => exact settled
    · have settled := setting.settle_applyProperties cache properties
      rw [setting.lastSource?_toList] at settled
      exact settled

end Draft

end HotRod
