import HotRod.Proofs.Client.Endpoint
import HotRod.Proofs.Properties.Key
set_option autoImplicit false

/-!
# Keys without a meaning

What a bag makes of a draft is decided by its recognised keys: those of settings of the whole client and
those of settings of caches with a name. Two bags that agree on these are applied alike, whatever else
they hold, and the rest of a bag is kept without being looked at.
-/

namespace HotRod

open HotRod.Action

def Recognised (key : String) : Prop :=
  (∃ setting : ClientKey, key = setting.text) ∨
    ∃ (name : String) (setting : CacheKey), name ≠ "" ∧ key = (PropertyKey.cache name setting).text

theorem recognised_iff {key : String} : Recognised key ↔ (PropertyKey.ofText? key).isSome := by
  rw [Option.isSome_iff_exists]
  constructor
  · rintro (⟨setting, spelled⟩ | ⟨name, setting, spelled⟩)
    · exact ⟨_, PropertyKey.ofText?_eq_client_iff.mpr spelled⟩
    · exact ⟨_, PropertyKey.ofText?_eq_cache_iff.mpr spelled⟩
  · rintro ⟨setting | ⟨name, setting⟩, read⟩
    · exact .inl ⟨setting, PropertyKey.ofText?_eq_client_iff.mp read⟩
    · exact .inr ⟨name, setting, PropertyKey.ofText?_eq_cache_iff.mp read⟩

namespace Properties

theorem not_recognised_schemaKey (file : String) : ¬ Recognised (schemaKey file) := by
  rintro (⟨setting, spelled⟩ | ⟨name, setting, -, spelled⟩)
  · have plain := schemaFile?_text setting
    rw [schemaFile?_eq_some_iff.mpr spelled.symm] at plain
    contradiction
  · have letter := letter_schemaKey file
    have other : cachePrefix.toList[25]? = some 'c' := by decide +kernel
    rw [spelled, PropertyKey.toList_text_cache, getElem?_of_beginning (List.prefix_append _ _) other]
      at letter
    contradiction

def recognised (bag : Properties) : Properties :=
  bag.filter fun key _ => (PropertyKey.ofText? key).isSome

variable {bag other : Properties} {key : String}

theorem getElem?_recognised (bag : Properties) (meant : Recognised key) :
    bag.recognised[key]? = bag[key]? := by
  rw [recognised, Std.ExtTreeMap.getElem?_filter', recognised_iff.mp meant]
  cases bag[key]? <;> rfl

theorem getElem?_insert_of_unknown {unknown : String} (meaningless : ¬ Recognised unknown)
    (bag : Properties) (value : String) (meant : Recognised key) :
    (bag.insert unknown value)[key]? = bag[key]? := by
  have apart : unknown ≠ key := fun same => meaningless (same ▸ meant)
  rw [KeyMap.getElem?_insert, if_neg apart]

theorem recognised_eq_of_agree (agree : ∀ key, Recognised key → bag[key]? = other[key]?) :
    bag.recognised = other.recognised := by
  refine Std.ExtTreeMap.ext_getElem? fun key => ?_
  by_cases meant : Recognised key
  · rw [bag.getElem?_recognised meant, other.getElem?_recognised meant, agree key meant]
  · have unknown : (PropertyKey.ofText? key).isSome = false :=
      Bool.eq_false_iff.mpr fun known => meant (recognised_iff.mpr known)
    rw [recognised, recognised, Std.ExtTreeMap.getElem?_filter', Std.ExtTreeMap.getElem?_filter',
      unknown]
    simp

end Properties

namespace Draft
variable {files : Files} {draft : Draft}

theorem applyProperties_cons (files : Files) (key value : String) (properties : List (String × String)) :
    applyProperties files ((key, value) :: properties) =
      (applyProperty files key value >>= fun _ => applyProperties files properties) := rfl

theorem applyProperty_of_unknown {key : String} (unknown : PropertyKey.ofText? key = none)
    (value : String) : applyProperty files key value = pure () :=
  funext fun _ => run_applyProperty_of_unknown unknown

/-- Properties that mean nothing can be left out. -/
theorem applyProperties_filter (files : Files) (properties : List (String × String)) :
    applyProperties files (properties.filter fun property => (PropertyKey.ofText? property.1).isSome) =
      applyProperties files properties := by
  induction properties with
  | nil => rfl
  | cons property properties ih =>
    obtain ⟨key, value⟩ := property
    rw [applyProperties_cons, ← ih]
    cases meaning : PropertyKey.ofText? key with
    | none => rw [List.filter_cons_of_neg (by simp [meaning]), applyProperty_of_unknown meaning, pure_bind]
    | some known => rw [List.filter_cons_of_pos (by simp [meaning]), applyProperties_cons]

theorem applyEndpoint_recognised (files : Files) (bag : Properties) :
    applyEndpoint files bag.recognised = applyEndpoint files bag := by
  unfold applyEndpoint
  rw [bag.getElem?_recognised (.inl ⟨.uri, rfl⟩), bag.getElem?_recognised (.inl ⟨.serverList, rfl⟩)]

def applySettings (files : Files) (bag : Properties) : Action Draft ClientError Unit := do
  applyEndpoint files bag
  applyProperties files bag.toList

theorem applySettings_recognised (files : Files) (bag : Properties) :
    applySettings files bag.recognised = applySettings files bag := by
  rw [applySettings, applyEndpoint_recognised, Properties.recognised, Std.ExtTreeMap.toList_filter,
    applyProperties_filter, applySettings]

theorem applyBag_eq (files : Files) (bag : Properties) :
    applyBag files bag = (applySettings files bag >>= fun _ => modify (keepProperties bag)) := by
  rw [applyBag, applySettings, bind_assoc]

def withoutProperties (draft : Draft) : Draft := { draft with properties := ∅ }

end Draft

def Configuration.withoutProperties (configuration : Configuration) : Configuration :=
  { configuration with properties := ∅ }

namespace Draft

theorem build_withoutProperties (draft : Draft) :
    draft.withoutProperties.build = draft.build.map Configuration.withoutProperties := by
  unfold build withoutProperties
  cases buildCaches ∅ draft.caches.toList with
  | error error => rfl
  | ok caches => cases draft.authentication.build <;> rfl

/-- Bags that agree on recognised keys are refused with the same error, or make drafts and configurations
that differ in their properties at most. Each bag is kept as a whole. -/
theorem unknown_keys_are_inert (files : Files) (draft : Draft) {bag other : Properties}
    (agree : ∀ key, Recognised key → bag[key]? = other[key]?) :
    let done := (applyBag files bag).run draft
    let also := (applyBag files other).run draft
    done.result = also.result ∧ done.events = also.events ∧
      done.state.withoutProperties = also.state.withoutProperties ∧
      done.state.build.map Configuration.withoutProperties =
        also.state.build.map Configuration.withoutProperties ∧
      (∀ error, done.result = .error error → done.state = also.state) ∧
      (done.result = .ok () → ∀ key : String,
        done.state.properties[key]? = bag[key]?.or draft.properties[key]? ∧
          also.state.properties[key]? = other[key]?.or draft.properties[key]?) := by
  intro done also
  have settings : applySettings files bag = applySettings files other := by
    rw [← applySettings_recognised, Properties.recognised_eq_of_agree agree, applySettings_recognised]
  have first : done = (applySettings files other >>= fun _ => modify (keepProperties bag)).run draft := by
    rw [← settings, ← applyBag_eq]
  have second : also =
      (applySettings files other >>= fun _ => modify (keepProperties other)).run draft := by
    rw [← applyBag_eq]
  have kept {bag : Properties} (accepted : ((applyBag files bag).run draft).result = .ok ())
      (key : String) :
      ((applyBag files bag).run draft).state.properties[key]? = bag[key]?.or draft.properties[key]? := by
    rw [properties_applyBag (completes_of_result accepted), KeyMap.getElem?_extend,
      KeyMap.lastValue?_toList]
  have results : done.result = also.result ∧ done.events = also.events ∧
      done.state.withoutProperties = also.state.withoutProperties ∧
      ∀ error, done.result = .error error → done.state = also.state := by
    rw [first, second]
    rcases ran : (applySettings files other).run draft with ⟨applied, events, error | value⟩
    · rw [run_bind_of_error ran, run_bind_of_error ran]
      exact ⟨rfl, rfl, rfl, fun _ _ => rfl⟩
    · rw [run_bind_of_ok ran, run_bind_of_ok ran]
      exact ⟨rfl, rfl, rfl, nofun⟩
  obtain ⟨result, events, states, refused⟩ := results
  refine ⟨result, events, states, ?_, refused, fun accepted key => ⟨kept accepted key, ?_⟩⟩
  · rw [← build_withoutProperties, ← build_withoutProperties, states]
  · exact kept (result.symm.trans accepted) key

/-- A key of nothing, that of a schema file and that of a cache without a name are kept and do nothing. -/
theorem meaningless_keys_are_kept :
    let plain : Properties := Std.ExtTreeMap.insert ∅ ClientKey.useTls.text "true"
    let done := (applyBag .missing ((plain.insert "custom" "1").insert
      (Properties.schemaKey "a.proto") "own")).run {}
    let also := (applyBag .missing (plain.insert (cachePrefix ++ ".configuration") "x")).run {}
    done.result = .ok () ∧ also.result = .ok () ∧
      done.state.withoutProperties = also.state.withoutProperties ∧
      done.state.properties["custom"]? = some "1" ∧ also.state.properties["custom"]? = none := by
  intro plain done also
  have custom : ¬ Recognised "custom" := by
    rw [recognised_iff]
    decide +kernel
  have unnamed : ¬ Recognised (cachePrefix ++ ".configuration") := by
    rw [recognised_iff]
    decide +kernel
  have schema := Properties.not_recognised_schemaKey "a.proto"
  obtain ⟨result, -, states, -, -, kept⟩ := unknown_keys_are_inert .missing {}
    fun key (meant : Recognised key) => calc
      ((plain.insert "custom" "1").insert (Properties.schemaKey "a.proto") "own")[key]?
      _ = plain[key]? := by
        rw [Properties.getElem?_insert_of_unknown schema _ _ meant,
          Properties.getElem?_insert_of_unknown custom _ _ meant]
      _ = (plain.insert (cachePrefix ++ ".configuration") "x")[key]? :=
        (Properties.getElem?_insert_of_unknown unnamed _ _ meant).symm
  obtain ⟨⟨⟩, accepted⟩ := exists_ok_of_toBool (by decide +kernel : done.result.toBool = true)
  obtain ⟨stored, absent⟩ := kept accepted "custom"
  refine ⟨accepted, result.symm.trans accepted, states, stored.trans ?_, absent.trans ?_⟩
  · decide +kernel
  · decide +kernel

end Draft

end HotRod
