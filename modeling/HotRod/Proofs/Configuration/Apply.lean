import HotRod.Configuration.Apply
import HotRod.Proofs.Action
set_option autoImplicit false

/-!
# What applied properties change

A property either means nothing, or changes one setting of the whole client, or one setting of one
cache. So the settings of the whole client and those of the caches can be followed apart.
-/

namespace HotRod

open HotRod.Action

theorem PropertyKey.ofText?_eq_client_iff {text : String} {key : ClientKey} :
    ofText? text = some (client key) ↔ text = key.text := by
  rw [← ClientKey.ofText?_eq_some_iff]
  unfold ofText?
  cases ClientKey.ofText? text with
  | some found => simp
  | none =>
    cases Text.withoutPrefix? cachePrefix.toList text.toList with
    | none => simp
    | some rest => simp [List.findSome?_eq_some_iff]

namespace Draft

def clientPart (draft : Draft) : Draft := { draft with caches := ∅ }

@[simp] theorem clientPart_setCache (draft : Draft) (name : String) (cache : CacheDraft) :
    (draft.setCache name cache).clientPart = draft.clientPart := rfl

@[simp] theorem servers_clientPart (draft : Draft) : draft.clientPart.servers = draft.servers := rfl

theorem eq_of_setClient_marshaller {draft changed : Draft} {value : String}
    (set : draft.setClient value .marshaller = .ok changed) :
    changed = { draft with marshaller := changed.marshaller } := by
  by_cases present : draft.marshaller.isSome
  · simp only [setClient, present, if_true, Except.ok.injEq] at set
    rw [set]
  · simp only [setClient, present] at set
    obtain ⟨kind, -, rfl⟩ := map_eq_ok_iff.mp set
    rfl

section
variable {files : Files} {key value : String} {draft : Draft}

theorem run_applyProperty_of_unknown (unknown : PropertyKey.ofText? key = none) :
    (applyProperty files key value).run draft = ⟨draft, [], .ok ()⟩ := by
  unfold applyProperty Action.run
  simp only [unknown]

theorem run_applyProperty_text (setting : ClientKey) :
    (applyProperty files setting.text value).run draft =
      match draft.setClient value setting with
      | .ok changed => ⟨changed, [], .ok ()⟩
      | .error fault => ⟨draft, [], .error (.invalidProperty setting.text value fault)⟩ := by
  have meaning : PropertyKey.ofText? setting.text = some (.client setting) :=
    PropertyKey.ofText?_eq_client_iff.mpr rfl
  unfold applyProperty Action.run
  cases set : draft.setClient value setting <;> simp only [meaning, set]

theorem run_applyProperty_of_cache {name : String} {setting : CacheKey}
    (meaning : PropertyKey.ofText? key = some (.cache name setting)) :
    (applyProperty files key value).run draft =
      match (draft.cache name).set files value setting with
      | .ok cache => ⟨draft.setCache name cache, [], .ok ()⟩
      | .error fault => ⟨draft.touchCache name, [], .error (fault.toClientError key name value)⟩ := by
  unfold applyProperty Action.run
  cases set : (draft.cache name).set files value setting <;> simp only [meaning, set]

end

/-- What one property does, by the meaning of its key. -/
inductive Applied (files : Files) (key value : String) (before : Draft) : Draft → Prop
  | ignored : PropertyKey.ofText? key = none → Applied files key value before before
  | client {setting : ClientKey} {after : Draft} : key = setting.text →
      before.setClient value setting = .ok after → Applied files key value before after
  | cache {name : String} {setting : CacheKey} {cache : CacheDraft} :
      PropertyKey.ofText? key = some (.cache name setting) →
      (before.cache name).set files value setting = .ok cache →
      Applied files key value before (before.setCache name cache)

theorem applied_of_completes {files : Files} {key value : String} {before after : Draft}
    (done : (applyProperty files key value).Completes before () after) :
    Applied files key value before after := by
  obtain ⟨succeeded, rfl⟩ := done
  cases meaning : PropertyKey.ofText? key with
  | none =>
    rw [run_applyProperty_of_unknown meaning]
    exact .ignored meaning
  | some known =>
    cases known with
    | client setting =>
      obtain rfl := PropertyKey.ofText?_eq_client_iff.mp meaning
      rw [run_applyProperty_text] at succeeded ⊢
      cases changed : before.setClient value setting with
      | error fault => simp [changed] at succeeded
      | ok after => exact .client rfl changed
    | cache name setting =>
      rw [run_applyProperty_of_cache meaning] at succeeded ⊢
      cases changed : (before.cache name).set files value setting with
      | error fault => simp [changed] at succeeded
      | ok cache => exact .cache meaning changed

/-- What a bag says of servers: a URI that sets more than these, a server list, or nothing. -/
inductive Aimed (bag : Properties) (start : Draft) : Option HotRodUri → Draft → Prop
  | uri {text : String} {uri : HotRodUri} : bag[ClientKey.uri.text]? = some text →
      HotRodUri.parse text = .ok uri → Aimed bag start (some uri) (start.setEndpoint uri)
  | list {text : String} {servers : List ServerAddress} : bag[ClientKey.uri.text]? = none →
      bag[ClientKey.serverList.text]? = some text → parseServerList text = .ok servers →
      Aimed bag start none { start with servers }
  | nothing : bag[ClientKey.uri.text]? = none → bag[ClientKey.serverList.text]? = none →
      Aimed bag start none start

theorem Aimed.parsed {bag : Properties} {start aimed : Draft} {uri? : Option HotRodUri}
    (aims : Aimed bag start uri? aimed) :
    bag[ClientKey.uri.text]?.mapM HotRodUri.parse = .ok uri? := by
  cases aims with
  | uri named parsed =>
    rw [named]
    exact map_eq_ok_iff.mpr ⟨_, parsed, rfl⟩
  | list unnamed _ _ =>
    rw [unnamed]
    rfl
  | nothing unnamed _ =>
    rw [unnamed]
    rfl

/-- The stages in which a bag is applied: what it says of servers, the query of its URI, and its own
properties in order. -/
theorem stages_of_applyBag {files : Files} {bag : Properties} {start finish : Draft}
    (done : (applyBag files bag).Completes start () finish) :
    ∃ uri? aimed asked applied, Aimed bag start uri? aimed ∧
      (applyProperties files (uri?.elim [] HotRodUri.properties)).Completes aimed () asked ∧
      (applyProperties files bag.toList).Completes asked () applied ∧
      finish = applied.keepProperties bag := by
  obtain ⟨asked, endpoint, rest⟩ := completes_then.mp done
  obtain ⟨applied, properties, kept⟩ := completes_then.mp rest
  have last := (completes_modify.mp kept).symm
  unfold applyEndpoint at endpoint
  cases named : bag[ClientKey.uri.text]? with
  | some text =>
    simp only [named] at endpoint
    obtain ⟨uri, parsed, pointed⟩ := completes_ofExcept_bind.mp endpoint
    obtain ⟨aimed, set, query⟩ := completes_then.mp pointed
    obtain rfl := completes_modify.mp set
    exact ⟨some uri, _, asked, applied, .uri named parsed, query, properties, last⟩
  | none =>
    have unasked : (applyProperties files []).Completes asked () asked :=
      completes_forEach_nil.mpr rfl
    cases listed : bag[ClientKey.serverList.text]? with
    | some list =>
      simp only [named, listed, completes_ofExcept_bind, completes_modify] at endpoint
      obtain ⟨servers, parsed, rfl⟩ := endpoint
      exact ⟨none, _, _, applied, .list named listed parsed, unasked, properties, last⟩
    | none =>
      simp only [named, listed, completes_pure] at endpoint
      obtain ⟨-, rfl⟩ := endpoint
      exact ⟨none, _, _, applied, .nothing named listed, unasked, properties, last⟩

end Draft

end HotRod
