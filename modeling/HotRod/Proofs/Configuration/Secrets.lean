import HotRod.Proofs.Action.Mirrors
import HotRod.Proofs.Client.Secrets
set_option autoImplicit false

/-!
# Drafts that look alike

Two drafts look alike when they differ in the texts of passwords only, and in the properties they keep
at most in passwords and URIs. Applying bags that look alike to them goes the same way at every step,
as long as URIs of the bags are read alike.
-/

namespace HotRod

open HotRod.Action

abbrev Properties.hidden (bag : Properties) : Properties := bag.masked fun _ => ""

namespace HotRodUri

def hidden (uri : HotRodUri) : HotRodUri := { uri with password := uri.password.map fun _ => "" }

/-- Two texts are read as URIs that differ in a password at most, or are refused alike. -/
def ReadAlike (errors : ClientError → ClientError → Prop) (text text' : String) : Prop :=
  Matches errors (fun uri uri' => uri.hidden = uri'.hidden) (parse text) (parse text')

theorem ReadAlike.refl {errors : ClientError → ClientError → Prop}
    (reflexive : ∀ error, errors error error) (text : String) : ReadAlike errors text text :=
  Matches.refl reflexive (fun uri => Eq.refl uri.hidden) (parse text)

end HotRodUri

/-- Two bags that look alike, with URIs that are read alike. -/
structure Properties.Alike (errors : ClientError → ClientError → Prop) (bag bag' : Properties) :
    Prop where
  hidden : bag.hidden = bag'.hidden
  endpoint : ∀ text text', bag[ClientKey.uri.text]? = some text →
    bag'[ClientKey.uri.text]? = some text' → HotRodUri.ReadAlike errors text text'

namespace Properties

theorem Alike.refl {errors : ClientError → ClientError → Prop} (reflexive : ∀ error, errors error error)
    (bag : Properties) : bag.Alike errors bag := by
  refine ⟨rfl, fun text text' named named' => ?_⟩
  obtain rfl : text = text' := Option.some.inj (named.symm.trans named')
  exact .refl reflexive text

def PairAlike (pair pair' : String × String) : Prop :=
  pair.1 = pair'.1 ∧ seen (fun _ => "") pair.1 pair.2 = seen (fun _ => "") pair.1 pair'.2

theorem PairAlike.forall_refl (pairs : List (String × String)) : List.Forall₂ PairAlike pairs pairs :=
  List.forall₂_same.mpr fun _ _ => ⟨rfl, rfl⟩

theorem PairAlike.toList {bag bag' : Properties} (alike : bag.hidden = bag'.hidden) :
    List.Forall₂ PairAlike bag.toList bag'.toList := by
  have lists := congrArg (fun seen : Properties => seen.toList) alike
  simp only [toList_masked] at lists
  rw [← List.forall₂_eq_eq_eq, List.forall₂_map_left_iff, List.forall₂_map_right_iff] at lists
  refine lists.imp fun pair pair' same => ?_
  obtain ⟨keys, values⟩ := Prod.mk.inj same
  exact ⟨keys, values.trans (by rw [keys])⟩

theorem getElem?_eq_of_hidden {bag bag' : Properties} (alike : bag.hidden = bag'.hidden)
    {key : ClientKey} (plain : ∀ value, key.seen (fun _ => "") value = value) :
    bag[key.text]? = bag'[key.text]? := by
  have values := congrArg (fun seen : Properties => seen[key.text]?) alike
  have shown : seen (fun _ => "") key.text = id :=
    funext fun value => (seen_text key value).trans (plain value)
  simpa [getElem?_masked, shown] using values

end Properties

theorem PropertyKey.ofText?_eq_none_of_cache {text name : String} {key : CacheKey}
    (meaning : ofText? text = some (.cache name key)) : ClientKey.ofText? text = none := by
  cases known : ClientKey.ofText? text with
  | none => rfl
  | some setting => simp [ofText?, known] at meaning

namespace Draft

/-- The draft without the texts of its passwords, and without passwords and URIs that it keeps. -/
def hidden (draft : Draft) : Draft :=
  { draft with
    authentication.password := draft.authentication.password.map fun _ => ""
    tls.trustStorePassword := draft.tls.trustStorePassword.map fun _ => ""
    properties := draft.properties.hidden }

abbrev LooksLike (draft draft' : Draft) : Prop := draft.hidden = draft'.hidden

variable {files : Files} {draft draft' : Draft}

theorem LooksLike.caches (alike : draft.LooksLike draft') : draft.caches = draft'.caches :=
  congrArg (fun seen => seen.caches) alike

theorem LooksLike.cache (alike : draft.LooksLike draft') (name : String) :
    draft.cache name = draft'.cache name := by
  rw [Draft.cache, alike.caches, Draft.cache]

theorem LooksLike.setCache (alike : draft.LooksLike draft') (name : String) (cache : CacheDraft) :
    (draft.setCache name cache).LooksLike (draft'.setCache name cache) :=
  congrArg (fun seen => seen.setCache name cache) alike

/-- Hiding a draft and the value that is set commutes with setting it. -/
theorem hidden_setClient (draft : Draft) (value : String) (key : ClientKey) :
    (draft.setClient value key).map hidden =
      draft.hidden.setClient (key.seen (fun _ => "") value) key := by
  cases key
  case marshaller =>
    by_cases present : draft.marshaller.isSome = true
    · have hidden : draft.hidden.marshaller.isSome = true := present
      simp only [setClient, if_pos present, if_pos hidden]
      rfl
    · have hidden : ¬ draft.hidden.marshaller.isSome = true := present
      simp only [setClient, if_neg present, if_neg hidden, ClientKey.seen]
      cases marshallerNamed value <;> rfl
  case clientIntelligence =>
    simp only [setClient, ClientKey.seen]
    cases ClientIntelligence.read value <;> rfl
  case tracingPropagation | useAuth | useTls | tcpNoDelay | tcpKeepAlive =>
    simp only [setClient, ClientKey.seen]
    cases readFlag value <;> rfl
  case connectTimeout | socketTimeout =>
    simp only [setClient, ClientKey.seen]
    cases readNumber Text.readUInt64 value <;> rfl
  case maxRetries =>
    simp only [setClient, ClientKey.seen]
    cases readNumber Text.readUInt32 value <;> rfl
  all_goals rfl

theorem LooksLike.setClient (alike : draft.LooksLike draft') {value value' : String} {key : ClientKey}
    (seen : key.seen (fun _ => "") value = key.seen (fun _ => "") value') :
    Matches Eq LooksLike (draft.setClient value key) (draft'.setClient value' key) := by
  refine Matches.of_map_eq ?_
  rw [hidden_setClient, hidden_setClient, alike, seen]

/-- A value that is refused is no secret. -/
theorem eq_of_setClient_error {value value' : String} {key : ClientKey} {fault : ValueFault}
    (refused : draft.setClient value key = .error fault)
    (seen : key.seen (fun _ => "") value = key.seen (fun _ => "") value') : value = value' := by
  cases key
  case uri | authPassword | trustStorePassword => cases refused
  all_goals exact seen

theorem hidden_setEndpoint (uri : HotRodUri) (draft : Draft) :
    (setEndpoint uri draft).hidden = setEndpoint uri.hidden draft.hidden := by
  obtain ⟨tls, servers, username, password, properties⟩ := uri
  cases tls <;> cases password <;> rfl

theorem hidden_keepProperties (bag : Properties) (draft : Draft) :
    (keepProperties bag draft).hidden = keepProperties bag.hidden draft.hidden := by
  unfold keepProperties hidden
  rw [Properties.hidden, Properties.masked_extend, ← Properties.toList_masked]

section
variable {errors : ClientError → ClientError → Prop} (reflexive : ∀ error, errors error error)
include reflexive

theorem mirrors_applyProperty {pair pair' : String × String} (alike : Properties.PairAlike pair pair') :
    (applyProperty files pair.1 pair.2).Mirrors LooksLike errors Eq
      (applyProperty files pair'.1 pair'.2) := by
  obtain ⟨key, value⟩ := pair
  obtain ⟨key', value'⟩ := pair'
  obtain ⟨rfl, seen⟩ := alike
  intro draft draft' alike
  change Outcome.Mirrors _ _ _ ((applyProperty files key value).run draft)
    ((applyProperty files key value').run draft')
  cases meaning : PropertyKey.ofText? key with
  | none =>
    rw [run_applyProperty_of_unknown meaning, run_applyProperty_of_unknown meaning]
    exact ⟨alike, rfl, rfl⟩
  | some known =>
    cases known with
    | client setting =>
      obtain rfl := PropertyKey.ofText?_eq_client_iff.mp meaning
      simp only [Properties.seen_text] at seen
      have set := alike.setClient seen
      rw [run_applyProperty_text, run_applyProperty_text]
      cases left : draft.setClient value setting with
      | error fault =>
        obtain rfl := eq_of_setClient_error left seen
        cases right : draft'.setClient value setting with
        | error fault' =>
          obtain rfl : fault = fault' := by simpa [left, right, Matches] using set
          exact ⟨alike, rfl, reflexive _⟩
        | ok changed' => simp [left, right, Matches] at set
      | ok changed =>
        cases right : draft'.setClient value' setting with
        | error fault' => simp [left, right, Matches] at set
        | ok changed' =>
          rw [left, right] at set
          exact ⟨set, rfl, rfl⟩
    | cache name setting =>
      obtain rfl : value = value' := by
        simpa [Properties.seen, PropertyKey.ofText?_eq_none_of_cache meaning] using seen
      rw [run_applyProperty_of_cache meaning, run_applyProperty_of_cache meaning, ← alike.cache]
      cases (draft.cache name).set files value setting with
      | error fault =>
        refine ⟨?_, rfl, reflexive _⟩
        simp only [touchCache, ← alike.cache]
        exact alike.setCache name _
      | ok cache => exact ⟨alike.setCache name cache, rfl, rfl⟩

theorem mirrors_applyProperties {pairs pairs' : List (String × String)}
    (alike : List.Forall₂ Properties.PairAlike pairs pairs') :
    (applyProperties files pairs).Mirrors LooksLike errors Eq (applyProperties files pairs') :=
  Mirrors.forEach alike fun _ _ same => mirrors_applyProperty reflexive same

theorem mirrors_applyUri {text text' : String} (read : HotRodUri.ReadAlike errors text text') :
    (applyUri files text).Mirrors LooksLike errors Eq (applyUri files text') := by
  refine (mirrors_ofExcept read).bind fun uri uri' alike => Mirrors.andThen ?_ ?_
  · refine mirrors_modify fun draft draft' same => ?_
    rw [LooksLike, hidden_setEndpoint, hidden_setEndpoint, same, alike]
  · have pairs : uri.properties = uri'.properties := congrArg (fun seen => seen.properties) alike
    rw [pairs]
    exact mirrors_applyProperties reflexive (Properties.PairAlike.forall_refl _)

theorem mirrors_applyEndpoint {bag bag' : Properties} (alike : bag.Alike errors bag') :
    (applyEndpoint files bag).Mirrors LooksLike errors Eq (applyEndpoint files bag') := by
  have named : bag[ClientKey.uri.text]?.isSome = bag'[ClientKey.uri.text]?.isSome := by
    have seen := congrArg (fun seen : Properties => seen[ClientKey.uri.text]?.isSome) alike.hidden
    simpa [Properties.getElem?_masked] using seen
  have listed := Properties.getElem?_eq_of_hidden alike.hidden (fun _ => rfl : ∀ value,
    ClientKey.serverList.seen (fun _ => "") value = value)
  unfold applyEndpoint
  cases uri : bag[ClientKey.uri.text]? with
  | some text =>
    cases uri' : bag'[ClientKey.uri.text]? with
    | some text' => exact mirrors_applyUri reflexive (alike.endpoint text text' uri uri')
    | none => simp [uri, uri'] at named
  | none =>
    cases uri' : bag'[ClientKey.uri.text]? with
    | some text' => simp [uri, uri'] at named
    | none =>
      rw [listed]
      cases bag'[ClientKey.serverList.text]? with
      | none => exact mirrors_pure rfl
      | some list =>
        refine (mirrors_ofExcept_self reflexive _).bind ?_
        rintro servers _ rfl
        exact mirrors_modify fun draft draft' same => congrArg ({ · with servers }) same

theorem mirrors_applyBag {bag bag' : Properties} (alike : bag.Alike errors bag') :
    (applyBag files bag).Mirrors LooksLike errors Eq (applyBag files bag') := by
  refine (mirrors_applyEndpoint reflexive alike).andThen (Mirrors.andThen ?_ ?_)
  · exact mirrors_applyProperties reflexive (Properties.PairAlike.toList alike.hidden)
  · refine mirrors_modify fun draft draft' same => ?_
    rw [LooksLike, hidden_keepProperties, hidden_keepProperties, same, alike.hidden]

end

end Draft

end HotRod
