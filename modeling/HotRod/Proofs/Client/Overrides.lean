import HotRod.Client.Assembly
import HotRod.Proofs.Action.Mirrors
set_option autoImplicit false

/-!
# Overrides for caches on two drafts

Overrides look at nothing of a draft but its caches, and change nothing else. So drafts with the same
caches go the same way under them, whatever else is said of the two.
-/

namespace HotRod

open HotRod.Action

/-- Related drafts have the same caches, and remain related as a cache of both is changed. -/
structure Draft.CachesAlike (related : Draft → Draft → Prop) : Prop where
  cache : ∀ {draft draft' : Draft}, related draft draft' → ∀ name, draft.cache name = draft'.cache name
  setCache : ∀ {draft draft' : Draft}, related draft draft' →
    ∀ name cache, related (draft.setCache name cache) (draft'.setCache name cache)

variable {errors : ClientError → ClientError → Prop} (reflexive : ∀ error, errors error error)
  {related : Draft → Draft → Prop} (alike : Draft.CachesAlike related) {files : Files}
  {settings settings' : RuntimeSettings} (resolve : settings.resolve = settings'.resolve)
include reflexive alike resolve

theorem CacheOverrides.mirrors_apply (name : String) (overrides : CacheOverrides) :
    (overrides.apply files settings name).Mirrors related errors Eq
      (overrides.apply files settings' name) := by
  have put (change : CacheDraft → CacheDraft) :
      (Action.modify fun draft => draft.setCache name (change (draft.cache name)) :
        Action Draft ClientError Unit).Mirrors related errors Eq
      (Action.modify fun draft => draft.setCache name (change (draft.cache name))) := by
    refine mirrors_modify fun draft draft' same => ?_
    rw [← alike.cache same]
    exact alike.setCache same name _
  refine Mirrors.andThen ?_ (put overrides.applyNearCache)
  unfold applyDefinition
  cases overrides.definitionFile with
  | some file =>
    simp only [resolve]
    refine (mirrors_emit _).andThen (Mirrors.get_bind fun draft draft' same => ?_)
    rw [← alike.cache same]
    refine Mirrors.bind (mirrors_ofExcept_self reflexive _) ?_ draft draft' same
    rintro cache _ rfl
    exact mirrors_modify fun draft draft' same => alike.setCache same name cache
  | none =>
    cases overrides.definition with
    | some text => exact put ({ · with definition := some text })
    | none => exact mirrors_pure rfl

theorem RuntimeSection.mirrors_applyCaches {runtime runtime' : RuntimeSection}
    (caches : runtime.caches = runtime'.caches) :
    (runtime.applyCaches files settings).Mirrors related errors Eq
      (runtime'.applyCaches files settings') := by
  unfold applyCaches
  rw [caches]
  exact Mirrors.forEach_same fun item => item.2.mirrors_apply reflexive alike resolve item.1

end HotRod
