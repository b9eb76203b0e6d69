import HotRod.Proofs.Action
import HotRod.Proofs.Action.Alike
set_option autoImplicit false

/-!
# Kinds of errors

An action fails with errors of one kind only when all of its parts do, whatever state they start from.
-/

namespace HotRod
variable {σ τ ε α β : Type}

theorem bind_eq_error {result : Except ε α} {next : α → Except ε β} {error : ε}
    (failed : (result >>= next) = .error error) :
    result = .error error ∨ ∃ value, next value = .error error := by
  cases result with
  | error cause =>
    change Except.error cause = .error error at failed
    exact .inl (congrArg Except.error (Except.error.inj failed))
  | ok value => exact .inr ⟨value, failed⟩

theorem exists_first_of_mapM_eq_error {items : List α} {read : α → Except ε β} {error : ε}
    (failed : items.mapM read = .error error) :
    ∃ before bad after values, items = before ++ bad :: after ∧ before.mapM read = .ok values ∧
      read bad = .error error := by
  induction items with
  | nil => contradiction
  | cons item items ih =>
    rw [List.mapM_cons] at failed
    cases first : read item with
    | error cause =>
      rw [first] at failed
      cases failed
      exact ⟨[], item, items, [], rfl, rfl, first⟩
    | ok value =>
      rw [first] at failed
      cases rest : items.mapM read with
      | error cause =>
        rw [rest] at failed
        cases failed
        obtain ⟨before, bad, after, values, rfl, done, refused⟩ := ih rest
        refine ⟨item :: before, bad, after, value :: values, rfl, ?_, refused⟩
        rw [List.mapM_cons, first, done]
        rfl
      | ok values =>
        rw [rest] at failed
        contradiction

/-- A list is refused for its first item that is. -/
theorem mapM_eq_error_iff {items : List α} {read : α → Except ε β} {error : ε} :
    items.mapM read = .error error ↔
      ∃ before bad after values, items = before ++ bad :: after ∧ before.mapM read = .ok values ∧
        read bad = .error error := by
  constructor
  · exact exists_first_of_mapM_eq_error
  · rintro ⟨before, bad, after, values, rfl, done, refused⟩
    rw [List.mapM_append, List.mapM_cons, done, refused]
    rfl

theorem exists_of_mapM_eq_error {items : List α} {read : α → Except ε β} {error : ε}
    (failed : items.mapM read = .error error) : ∃ item, read item = .error error := by
  obtain ⟨before, bad, after, values, -, -, refused⟩ := mapM_eq_error_iff.mp failed
  exact ⟨bad, refused⟩

namespace Action
variable {kind : ε → Prop}

/-- All errors are of one kind. -/
def FailsWith (kind : ε → Prop) (action : Action σ ε α) : Prop :=
  ∀ state error, (action.run state).result = .error error → kind error

theorem failsWith_ofExcept {result : Except ε α} (of : ∀ error, result = .error error → kind error) :
    (ofExcept result : Action σ ε α).FailsWith kind := by
  intro state error failed
  rw [run_ofExcept] at failed
  exact of error failed

theorem failsWith_pure (value : α) : (pure value : Action σ ε α).FailsWith kind := by
  intro state error failed
  rw [run_pure] at failed
  contradiction

theorem failsWith_fail {error : ε} (of : kind error) : (fail error : Action σ ε α).FailsWith kind := by
  intro state other failed
  rw [run_fail] at failed
  cases failed
  exact of

theorem failsWith_get : (get : Action σ ε σ).FailsWith kind := fun _ _ failed => nomatch failed

theorem failsWith_modify (change : σ → σ) : (modify change : Action σ ε Unit).FailsWith kind :=
  fun _ _ failed => nomatch failed

theorem failsWith_emit (event : Event) : (emit event : Action σ ε Unit).FailsWith kind :=
  fun _ _ failed => nomatch failed

namespace FailsWith

theorem bind {first : Action σ ε α} {next : α → Action σ ε β} (fails : first.FailsWith kind)
    (rest : ∀ value, (next value).FailsWith kind) : (first >>= next).FailsWith kind := by
  intro state error failed
  cases done : (first.run state).result with
  | error earlier =>
    have same := @same_bind_of_error σ ε α β first next _ _ done
    rw [same.2] at failed
    cases failed
    exact fails state error done
  | ok value =>
    have same := @same_bind_of_ok σ ε α β first next _ _ done
    rw [same.2] at failed
    exact rest value _ error failed

theorem forEach {items : List α} {act : α → Action σ ε Unit}
    (each : ∀ item, (act item).FailsWith kind) : (Action.forEach items act).FailsWith kind := by
  induction items with
  | nil => exact failsWith_pure ()
  | cons item items ih => exact (each item).bind fun _ => ih

theorem onPart {part : σ → τ} {put : τ → σ → σ} {action : Action τ ε α}
    (fails : action.FailsWith kind) : (Action.onPart part put action).FailsWith kind :=
  fun state => fails (part state)

theorem building {seed : τ} {action : Action τ ε Unit} (fails : action.FailsWith kind) :
    (Action.building seed action : Action σ ε τ).FailsWith kind := by
  intro state error failed
  rw [run_building] at failed
  exact fails seed error (map_eq_error_iff.mp failed)

end FailsWith

end Action

end HotRod
