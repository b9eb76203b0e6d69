import HotRod.Action
set_option autoImplicit false

/-!
# What actions leave alone

A part of the state is kept by an action that leaves it as it was, in success and in failure. What the
parts of an action keep, the whole action keeps.
-/

namespace HotRod.Action
variable {σ τ ε ε' α β : Type} {part : σ → τ}

def Keeps (part : σ → τ) (action : Action σ ε α) : Prop :=
  ∀ state, part (action.run state).state = part state

theorem keeps_pure (value : α) : (pure value : Action σ ε α).Keeps part := fun _ => rfl

theorem keeps_fail (error : ε) : (fail error : Action σ ε α).Keeps part := fun _ => rfl

theorem keeps_get : (get : Action σ ε σ).Keeps part := fun _ => rfl

theorem keeps_emit (event : Event) : (emit event : Action σ ε Unit).Keeps part := fun _ => rfl

theorem keeps_building {seed : α} (action : Action α ε Unit) :
    (building seed action : Action σ ε α).Keeps part := fun _ => rfl

theorem Keeps.bind {first : Action σ ε α} {next : α → Action σ ε β} (kept : first.Keeps part)
    (rest : ∀ value, (next value).Keeps part) : (first >>= next).Keeps part := by
  intro state
  have before := kept state
  rcases done : first.run state with ⟨middle, events, error | value⟩
  · rw [done] at before
    rw [run_bind_of_error done]
    exact before
  · rw [done] at before
    rw [run_bind_of_ok done]
    exact (rest value middle).trans before

theorem Keeps.mapError {action : Action σ ε α} (kept : action.Keeps part) (reword : ε → ε') :
    (mapError reword action).Keeps part := kept

theorem Keeps.forEach {items : List α} {act : α → Action σ ε Unit}
    (each : ∀ item, (act item).Keeps part) : (forEach items act).Keeps part := by
  induction items with
  | nil => exact keeps_pure ()
  | cons item items ih => exact (each item).bind fun _ => ih

end HotRod.Action
