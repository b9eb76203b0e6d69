import HotRod.Proofs.Action.Keeps
set_option autoImplicit false

/-!
# What actions preserve

A fact about the state is preserved by an action that leaves it true where it was true, in success and
in failure. What the parts of an action preserve, the whole action preserves; where the state is read,
what is read may be used.
-/

namespace HotRod.Action
variable {σ τ ε ε' α β : Type} {Holds : σ → Prop}

def Preserves (Holds : σ → Prop) (action : Action σ ε α) : Prop :=
  ∀ state, Holds state → Holds (action.run state).state

theorem preserves_pure (value : α) : (pure value : Action σ ε α).Preserves Holds := fun _ holds => holds

theorem preserves_fail (error : ε) : (fail error : Action σ ε α).Preserves Holds := fun _ holds => holds

theorem preserves_emit (event : Event) : (emit event : Action σ ε Unit).Preserves Holds :=
  fun _ holds => holds

theorem preserves_modify {change : σ → σ} (kept : ∀ state, Holds state → Holds (change state)) :
    (modify change : Action σ ε Unit).Preserves Holds := kept

theorem preserves_ofExcept (result : Except ε α) : (ofExcept result : Action σ ε α).Preserves Holds := by
  intro state holds
  rw [run_ofExcept]
  exact holds

theorem preserves_get_bind {next : σ → Action σ ε α}
    (rest : ∀ state, Holds state → Holds ((next state).run state).state) :
    (get >>= next).Preserves Holds := rest

namespace Preserves

theorem bind {first : Action σ ε α} {next : α → Action σ ε β} (kept : first.Preserves Holds)
    (rest : ∀ value, (next value).Preserves Holds) : (first >>= next).Preserves Holds := by
  intro state holds
  have middle := kept state holds
  rcases done : first.run state with ⟨left, events, error | value⟩
  · rw [done] at middle
    rw [run_bind_of_error done]
    exact middle
  · rw [done] at middle
    rw [run_bind_of_ok done]
    exact rest value left middle

theorem mapError {action : Action σ ε α} (kept : action.Preserves Holds) (reword : ε → ε') :
    (mapError reword action).Preserves Holds := kept

theorem attempt {action : Action σ ε α} (kept : action.Preserves Holds) :
    (attempt action : Action σ ε' (Except ε α)).Preserves Holds := kept

theorem forEach {items : List α} {act : α → Action σ ε Unit}
    (each : ∀ item, (act item).Preserves Holds) : (forEach items act).Preserves Holds := by
  induction items with
  | nil => exact preserves_pure ()
  | cons item items ih => exact (each item).bind fun _ => ih

theorem onPart {part : σ → τ} {put : τ → σ → σ} {action : Action τ ε α} {Inner : τ → Prop}
    (kept : action.Preserves Inner) (parts : ∀ state, Holds state → Inner (part state))
    (puts : ∀ state changed, Holds state → Inner changed → Holds (put changed state)) :
    (onPart part put action).Preserves Holds :=
  fun state holds => puts state _ holds (kept _ (parts state holds))

end Preserves

theorem Keeps.preserves {part : σ → τ} {action : Action σ ε α} (kept : action.Keeps part)
    (Fact : τ → Prop) : action.Preserves fun state => Fact (part state) := by
  intro state holds
  rw [kept state]
  exact holds

end HotRod.Action
