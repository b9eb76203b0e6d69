import HotRod.Proofs.Action.Alike
set_option autoImplicit false

/-!
# Runs from related states

Two runs are compared step by step: from related states they end with the same result and leave
related states. A sequence is followed through the related states in its middle, so that what is not
looked at by the relation may differ all the way.
-/

namespace HotRod.Action
variable {σ τ σ' τ' ε ε' α β : Type} {related : σ → τ → Prop}

/-- From related states, the same result and related states again. -/
def Agree (related : σ → τ → Prop) (action : Action σ ε α) (other : Action τ ε α) : Prop :=
  ∀ state state', related state state' →
    (action.run state).result = (other.run state').result ∧
      related (action.run state).state (other.run state').state

theorem agree_ofExcept (result : Except ε α) :
    (ofExcept result : Action σ ε α).Agree related (ofExcept result) := by
  intro state state' start
  rw [run_ofExcept, run_ofExcept]
  exact ⟨rfl, start⟩

theorem agree_pure (value : α) : (pure value : Action σ ε α).Agree related (pure value) :=
  agree_ofExcept (.ok value)

theorem agree_emit (event event' : Event) :
    (emit event : Action σ ε Unit).Agree related (emit event') := fun _ _ start => ⟨rfl, start⟩

theorem agree_modify {change : σ → σ} {change' : τ → τ}
    (keeps : ∀ state state', related state state' → related (change state) (change' state')) :
    (modify change : Action σ ε Unit).Agree related (modify change') :=
  fun state state' start => ⟨rfl, keeps state state' start⟩

theorem agree_building {seed : α} (action : Action α ε Unit) :
    (building seed action : Action σ ε α).Agree related (building seed action) :=
  fun _ _ start => ⟨rfl, start⟩

namespace Agree

theorem bind {first : Action σ ε α} {other : Action τ ε α} {next : α → Action σ ε β}
    {last : α → Action τ ε β} (agree : first.Agree related other)
    (rest : ∀ value, (next value).Agree related (last value)) :
    (first >>= next).Agree related (other >>= last) := by
  intro state state' start
  obtain ⟨results, states⟩ := agree state state' start
  cases done : (first.run state).result with
  | error error =>
    obtain ⟨left, given⟩ := @same_bind_of_error σ ε α β first next _ _ done
    obtain ⟨left', given'⟩ := @same_bind_of_error τ ε α β other last _ _ (results.symm.trans done)
    rw [left, given, left', given']
    exact ⟨rfl, states⟩
  | ok value =>
    obtain ⟨left, given⟩ := @same_bind_of_ok σ ε α β first next _ _ done
    obtain ⟨left', given'⟩ := @same_bind_of_ok τ ε α β other last _ _ (results.symm.trans done)
    rw [left, given, left', given']
    exact rest value _ _ states

theorem get_bind {next : σ → Action σ ε β} {last : τ → Action τ ε β}
    (rest : ∀ state state', related state state' → (next state).Agree related (last state')) :
    (get >>= next).Agree related (get >>= last) := by
  intro state state' start
  rw [run_bind_of_ok (run_get state), run_bind_of_ok (run_get state')]
  exact rest state state' start state state' start

theorem forEach {items : List α} {act : α → Action σ ε Unit} {act' : α → Action τ ε Unit}
    (each : ∀ item, (act item).Agree related (act' item)) :
    (forEach items act).Agree related (Action.forEach items act') := by
  induction items with
  | nil => exact agree_pure ()
  | cons item items ih => exact (each item).bind fun _ => ih

theorem onPart {inner : σ' → τ' → Prop} {part : σ → σ'} {part' : τ → τ'} {put : σ' → σ → σ}
    {put' : τ' → τ → τ} {action : Action σ' ε α} {other : Action τ' ε α}
    (agree : action.Agree inner other)
    (parts : ∀ state state', related state state' → inner (part state) (part' state'))
    (puts : ∀ state state' changed changed', related state state' → inner changed changed' →
      related (put changed state) (put' changed' state')) :
    (onPart part put action).Agree related (Action.onPart part' put' other) := by
  intro state state' start
  obtain ⟨results, states⟩ := agree _ _ (parts state state' start)
  exact ⟨results, puts _ _ _ _ start states⟩

end Agree

end HotRod.Action
