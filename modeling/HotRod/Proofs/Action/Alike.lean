import HotRod.Action
set_option autoImplicit false

/-!
# Actions that differ in their events only

Two outcomes are the same but for what was reported when they leave the same state and end with the
same result.
-/

namespace HotRod
variable {σ ε α β : Type}

def Outcome.Same (outcome other : Outcome σ ε α) : Prop :=
  outcome.state = other.state ∧ outcome.result = other.result

namespace Outcome.Same

theorem refl (outcome : Outcome σ ε α) : outcome.Same outcome := ⟨rfl, rfl⟩

theorem symm {outcome other : Outcome σ ε α} (same : outcome.Same other) : other.Same outcome :=
  ⟨same.1.symm, same.2.symm⟩

theorem trans {outcome middle other : Outcome σ ε α} (same : outcome.Same middle)
    (also : middle.Same other) : outcome.Same other :=
  ⟨same.1.trans also.1, same.2.trans also.2⟩

end Outcome.Same

namespace Action

/-- From every state, the same but for events. -/
def Alike (action other : Action σ ε α) : Prop := ∀ state, (action.run state).Same (other.run state)

theorem same_bind_of_ok {first : Action σ ε α} {next : α → Action σ ε β} {state : σ} {value : α}
    (done : (first.run state).result = .ok value) :
    ((first >>= next).run state).Same ((next value).run (first.run state).state) := by
  rcases ran : first.run state with ⟨middle, events, result⟩
  rw [ran] at done
  obtain rfl := done
  rw [run_bind_of_ok ran]
  exact ⟨rfl, rfl⟩

theorem same_bind_of_error {first : Action σ ε α} {next : α → Action σ ε β} {state : σ} {error : ε}
    (failed : (first.run state).result = .error error) :
    ((first >>= next).run state).Same ((fail error).run (first.run state).state) := by
  rcases ran : first.run state with ⟨middle, events, result⟩
  rw [ran] at failed
  obtain rfl := failed
  rw [run_bind_of_error ran]
  exact ⟨rfl, rfl⟩

namespace Alike

theorem refl (action : Action σ ε α) : action.Alike action := fun _ => .refl _

theorem trans {action middle other : Action σ ε α} (alike : action.Alike middle)
    (also : middle.Alike other) : action.Alike other := fun state => (alike state).trans (also state)

theorem bind {first other : Action σ ε α} {next last : α → Action σ ε β} (alike : first.Alike other)
    (rest : ∀ value, (next value).Alike (last value)) : (first >>= next).Alike (other >>= last) := by
  intro state
  obtain ⟨left, result⟩ := alike state
  cases done : (first.run state).result with
  | error error =>
    refine (same_bind_of_error done).trans (.symm ?_)
    rw [left]
    exact same_bind_of_error (result.symm.trans done)
  | ok value =>
    refine (same_bind_of_ok done).trans (.symm ?_)
    refine (same_bind_of_ok (result.symm.trans done)).trans (.symm ?_)
    rw [← left]
    exact rest value _

theorem emit (event : Event) (next : Unit → Action σ ε α) :
    (Action.emit event >>= next).Alike (next ()) := fun _ => same_bind_of_ok rfl

end Alike

end Action

end HotRod
