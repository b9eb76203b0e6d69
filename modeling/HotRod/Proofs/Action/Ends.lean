import HotRod.Proofs.Action.Alike
set_option autoImplicit false

/-!
# Actions with foreseen problems

What an action comes to from a state is told by a problem, if there is one, and otherwise by what holds
of the state that it leaves. A sequence comes to the problem of its first part or else to that of the
rest, and a loop to the first problem among its items.
-/

namespace HotRod
variable {σ ε ε' α β : Type}

def error? : Except ε α → Option ε
  | .error error => some error
  | .ok _ => none

theorem error?_mapError (result : Except ε α) (reword : ε → ε') :
    error? (result.mapError reword) = (error? result).map reword := by
  cases result <;> rfl

theorem error?_map (result : Except ε α) (f : α → β) : error? (result.map f) = error? result := by
  cases result <;> rfl

theorem error?_eq_none_iff {result : Except ε α} : error? result = none ↔ ∃ value, result = .ok value := by
  cases result <;> simp [error?]

namespace Action

/-- From a state, an action fails with the problem; if there is none, it succeeds and leaves a state
of the kind. -/
def Ends (action : Action σ ε Unit) (start : σ) (problem? : Option ε) (Suits : σ → Prop) : Prop :=
  match problem? with
  | some problem => (action.run start).result = .error problem
  | none => (action.run start).result = .ok () ∧ Suits (action.run start).state

theorem ends_pure {start : σ} {Suits : σ → Prop} (suits : Suits start) :
    (pure () : Action σ ε Unit).Ends start none Suits := ⟨rfl, suits⟩

theorem ends_fail {error : ε} {start : σ} {Suits : σ → Prop} :
    (fail error : Action σ ε Unit).Ends start (some error) Suits := rfl

theorem ends_modify {change : σ → σ} {start : σ} {Suits : σ → Prop} (suits : Suits (change start)) :
    (modify change : Action σ ε Unit).Ends start none Suits := ⟨rfl, suits⟩

theorem ends_emit {event : Event} {start : σ} {Suits : σ → Prop} (suits : Suits start) :
    (emit event : Action σ ε Unit).Ends start none Suits := ⟨rfl, suits⟩

theorem ends_ofExcept_bind {result : Except ε α} {next : α → Action σ ε Unit} {start : σ}
    {Suits : σ → Prop} (rest : ∀ value, result = .ok value → (next value).Ends start none Suits) :
    (ofExcept result >>= next).Ends start (error? result) Suits := by
  cases result with
  | error error => exact rfl
  | ok value => exact rest value rfl

namespace Ends
variable {action other first : Action σ ε Unit} {next : Unit → Action σ ε Unit} {start middle : σ}
  {problem? later? : Option ε} {Suits Last : σ → Prop}

theorem of_same (same : (action.run start).Same (other.run middle))
    (ends : other.Ends middle problem? Suits) : action.Ends start problem? Suits := by
  unfold Ends at *
  rw [same.1, same.2]
  exact ends

theorem mono (ends : action.Ends start problem? Suits) (weaken : ∀ state, Suits state → Last state) :
    action.Ends start problem? Last := by
  cases problem? with
  | some problem => exact ends
  | none => exact ⟨ends.1, weaken _ ends.2⟩

theorem bind (ends : first.Ends start problem? Suits)
    (rest : ∀ state, Suits state → (next ()).Ends state later? Last) :
    (first >>= next).Ends start (problem?.or later?) Last := by
  cases problem? with
  | some problem => exact (same_bind_of_error ends).2
  | none => exact of_same (same_bind_of_ok ends.1) (rest _ ends.2)

end Ends

/-- A loop keeps what holds of the items done, up to the first problem. -/
theorem ends_forEach {act : α → Action σ ε Unit} {problem? : α → Option ε} (Holds : List α → σ → Prop)
    (step : ∀ done item state, Holds done state →
      (act item).Ends state (problem? item) (Holds (done ++ [item])))
    (items done : List α) {start : σ} (holds : Holds done start) :
    (forEach items act).Ends start (items.findSome? problem?) (Holds (done ++ items)) := by
  induction items generalizing done start with
  | nil =>
    rw [List.append_nil]
    exact ends_pure holds
  | cons item items ih =>
    have first : (item :: items).findSome? problem? = (problem? item).or (items.findSome? problem?) := by
      rw [List.findSome?_cons]
      cases problem? item <;> rfl
    rw [forEach_cons, first]
    refine (step done item start holds).bind fun state held => ?_
    rw [List.append_cons]
    exact ih (done ++ [item]) held

end Action

end HotRod
