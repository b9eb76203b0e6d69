import HotRod.Action
import Mathlib.Data.List.Forall2
set_option autoImplicit false

/-!
# Runs that mirror each other

Two runs mirror each other when they report the same events and end in related states with related
results: both succeed with related values, or both fail with related errors. What is said of two runs
this way is said of everything that can be seen of them, up to the relations. The parts of two actions
are compared one by one.
-/

namespace HotRod
variable {σ τ σ' τ' ε ε' φ φ' α α' β β' : Type}

/-- Results of the same kind with related contents. -/
def Matches (errors : ε → ε' → Prop) (values : α → α' → Prop) :
    Except ε α → Except ε' α' → Prop
  | .ok value, .ok value' => values value value'
  | .error error, .error error' => errors error error'
  | _, _ => False

namespace Matches
variable {errors : ε → ε' → Prop} {values : α → α' → Prop}

theorem refl {errors : ε → ε → Prop} {values : α → α → Prop} (error : ∀ error, errors error error)
    (value : ∀ value, values value value) (result : Except ε α) :
    Matches errors values result result := by
  cases result with
  | error cause => exact error cause
  | ok given => exact value given

theorem map {more : β → β' → Prop} {f : α → β} {f' : α' → β'} {result : Except ε α}
    {other : Except ε' α'} (same : Matches errors values result other)
    (kept : ∀ value value', values value value' → more (f value) (f' value')) :
    Matches errors more (result.map f) (other.map f') := by
  cases result <;> cases other <;> first | exact kept _ _ same | exact same

theorem mapError {more : φ → φ' → Prop} {reword : ε → φ} {reword' : ε' → φ'} {result : Except ε α}
    {other : Except ε' α'} (same : Matches errors values result other)
    (kept : ∀ error error', errors error error' → more (reword error) (reword' error')) :
    Matches more values (result.mapError reword) (other.mapError reword') := by
  cases result <;> cases other <;> first | exact kept _ _ same | exact same

theorem of_map_eq {view : α → β} {view' : α' → β} {result : Except ε α} {other : Except ε α'}
    (same : result.map view = other.map view') :
    Matches Eq (fun value value' => view value = view' value') result other := by
  cases result <;> cases other <;> simp_all [Except.map, Matches]

theorem eq {result other : Except ε α} (same : Matches Eq Eq result other) : result = other := by
  cases result <;> cases other <;> first | exact congrArg _ same | exact same.elim

theorem mono {more : ε → ε' → Prop} {other : α → α' → Prop} {result : Except ε α}
    {result' : Except ε' α'} (same : Matches errors values result result')
    (error : ∀ error error', errors error error' → more error error')
    (value : ∀ value value', values value value' → other value value') :
    Matches more other result result' := by
  cases result <;> cases result' <;> first | exact error _ _ same | exact value _ _ same | exact same

end Matches

structure Outcome.Mirrors (states : σ → τ → Prop) (errors : ε → ε' → Prop) (values : α → α' → Prop)
    (outcome : Outcome σ ε α) (other : Outcome τ ε' α') : Prop where
  states : states outcome.state other.state
  events : outcome.events = other.events
  results : Matches errors values outcome.result other.result

/-- Where states and values may not differ, at most the errors of two failures do. -/
theorem Outcome.Mirrors.eq_or_errors {errors : ε → ε → Prop} {outcome other : Outcome σ ε α}
    (mirrors : outcome.Mirrors Eq errors Eq other) :
    outcome = other ∨ ∃ finish events error error', errors error error' ∧
      outcome = ⟨finish, events, .error error⟩ ∧ other = ⟨finish, events, .error error'⟩ := by
  obtain ⟨finish, events, result⟩ := outcome
  obtain ⟨finish', events', result'⟩ := other
  obtain ⟨rfl, rfl, results⟩ := mirrors
  cases result with
  | error error =>
    cases result' with
    | error error' => exact .inr ⟨finish, events, error, error', results, rfl, rfl⟩
    | ok value' => exact results.elim
  | ok value =>
    cases result' with
    | error error' => exact results.elim
    | ok value' =>
      obtain rfl : value = value' := results
      exact .inl rfl

namespace Action

/-- From related states, runs that mirror each other. -/
def Mirrors (states : σ → τ → Prop) (errors : ε → ε' → Prop) (values : α → α' → Prop)
    (action : Action σ ε α) (other : Action τ ε' α') : Prop :=
  ∀ state state', states state state' →
    (action.run state).Mirrors states errors values (other.run state')

variable {states : σ → τ → Prop} {errors : ε → ε' → Prop} {values : α → α' → Prop}

theorem mirrors_ofExcept {result : Except ε α} {other : Except ε' α'}
    (same : Matches errors values result other) :
    (ofExcept result).Mirrors states errors values (ofExcept other) := by
  intro state state' start
  rw [run_ofExcept, run_ofExcept]
  exact ⟨start, rfl, same⟩

theorem mirrors_ofExcept_self {errors : ε → ε → Prop} (reflexive : ∀ error, errors error error)
    (result : Except ε α) :
    (ofExcept result : Action σ ε α).Mirrors states errors Eq (ofExcept result : Action τ ε α) :=
  mirrors_ofExcept (Matches.refl reflexive (fun _ => rfl) result)

theorem mirrors_pure {value : α} {value' : α'} (same : values value value') :
    (pure value : Action σ ε α).Mirrors states errors values (pure value' : Action τ ε' α') :=
  fun _ _ start => ⟨start, rfl, same⟩

theorem mirrors_fail {error : ε} {error' : ε'} (same : errors error error') :
    (fail error : Action σ ε α).Mirrors states errors values (fail error' : Action τ ε' α') :=
  fun _ _ start => ⟨start, rfl, same⟩

theorem mirrors_emit (event : Event) :
    (emit event : Action σ ε Unit).Mirrors states errors Eq (emit event : Action τ ε' Unit) :=
  fun _ _ start => ⟨start, rfl, rfl⟩

theorem mirrors_modify {change : σ → σ} {change' : τ → τ}
    (kept : ∀ state state', states state state' → states (change state) (change' state')) :
    (modify change : Action σ ε Unit).Mirrors states errors Eq (modify change' : Action τ ε' Unit) :=
  fun state state' start => ⟨kept state state' start, rfl, rfl⟩

theorem mirrors_refl {errors : ε → ε → Prop} (reflexive : ∀ error, errors error error)
    (action : Action σ ε α) : action.Mirrors Eq errors Eq action := by
  rintro state _ rfl
  exact ⟨rfl, rfl, Matches.refl reflexive (fun _ => rfl) _⟩

/-- What follows two runs that mirror each other goes on from where they ended. -/
theorem mirrors_run_bind {more : β → β' → Prop} {first : Action σ ε α} {other : Action τ ε' α'}
    {next : α → Action σ ε β} {last : α' → Action τ ε' β'} {state : σ} {state' : τ}
    (mirrors : (first.run state).Mirrors states errors values (other.run state'))
    (rest : ∀ value value', values value value' →
      (next value).Mirrors states errors more (last value')) :
    ((first >>= next).run state).Mirrors states errors more ((other >>= last).run state') := by
  obtain ⟨left, events, results⟩ := mirrors
  rcases done : first.run state with ⟨middle, seen, error | value⟩ <;>
    rcases done' : other.run state' with ⟨middle', seen', error' | value'⟩ <;>
    rw [done, done'] at left events results
  · rw [run_bind_of_error done, run_bind_of_error done']
    exact ⟨left, events, results⟩
  · exact results.elim
  · exact results.elim
  · obtain ⟨left', events', results'⟩ := rest value value' results middle middle' left
    rw [run_bind_of_ok done, run_bind_of_ok done']
    exact ⟨left', congrArg₂ (· ++ ·) events events', results'⟩

namespace Mirrors

theorem bind {more : β → β' → Prop} {first : Action σ ε α} {other : Action τ ε' α'}
    {next : α → Action σ ε β} {last : α' → Action τ ε' β'}
    (mirrors : first.Mirrors states errors values other)
    (rest : ∀ value value', values value value' →
      (next value).Mirrors states errors more (last value')) :
    (first >>= next).Mirrors states errors more (other >>= last) :=
  fun state state' start => mirrors_run_bind (mirrors state state' start) rest

theorem andThen {more : β → β' → Prop} {first : Action σ ε Unit} {other : Action τ ε' Unit}
    {next : Unit → Action σ ε β} {last : Unit → Action τ ε' β'}
    (mirrors : first.Mirrors states errors Eq other)
    (rest : (next ()).Mirrors states errors more (last ())) :
    (first >>= next).Mirrors states errors more (other >>= last) :=
  mirrors.bind fun _ _ _ => rest

theorem get_bind {next : σ → Action σ ε α} {last : τ → Action τ ε' α'}
    (rest : ∀ state state', states state state' →
      ((next state).run state).Mirrors states errors values ((last state').run state')) :
    (get >>= next).Mirrors states errors values (get >>= last) := rest

theorem forEach {related : β → β' → Prop} {items : List β} {items' : List β'}
    {act : β → Action σ ε Unit} {act' : β' → Action τ ε' Unit} (same : List.Forall₂ related items items')
    (each : ∀ item item', related item item' → (act item).Mirrors states errors Eq (act' item')) :
    (forEach items act).Mirrors states errors Eq (forEach items' act') := by
  induction same with
  | nil => exact mirrors_pure rfl
  | cons head _ ih => exact (each _ _ head).andThen ih

theorem forEach_same {items : List β} {act : β → Action σ ε Unit} {act' : β → Action τ ε' Unit}
    (each : ∀ item, (act item).Mirrors states errors Eq (act' item)) :
    (Action.forEach items act).Mirrors states errors Eq (Action.forEach items act') := by
  refine Mirrors.forEach (List.forall₂_same.mpr fun item _ => Eq.refl item) ?_
  rintro item _ rfl
  exact each item

theorem mono {more : ε → ε' → Prop} {looser : α → α' → Prop} {action : Action σ ε α}
    {other : Action τ ε' α'} (mirrors : action.Mirrors states errors values other)
    (error : ∀ error error', errors error error' → more error error')
    (value : ∀ value value', values value value' → looser value value') :
    action.Mirrors states more looser other := by
  intro state state' start
  obtain ⟨left, events, results⟩ := mirrors state state' start
  exact ⟨left, events, results.mono error value⟩

theorem eq {action other : Action σ ε α} (mirrors : action.Mirrors Eq Eq Eq other) : action = other := by
  funext state
  change action.run state = other.run state
  rcases (mirrors state state rfl).eq_or_errors with same | ⟨finish, events, error, _, rfl, left, right⟩
  · exact same
  · exact left.trans right.symm

theorem mapError {more : φ → φ' → Prop} {action : Action σ ε α} {other : Action τ ε' α'}
    {reword : ε → φ} {reword' : ε' → φ'} (mirrors : action.Mirrors states errors values other)
    (kept : ∀ error error', errors error error' → more (reword error) (reword' error')) :
    (Action.mapError reword action).Mirrors states more values (Action.mapError reword' other) := by
  intro state state' start
  obtain ⟨left, events, results⟩ := mirrors state state' start
  exact ⟨left, events, results.mapError kept⟩

theorem onPart {inner : σ' → τ' → Prop} {part : σ → σ'} {part' : τ → τ'} {put : σ' → σ → σ}
    {put' : τ' → τ → τ} {action : Action σ' ε α} {other : Action τ' ε' α'}
    (mirrors : action.Mirrors inner errors values other)
    (parts : ∀ state state', states state state' → inner (part state) (part' state'))
    (puts : ∀ state state' changed changed', states state state' → inner changed changed' →
      states (put changed state) (put' changed' state')) :
    (Action.onPart part put action).Mirrors states errors values (Action.onPart part' put' other) := by
  intro state state' start
  obtain ⟨left, events, results⟩ := mirrors _ _ (parts state state' start)
  exact ⟨puts _ _ _ _ start left, events, results⟩

theorem building {seed : α} {seed' : α'} {action : Action α ε Unit} {other : Action α' ε' Unit}
    (mirrors : action.Mirrors values errors Eq other) (seeds : values seed seed') :
    (Action.building seed action : Action σ ε α).Mirrors states errors values
      (Action.building seed' other : Action τ ε' α') := by
  intro state state' start
  obtain ⟨built, events, results⟩ := mirrors seed seed' seeds
  exact ⟨start, events, results.map fun _ _ _ => built⟩

theorem within {inner : σ' → τ' → Prop} {seed : σ'} {seed' : τ'} {action : Action σ' ε α}
    {other : Action τ' ε' α'} (mirrors : action.Mirrors inner errors values other)
    (seeds : inner seed seed') :
    (Action.within seed action : Action σ ε α).Mirrors states errors values
      (Action.within seed' other : Action τ ε' α') := by
  intro state state' start
  obtain ⟨-, events, results⟩ := mirrors seed seed' seeds
  exact ⟨start, events, results⟩

end Mirrors

end Action

end HotRod
