import HotRod.Action
set_option autoImplicit false

/-!
# Completed actions

An action completes when it succeeds. What a completed action did is read off its parts: a sequence
completes through a state in the middle, and a loop through one state for each item.
-/

namespace HotRod
variable {σ τ ε ε' α β : Type}

theorem map_eq_ok_iff {result : Except ε α} {f : α → β} {value : β} :
    result.map f = .ok value ↔ ∃ given, result = .ok given ∧ f given = value := by
  cases result <;> simp [Except.map]

theorem mapError_eq_ok_iff {result : Except ε α} {reword : ε → ε'} {value : α} :
    result.mapError reword = .ok value ↔ result = .ok value := by
  cases result with
  | error error => exact ⟨nofun, nofun⟩
  | ok other =>
    exact ⟨fun same => congrArg Except.ok (Except.ok.inj same),
      fun same => congrArg Except.ok (Except.ok.inj same)⟩

theorem map_eq_error_iff {result : Except ε α} {f : α → β} {error : ε} :
    result.map f = .error error ↔ result = .error error := by
  cases result <;> simp [Except.map]

theorem mapError_eq_error_iff {result : Except ε α} {reword : ε → ε'} {error : ε'} :
    result.mapError reword = .error error ↔ ∃ given, result = .error given ∧ reword given = error := by
  cases result with
  | error given =>
    constructor
    · intro same
      exact ⟨given, rfl, Except.error.inj same⟩
    · rintro ⟨_, ⟨⟩, reworded⟩
      exact congrArg Except.error reworded
  | ok value => exact ⟨nofun, fun ⟨_, same, _⟩ => nomatch same⟩

theorem bind_eq_ok_iff {result : Except ε α} {next : α → Except ε β} {value : β} :
    (result >>= next) = .ok value ↔ ∃ given, result = .ok given ∧ next given = .ok value := by
  cases result with
  | error error => exact ⟨nofun, nofun⟩
  | ok given => exact ⟨fun rest => ⟨given, rfl, rest⟩, fun ⟨_, same, rest⟩ => Except.ok.inj same ▸ rest⟩

theorem exists_ok_of_toBool {result : Except ε α} (succeeds : result.toBool = true) :
    ∃ value, result = .ok value := by
  cases result with
  | error error => contradiction
  | ok value => exact ⟨value, rfl⟩

theorem toOption_map (result : Except ε α) (f : α → β) :
    (result.map f).toOption = result.toOption.map f := by
  cases result <;> rfl

theorem eq_ok_of_toOption {result : Except ε α} {value : α} (given : result.toOption = some value) :
    result = .ok value := by
  cases result with
  | error error => contradiction
  | ok other => exact congrArg Except.ok (Option.some.inj given)

namespace Action

/-- From a state, an action succeeds with a value and leaves another state. -/
def Completes (action : Action σ ε α) (start : σ) (value : α) (finish : σ) : Prop :=
  (action.run start).result = .ok value ∧ (action.run start).state = finish

theorem completes_of_result {action : Action σ ε α} {start : σ} {value : α}
    (h : (action.run start).result = .ok value) :
    action.Completes start value (action.run start).state := ⟨h, rfl⟩

theorem completes_of_run {action : Action σ ε α} {start finish : σ} {events : List Event} {value : α}
    (ran : action.run start = ⟨finish, events, .ok value⟩) : action.Completes start value finish := by
  rw [Completes, ran]
  exact ⟨rfl, rfl⟩

@[simp] theorem completes_pure {value result : α} {start finish : σ} :
    (pure value : Action σ ε α).Completes start result finish ↔ value = result ∧ start = finish := by
  simp [Completes]

@[simp] theorem completes_fail {error : ε} {value : α} {start finish : σ} :
    ¬ (fail error : Action σ ε α).Completes start value finish := by
  simp [Completes]

/-- A sequence completes when its first part does, and the rest from where that ended. -/
theorem completes_bind {first : Action σ ε α} {next : α → Action σ ε β} {start finish : σ} {value : β} :
    (first >>= next).Completes start value finish ↔
      ∃ given middle, first.Completes start given middle ∧
        (next given).Completes middle value finish := by
  simp only [Completes, run_bind]
  rcases first.run start with ⟨middle, events, error | given⟩
  · simp
  · constructor
    · intro h
      exact ⟨given, middle, ⟨rfl, rfl⟩, h⟩
    · rintro ⟨given', middle', ⟨same, rfl⟩, h⟩
      cases same
      exact h

theorem completes_then {first : Action σ ε Unit} {next : Unit → Action σ ε β} {start finish : σ}
    {value : β} :
    (first >>= next).Completes start value finish ↔
      ∃ middle, first.Completes start () middle ∧ (next ()).Completes middle value finish := by
  rw [completes_bind]
  constructor
  · rintro ⟨⟨⟩, middle, h⟩
    exact ⟨middle, h⟩
  · rintro ⟨middle, h⟩
    exact ⟨(), middle, h⟩

/-- What follows an action matters only from where the action succeeds. -/
theorem run_bind_congr {first : Action σ ε α} {next last : α → Action σ ε β} {state : σ}
    (same : ∀ value, (first.run state).result = .ok value →
      (next value).run (first.run state).state = (last value).run (first.run state).state) :
    (first >>= next).run state = (first >>= last).run state := by
  rw [run_bind, run_bind]
  rcases done : first.run state with ⟨middle, events, error | value⟩
  · rfl
  · rw [done] at same
    simp only [same value rfl]

@[simp] theorem completes_get {value start finish : σ} :
    (get : Action σ ε σ).Completes start value finish ↔ start = value ∧ start = finish := by
  simp [Completes]

theorem completes_get_bind {next : σ → Action σ ε α} {start finish : σ} {value : α} :
    (get >>= next).Completes start value finish ↔ (next start).Completes start value finish := by
  simp [completes_bind, and_assoc]

@[simp] theorem completes_modify {change : σ → σ} {value : Unit} {start finish : σ} :
    (modify change : Action σ ε Unit).Completes start value finish ↔ change start = finish := by
  simp [Completes]

@[simp] theorem completes_emit {event : Event} {value : Unit} {start finish : σ} :
    (emit event : Action σ ε Unit).Completes start value finish ↔ start = finish := by
  simp [Completes]

@[simp] theorem completes_ofExcept {result : Except ε α} {value : α} {start finish : σ} :
    (ofExcept result).Completes start value finish ↔ result = .ok value ∧ start = finish := by
  simp [Completes]

theorem completes_ofExcept_bind {result : Except ε α} {next : α → Action σ ε β} {start finish : σ}
    {value : β} :
    (ofExcept result >>= next).Completes start value finish ↔
      ∃ given, result = .ok given ∧ (next given).Completes start value finish := by
  simp [completes_bind, and_assoc]

@[simp] theorem completes_onPart {part : σ → τ} {put : τ → σ → σ} {action : Action τ ε α} {value : α}
    {start finish : σ} :
    (onPart part put action).Completes start value finish ↔
      ∃ changed, action.Completes (part start) value changed ∧ put changed start = finish := by
  simp [Completes, and_assoc]

@[simp] theorem completes_building {seed result : τ} {action : Action τ ε Unit} {start finish : σ} :
    (building seed action).Completes start result finish ↔
      action.Completes seed () result ∧ start = finish := by
  simp only [Completes, run_building]
  rcases action.run seed with ⟨built, events, error | ⟨⟩⟩ <;> simp [Except.map]

theorem completes_forEach_nil {act : α → Action σ ε Unit} {start finish : σ} :
    (forEach [] act).Completes start () finish ↔ start = finish := by
  simp

theorem completes_forEach_cons {item : α} {items : List α} {act : α → Action σ ε Unit}
    {start finish : σ} :
    (forEach (item :: items) act).Completes start () finish ↔
      ∃ middle, (act item).Completes start () middle ∧
        (forEach items act).Completes middle () finish := by
  rw [forEach_cons, completes_then]

theorem Completes.forEach_keeps {items : List α} {act : α → Action σ ε Unit} (Holds : σ → Prop)
    (keeps : ∀ item ∈ items, ∀ before after, (act item).Completes before () after →
      Holds before → Holds after)
    {start finish : σ} (done : (forEach items act).Completes start () finish) (h : Holds start) :
    Holds finish := by
  induction items generalizing start with
  | nil => exact completes_forEach_nil.mp done ▸ h
  | cons item items ih =>
    obtain ⟨middle, first, rest⟩ := completes_forEach_cons.mp done
    refine ih (fun other member => keeps other (List.mem_cons_of_mem _ member)) rest ?_
    exact keeps item List.mem_cons_self start middle first h

end Action

end HotRod
