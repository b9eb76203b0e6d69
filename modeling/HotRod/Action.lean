import HotRod.Event
set_option autoImplicit false

/-!
# Actions

An action works on a state, reports events and ends with a result or an error. When it fails it keeps
what it had changed and reported before. Actions form a lawful monad, in which a failed action is not
continued.
-/

namespace HotRod

/-- What an action leaves behind. -/
structure Outcome (σ ε α : Type) where
  state : σ
  events : List Event
  result : Except ε α

/-- A computation on states that keeps its changes and its events when it fails. -/
def Action (σ ε α : Type) : Type := σ → Outcome σ ε α

namespace Action
variable {σ τ ε ε' α β : Type}

def run (action : Action σ ε α) (state : σ) : Outcome σ ε α := action state

def succeed (value : α) : Action σ ε α := fun state => ⟨state, [], .ok value⟩

def fail (error : ε) : Action σ ε α := fun state => ⟨state, [], .error error⟩

def andThen (first : Action σ ε α) (next : α → Action σ ε β) : Action σ ε β := fun state =>
  match first state with
  | ⟨middle, events, .error error⟩ => ⟨middle, events, .error error⟩
  | ⟨middle, events, .ok value⟩ =>
    let last := next value middle
    ⟨last.state, events ++ last.events, last.result⟩

instance : Monad (Action σ ε) where
  pure := succeed
  bind := andThen

@[simp] theorem run_pure (value : α) (state : σ) :
    (pure value : Action σ ε α).run state = ⟨state, [], .ok value⟩ := rfl

theorem run_bind (first : Action σ ε α) (next : α → Action σ ε β) (state : σ) :
    (first >>= next).run state =
      match first.run state with
      | ⟨middle, events, .error error⟩ => ⟨middle, events, .error error⟩
      | ⟨middle, events, .ok value⟩ =>
        ⟨((next value).run middle).state, events ++ ((next value).run middle).events,
          ((next value).run middle).result⟩ := rfl

theorem run_bind_of_ok {first : Action σ ε α} {next : α → Action σ ε β} {state middle : σ}
    {events : List Event} {value : α} (h : first.run state = ⟨middle, events, .ok value⟩) :
    (first >>= next).run state =
      ⟨((next value).run middle).state, events ++ ((next value).run middle).events,
        ((next value).run middle).result⟩ := by
  rw [run_bind, h]

theorem run_bind_of_error {first : Action σ ε α} {next : α → Action σ ε β} {state middle : σ}
    {events : List Event} {error : ε} (h : first.run state = ⟨middle, events, .error error⟩) :
    (first >>= next).run state = ⟨middle, events, .error error⟩ := by
  rw [run_bind, h]

instance : LawfulMonad (Action σ ε) := LawfulMonad.mk' (Action σ ε)
  (by
    intro α action
    funext state
    show andThen action succeed state = action state
    unfold andThen succeed
    rcases action state with ⟨middle, events, _ | _⟩ <;> simp)
  (by
    intro α β value next
    funext state
    show andThen (succeed value) next state = next value state
    simp [andThen, succeed])
  (by
    intro α β γ action next last
    funext state
    show andThen (andThen action next) last state = andThen action (fun x => andThen (next x) last) state
    unfold andThen
    rcases action state with ⟨middle, events, error | value⟩
    · rfl
    · simp only
      rcases next value middle with ⟨middle', events', error | value'⟩
      · rfl
      · simp [List.append_assoc])

def get : Action σ ε σ := fun state => ⟨state, [], .ok state⟩

def modify (change : σ → σ) : Action σ ε Unit := fun state => ⟨change state, [], .ok ()⟩

def emit (event : Event) : Action σ ε Unit := fun state => ⟨state, [event], .ok ()⟩

def ofExcept : Except ε α → Action σ ε α
  | .ok value => succeed value
  | .error error => fail error

def mapError (reword : ε → ε') (action : Action σ ε α) : Action σ ε' α := fun state =>
  let done := action state
  ⟨done.state, done.events, done.result.mapError reword⟩

/-- Go on with the result of an action, whether it succeeded or failed. -/
def attempt (action : Action σ ε α) : Action σ ε' (Except ε α) := fun state =>
  let done := action state
  ⟨done.state, done.events, .ok done.result⟩

def onPart (part : σ → τ) (put : τ → σ → σ) (action : Action τ ε α) : Action σ ε α := fun state =>
  let done := action (part state)
  ⟨put done.state state, done.events, done.result⟩

/-- Work on a state of its own, and end with that state. -/
def building (start : τ) (action : Action τ ε Unit) : Action σ ε τ := fun state =>
  let done := action start
  ⟨state, done.events, done.result.map fun _ => done.state⟩

/-- Work on a state of its own, which is given up afterwards. -/
def within (start : τ) (action : Action τ ε α) : Action σ ε α := fun state =>
  let done := action start
  ⟨state, done.events, done.result⟩

/-- Run an action for each member of a list, in order, up to the first failure. -/
def forEach (items : List α) (act : α → Action σ ε Unit) : Action σ ε Unit :=
  match items with
  | [] => succeed ()
  | item :: rest => andThen (act item) fun _ => forEach rest act

@[simp] theorem run_fail (error : ε) (state : σ) :
    (fail error : Action σ ε α).run state = ⟨state, [], .error error⟩ := rfl

@[simp] theorem run_get (state : σ) : (get : Action σ ε σ).run state = ⟨state, [], .ok state⟩ := rfl

@[simp] theorem run_modify (change : σ → σ) (state : σ) :
    (modify change : Action σ ε Unit).run state = ⟨change state, [], .ok ()⟩ := rfl

@[simp] theorem run_emit (event : Event) (state : σ) :
    (emit event : Action σ ε Unit).run state = ⟨state, [event], .ok ()⟩ := rfl

@[simp] theorem run_ofExcept (result : Except ε α) (state : σ) :
    (ofExcept result).run state = ⟨state, [], result⟩ := by
  cases result <;> rfl

@[simp] theorem run_mapError (reword : ε → ε') (action : Action σ ε α) (state : σ) :
    (mapError reword action).run state =
      ⟨(action.run state).state, (action.run state).events,
        (action.run state).result.mapError reword⟩ := rfl

@[simp] theorem run_attempt (action : Action σ ε α) (state : σ) :
    (attempt action : Action σ ε' (Except ε α)).run state =
      ⟨(action.run state).state, (action.run state).events, .ok (action.run state).result⟩ := rfl

@[simp] theorem run_onPart (part : σ → τ) (put : τ → σ → σ) (action : Action τ ε α) (state : σ) :
    (onPart part put action).run state =
      ⟨put (action.run (part state)).state state, (action.run (part state)).events,
        (action.run (part state)).result⟩ := rfl

@[simp] theorem run_building (start : τ) (action : Action τ ε Unit) (state : σ) :
    (building start action).run state =
      ⟨state, (action.run start).events,
        (action.run start).result.map fun _ => (action.run start).state⟩ := rfl

@[simp] theorem run_within (start : τ) (action : Action τ ε α) (state : σ) :
    (within start action).run state =
      ⟨state, (action.run start).events, (action.run start).result⟩ := rfl

@[simp] theorem forEach_nil (act : α → Action σ ε Unit) : forEach [] act = pure () := rfl

@[simp] theorem forEach_cons (item : α) (items : List α) (act : α → Action σ ε Unit) :
    forEach (item :: items) act = (act item >>= fun _ => forEach items act) := rfl

end Action

end HotRod
