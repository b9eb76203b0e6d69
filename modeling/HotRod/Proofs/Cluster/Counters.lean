import HotRod.Cluster.Counter
import HotRod.Proofs.Action
import HotRod.Proofs.KeyMap
set_option autoImplicit false

/-!
# Requests to counters

A request to counters is refused, reads, or writes the one entry of its name. Its bounds are checked
before it writes, so that no counter comes to be outside of them, and a definition that is there is
kept until its counter is removed.
-/

namespace HotRod

open HotRod.Action

/-- What is asked of counters, by the type of its answer. -/
inductive CounterRequest : Type → Type
  | define (name : String) (definition : CounterDefinition) : CounterRequest Bool
  | isDefined (name : String) : CounterRequest Bool
  | definition (name : String) : CounterRequest (Option CounterDefinition)
  | add (name : String) (delta : Int64) : CounterRequest Int64
  | value (name : String) : CounterRequest Int64
  | reset (name : String) : CounterRequest Unit
  | remove (name : String) : CounterRequest Unit
  | names : CounterRequest (List String)

def RemoteError.OfCounter : RemoteError → Prop
  | .undefinedCounter _ => True
  | .counterOutOfBounds _ _ _ => True
  | _ => False

/-- A counter within its bounds, if it has any, which also hold where it starts. -/
def Counter.Sound (counter : Counter) : Prop :=
  ∀ bounds, counter.definition.bounds = some bounds →
    bounds.Contains counter.definition.initial ∧ bounds.Contains counter.value

theorem checkBounds_eq_ok_iff {name : String} {bounds? : Option Bounds} {value : Int64} :
    checkBounds name bounds? value = .ok () ↔
      ∀ bounds, bounds? = some bounds → bounds.Contains value := by
  cases bounds? with
  | none => simp [checkBounds]
  | some bounds => by_cases inside : bounds.Contains value <;> simp [checkBounds, inside]

theorem ofCounter_of_checkBounds {name : String} {bounds? : Option Bounds} {value : Int64}
    {error : RemoteError} (refused : checkBounds name bounds? value = .error error) :
    error.OfCounter := by
  unfold checkBounds at refused
  cases bounds? with
  | none => contradiction
  | some bounds =>
    by_cases inside : bounds.Contains value
    · simp [inside] at refused
    · simp only [if_neg inside, Except.error.injEq] at refused
      subst refused
      trivial

/-- A sum is exact, or else the end of the range that it lies beyond. -/
theorem toInt_saturatingAdd (left right : Int64) :
    (saturatingAdd left right).toInt =
      max Int64.minValue.toInt (min (left.toInt + right.toInt) Int64.maxValue.toInt) := by
  have lowest : Int64.minValue.toInt = -2 ^ 63 := by decide
  have highest : Int64.maxValue.toInt = 2 ^ 63 - 1 := by decide
  unfold saturatingAdd
  simp only
  split
  · omega
  · split
    · omega
    · rw [Int64.toInt_ofInt_of_le (by omega) (by omega)]
      omega

namespace Counters
variable {counters : Counters} {name : String}

theorem find_of_some {counter : Counter} (there : counters[name]? = some counter) :
    find counters name = .ok counter := by
  rw [find, there]

theorem find_of_none (missing : counters[name]? = none) :
    find counters name = .error (.undefinedCounter name) := by
  rw [find, missing]

theorem run_reset (name : String) (counters : Counters) :
    (reset name).run counters =
      match counters[name]? with
      | some counter =>
        ⟨counters.insert name { counter with value := counter.definition.initial }, [], .ok ()⟩
      | none => ⟨counters, [], .error (.undefinedCounter name)⟩ := by
  rw [reset, run_bind_of_ok (run_get counters)]
  cases there : counters[name]? with
  | some counter =>
    rw [find_of_some there]
    rfl
  | none =>
    rw [find_of_none there]
    rfl

theorem run_add (name : String) (delta : Int64) (counters : Counters) :
    (add name delta).run counters =
      match counters[name]? with
      | some counter =>
        let sum := saturatingAdd counter.value delta
        match checkBounds name counter.definition.bounds sum with
        | .ok _ => ⟨counters.insert name { counter with value := sum }, [], .ok sum⟩
        | .error error => ⟨counters, [], .error error⟩
      | none => ⟨counters, [], .error (.undefinedCounter name)⟩ := by
  rw [add, run_bind_of_ok (run_get counters)]
  cases there : counters[name]? with
  | none =>
    rw [find_of_none there]
    rfl
  | some counter =>
    have found : (ofExcept (.ok counter) : Action Counters RemoteError Counter).run counters =
        ⟨counters, [], .ok counter⟩ := rfl
    rw [find_of_some there, run_bind_of_ok found]
    simp only
    cases checkBounds name counter.definition.bounds (saturatingAdd counter.value delta) <;> rfl

/-- A sum that is given is the exact one, cut off at the ends of the range, and is kept. -/
theorem sum_of_add {delta sum : Int64} (given : ((add name delta).run counters).result = .ok sum) :
    ∃ counter, counters[name]? = some counter ∧
      sum.toInt = max Int64.minValue.toInt
        (min (counter.value.toInt + delta.toInt) Int64.maxValue.toInt) ∧
      ((add name delta).run counters).state[name]? = some { counter with value := sum } := by
  rw [run_add] at given ⊢
  cases there : counters[name]? with
  | none =>
    rw [there] at given
    contradiction
  | some counter =>
    simp only [there] at given ⊢
    cases checked : checkBounds name counter.definition.bounds (saturatingAdd counter.value delta) with
    | error error =>
      rw [checked] at given
      contradiction
    | ok _ =>
      rw [checked] at given
      obtain rfl := Except.ok.inj given
      exact ⟨counter, rfl, toInt_saturatingAdd _ _, Std.ExtTreeMap.getElem?_insert_self⟩

end Counters

namespace CounterRequest
variable {α : Type}

def action : CounterRequest α → Action Counters RemoteError α
  | define name meaning => Counters.define name meaning
  | isDefined name => Counters.isDefined name
  | definition name => Counters.definition name
  | add name delta => Counters.add name delta
  | value name => Counters.value name
  | reset name => Counters.reset name
  | remove name => Counters.remove name
  | names => Counters.names

def name? : CounterRequest α → Option String
  | define name _ => some name
  | isDefined name => some name
  | definition name => some name
  | add name _ => some name
  | value name => some name
  | reset name => some name
  | remove name => some name
  | names => none

/-- The answers that say that nothing was done: an error, and that a name is taken. -/
def Declined : CounterRequest α → Except RemoteError α → Prop
  | define _ _, .ok defined => defined = false
  | _, .error _ => True
  | _, .ok _ => False

/-- The definition that a counter has after a request that was answered, from the one it had before.
The first one counts until the counter is removed. -/
def settles (name : String) (standing : Option CounterDefinition) :
    CounterRequest α → Except RemoteError α → Option CounterDefinition
  | define other meaning, .ok true =>
    if other = name then standing.or (some meaning) else standing
  | remove other, .ok _ => if other = name then none else standing
  | _, _ => standing

theorem settles_define (name other : String) (meaning : CounterDefinition)
    (standing : Option CounterDefinition) :
    (define other meaning).settles name standing (.ok true) =
      if other = name then standing.or (some meaning) else standing := rfl

theorem settles_remove (name other : String) (standing : Option CounterDefinition) :
    (remove other).settles name standing (.ok ()) = if other = name then none else standing := rfl

/-- What a request to counters may answer and leave. -/
inductive Leaves (counters : Counters) :
    {α : Type} → CounterRequest α → Except RemoteError α → Counters → Prop
  | refused {α : Type} {request : CounterRequest α} {error : RemoteError} : error.OfCounter →
      Leaves counters request (.error error) counters
  | defined {name : String} {meaning : CounterDefinition} : counters[name]? = none →
      Counter.Sound ⟨meaning, meaning.initial⟩ →
      Leaves counters (define name meaning) (.ok true)
        (counters.insert name ⟨meaning, meaning.initial⟩)
  | taken {name : String} {meaning : CounterDefinition} : name ∈ counters →
      Leaves counters (define name meaning) (.ok false) counters
  | added {name : String} {delta : Int64} {counter : Counter} : counters[name]? = some counter →
      (∀ bounds, counter.definition.bounds = some bounds →
        bounds.Contains (saturatingAdd counter.value delta)) →
      Leaves counters (add name delta) (.ok (saturatingAdd counter.value delta))
        (counters.insert name { counter with value := saturatingAdd counter.value delta })
  | reset {name : String} {counter : Counter} : counters[name]? = some counter →
      Leaves counters (reset name) (.ok ())
        (counters.insert name { counter with value := counter.definition.initial })
  | removed {name : String} : Leaves counters (remove name) (.ok ()) (counters.erase name)
  | defines {name : String} : Leaves counters (isDefined name) (.ok (counters.contains name)) counters
  | shown {name : String} :
      Leaves counters (definition name) (.ok (counters[name]?.map Counter.definition)) counters
  | read {name : String} {counter : Counter} : counters[name]? = some counter →
      Leaves counters (value name) (.ok counter.value) counters
  | listed : Leaves counters names (.ok counters.keys) counters

theorem leaves_define (name : String) (meaning : CounterDefinition) (counters : Counters) :
    (define name meaning).Leaves counters ((Counters.define name meaning).run counters).result
      ((Counters.define name meaning).run counters).state := by
  unfold Counters.define
  cases checked : checkBounds name meaning.bounds meaning.initial with
  | error error => exact .refused (ofCounter_of_checkBounds checked)
  | ok _ =>
    have inside := checkBounds_eq_ok_iff.mp checked
    have checked' : (ofExcept (.ok ()) : Action Counters RemoteError Unit).run counters =
        ⟨counters, [], .ok ()⟩ := rfl
    rw [run_bind_of_ok checked', run_bind_of_ok (run_get counters)]
    by_cases there : counters.contains name = true
    · rw [if_pos there]
      exact .taken (Std.ExtTreeMap.mem_iff_contains.mpr there)
    · rw [if_neg there]
      apply Leaves.defined
      · exact Std.ExtTreeMap.getElem?_eq_none fun member =>
          there (Std.ExtTreeMap.mem_iff_contains.mp member)
      · intro bounds bounded
        exact ⟨inside bounds bounded, inside bounds bounded⟩

theorem leaves_add (name : String) (delta : Int64) (counters : Counters) :
    (add name delta).Leaves counters ((Counters.add name delta).run counters).result
      ((Counters.add name delta).run counters).state := by
  rw [Counters.run_add]
  cases there : counters[name]? with
  | none => exact .refused trivial
  | some counter =>
    simp only
    cases checked : checkBounds name counter.definition.bounds (saturatingAdd counter.value delta) with
    | error error => exact .refused (ofCounter_of_checkBounds checked)
    | ok _ => exact .added there (checkBounds_eq_ok_iff.mp checked)

theorem leaves (request : CounterRequest α) (counters : Counters) :
    request.Leaves counters (request.action.run counters).result (request.action.run counters).state := by
  cases request with
  | define name meaning => exact leaves_define name meaning counters
  | isDefined name => exact .defines
  | definition name => exact .shown
  | add name delta => exact leaves_add name delta counters
  | value name =>
    rw [action, Counters.value, run_bind_of_ok (run_get counters)]
    cases there : counters[name]? with
    | none =>
      rw [Counters.find_of_none there]
      exact .refused trivial
    | some counter =>
      rw [Counters.find_of_some there]
      exact .read there
  | reset name =>
    rw [action, Counters.run_reset]
    cases there : counters[name]? with
    | none => exact .refused trivial
    | some counter => exact .reset there
  | remove name => exact .removed
  | names => exact .listed

namespace Leaves
variable {counters left : Counters} {request : CounterRequest α} {answer : Except RemoteError α}

theorem eq_of_declined (leaves : request.Leaves counters answer left)
    (declined : request.Declined answer) : left = counters := by
  cases leaves with
  | defined => simp [Declined] at declined
  | added => exact declined.elim
  | reset => exact declined.elim
  | removed => exact declined.elim
  | _ => rfl

theorem ofCounter (leaves : request.Leaves counters answer left) {error : RemoteError}
    (refused : answer = .error error) : error.OfCounter := by
  cases leaves with
  | refused named =>
    cases refused
    exact named
  | _ => contradiction

theorem getElem?_of_ne (leaves : request.Leaves counters answer left) {other : String}
    (apart : request.name? ≠ some other) : left[other]? = counters[other]? := by
  have kept {name : String} (counter : Counter) (apart : some name ≠ some other) :
      (counters.insert name counter)[other]? = counters[other]? := by
    rw [KeyMap.getElem?_insert, if_neg fun same => apart (congrArg some same)]
  cases leaves with
  | defined => exact kept _ apart
  | added => exact kept _ apart
  | reset => exact kept _ apart
  | @removed name =>
    rw [Std.ExtTreeMap.getElem?_erase]
    have different : name ≠ other := fun same => apart (congrArg some same)
    simp [different]
  | _ => rfl

/-- What is written is within bounds if all was before. -/
theorem sound (leaves : request.Leaves counters answer left)
    (before : ∀ (name : String) (counter : Counter), counters[name]? = some counter → counter.Sound)
    (name : String) (counter : Counter) (after : left[name]? = some counter) : counter.Sound := by
  have written {key : String} {entry : Counter} (sound : entry.Sound)
      (after : (counters.insert key entry)[name]? = some counter) : counter.Sound := by
    rw [KeyMap.getElem?_insert] at after
    by_cases same : key = name
    · rw [if_pos same] at after
      obtain rfl := Option.some.inj after
      exact sound
    · rw [if_neg same] at after
      exact before name counter after
  cases leaves with
  | defined _ sound => exact written sound after
  | @added key delta entry there inside =>
    refine written ?_ after
    intro bounds bounded
    exact ⟨(before key entry there bounds bounded).1, inside bounds bounded⟩
  | @reset key entry there =>
    refine written ?_ after
    intro bounds bounded
    exact ⟨(before key entry there bounds bounded).1, (before key entry there bounds bounded).1⟩
  | removed =>
    rw [Std.ExtTreeMap.getElem?_erase] at after
    split at after
    · contradiction
    · exact before name counter after
  | _ => exact before name counter after

/-- The definition of a counter is settled by the answers. -/
theorem definition_eq (leaves : request.Leaves counters answer left) (name : String) :
    left[name]?.map Counter.definition =
      request.settles name (counters[name]?.map Counter.definition) answer := by
  have same {key : String} {entry written : Counter} (there : counters[key]? = some entry)
      (kept : written.definition = entry.definition) :
      (counters.insert key written)[name]?.map Counter.definition =
        counters[name]?.map Counter.definition := by
    rw [KeyMap.getElem?_insert]
    by_cases equal : key = name
    · subst equal
      rw [if_pos rfl, there, Option.map_some, Option.map_some, kept]
    · rw [if_neg equal]
  cases leaves with
  | refused => cases request <;> rfl
  | @defined key meaning missing _ =>
    rw [KeyMap.getElem?_insert, settles_define]
    by_cases equal : key = name
    · subst equal
      rw [if_pos rfl, if_pos rfl, missing, Option.map_none, Option.none_or, Option.map_some]
    · rw [if_neg equal, if_neg equal]
  | added there _ => exact same there rfl
  | reset there => exact same there rfl
  | @removed key =>
    rw [settles_remove, Std.ExtTreeMap.getElem?_erase]
    by_cases equal : key = name
    · simp [equal]
    · simp [equal]
  | _ => rfl

end Leaves

end CounterRequest

end HotRod
