import HotRod.Proofs.Action.Alike
import HotRod.Proofs.KeyMap
import HotRod.Proofs.Registry.Calls
set_option autoImplicit false

/-!
# Calls that are not interrupted

The steps of a lookup do what a lookup does as a whole. When no other call holds the lock of its
client, a lookup can take all its steps at once, and then it leaves and returns the same.
-/

namespace HotRod

open HotRod.Action

namespace Host

theorem run_ensureOpen {host : Host} (opened : host.registry.isClosed = false) :
    ensureOpen.run host = ⟨host, [], .ok ()⟩ := by
  simp [ensureOpen, run_bind, opened]

theorem run_ensureOpen_of_isClosed {host : Host} (closed : host.registry.isClosed = true) :
    ensureOpen.run host = ⟨host, [], .error .registryClosed⟩ := by
  simp [ensureOpen, run_bind, closed]

end Host

namespace Interleaving

namespace Rest

def discard (id : ManagerId) (error : ClientError) : Action Host ClientError (Option ManagerId) := do
  Host.onNetwork (Network.stop id)
  Action.fail error

def insert (client : String) (id : ManagerId) : Action Host ClientError (Option ManagerId) := do
  Host.modifyRegistry (Registry.insert client id)
  return some id

def confirm (client : String) (id : ManagerId) : Action Host ClientError (Option ManagerId) := do
  if (← Action.get).registry.isClosed then discard id .registryClosed else insert client id

def push (client : String) (id : ManagerId) (schemaFiles : List (String × String)) :
    Action Host ClientError (Option ManagerId) := do
  match ← Action.attempt (Host.onNetwork (Network.pushSchemas id schemaFiles)) with
  | .ok _ => confirm client id
  | .error error => discard id error

def connect (client : String) (plan : Plan) : Action Host ClientError (Option ManagerId) := do
  let id ← (Host.connect plan.configuration).mapError ClientError.remote
  if (← Action.get).registry.settings.runtime.registersSchemas then push client id plan.schemaFiles
  else confirm client id

def prepare (files : Files) (client : String) : Action Host ClientError (Option ManagerId) := do
  match ← Host.prepare files client with
  | none => return none
  | some plan => connect client plan

def relook (files : Files) (client : String) : Action Host ClientError (Option ManagerId) := do
  match (← Action.get).registry.live[client]? with
  | some id => return some id
  | none => prepare files client

def recheck (files : Files) (client : String) : Action Host ClientError (Option ManagerId) := do
  Host.ensureOpen
  relook files client

def look (files : Files) (client : String) : Action Host ClientError (Option ManagerId) := do
  match (← Action.get).registry.live[client]? with
  | some id => return some id
  | none => recheck files client

def lookup (files : Files) (client : String) : Action Host ClientError (Option ManagerId) := do
  Host.ensureOpen
  look files client

theorem alike_register (client : String) (id : ManagerId) :
    (Host.register client id >>= fun _ => pure (some id)).Alike (confirm client id) := by
  unfold Host.register confirm
  rw [bind_assoc]
  refine (Alike.refl _).bind fun host => ?_
  by_cases closed : host.registry.isClosed = true
  · rw [if_pos closed, if_pos closed, bind_assoc]
    refine (Alike.refl _).bind fun _ state => ?_
    exact same_bind_of_error rfl
  · rw [if_neg closed, if_neg closed]
    exact .refl _

theorem alike_launch (client : String) (assembly : Assembly) :
    (Host.launch Host.connect client assembly >>= fun id =>
      Host.register client id >>= fun _ => pure (some id)).Alike
    (Action.ofExcept assembly.draft.build >>= fun configuration =>
      connect client ⟨configuration, assembly.schemaFiles⟩) := by
  unfold Host.launch connect
  simp only [bind_assoc]
  refine (Alike.refl _).bind fun configuration => (Alike.refl _).bind fun id => ?_
  refine (Alike.emit _ _).trans ((Alike.refl _).bind fun host => ?_)
  by_cases registers : host.registry.settings.runtime.registersSchemas = true
  · simp only [if_pos registers, Host.pushSchemas, push, bind_assoc]
    refine (Alike.refl _).bind fun pushed => ?_
    cases pushed with
    | ok _ =>
      simp only [pure_bind]
      exact alike_register client id
    | error error =>
      simp only [bind_assoc]
      refine (Alike.emit _ _).trans ((Alike.refl _).bind fun _ state => ?_)
      exact same_bind_of_error rfl
  · simp only [if_neg registers, pure_bind]
    exact alike_register client id

theorem alike_buildManager (files : Files) (client : String) :
    (Host.buildManager Host.connect files client >>= fun id? =>
      match id? with
      | none => pure none
      | some id => Host.register client id >>= fun _ => pure (some id)).Alike
    (prepare files client) := by
  unfold Host.buildManager prepare Host.prepare
  simp only [bind_assoc]
  refine (Alike.emit _ _).trans ((Alike.refl _).bind fun host => ?_)
  cases host.registry.settings.usableDefinition? client with
  | none =>
    simp only [bind_assoc, pure_bind]
    exact Alike.emit _ _
  | some definition =>
    simp only [bind_assoc]
    refine (Alike.refl _).bind fun assembly => ?_
    by_cases none : assembly.draft.servers.isEmpty = true
    · simp only [if_pos none, bind_assoc, pure_bind]
      exact Alike.emit _ _
    · simp only [if_neg none, bind_assoc, pure_bind]
      exact alike_launch client assembly

theorem alike_manager (files : Files) (name : String) :
    (Host.manager files name).Alike (lookup files (canonicalName name)) := by
  intro host
  unfold Host.manager Host.managerVia lookup
  by_cases closed : host.registry.isClosed = true
  · have refused := Host.run_ensureOpen_of_isClosed closed
    rw [run_bind_of_error refused, run_bind_of_error refused]
    exact .refl _
  · have entered := Host.run_ensureOpen (Bool.not_eq_true _ ▸ closed)
    rw [run_bind_of_ok entered, run_bind_of_ok entered, look, run_bind_of_ok (run_get host),
      run_bind_of_ok (run_get host)]
    cases found : host.registry.live[canonicalName name]? with
    | some id => exact .refl _
    | none =>
      have again : (recheck files (canonicalName name)).run host =
          (prepare files (canonicalName name)).run host := by
        rw [recheck, run_bind_of_ok entered, relook, run_bind_of_ok (run_get host)]
        simp [found]
      refine .trans ?_ ((alike_buildManager files (canonicalName name) host).trans ?_)
      · exact ⟨rfl, rfl⟩
      · simp [again, Outcome.Same]

end Rest

abbrev CallSteps (caller : Nat) : Shared × Call → Shared × Call → Prop :=
  Relation.ReflTransGen fun before after => CallStep caller before.1 before.2 after.1 after.2

theorem CallSteps.head {caller : Nat} {s s' : Shared} {call call' : Call} {last : Shared × Call}
    (step : CallStep caller s call s' call') (steps : CallSteps caller (s', call') last) :
    CallSteps caller (s, call) last :=
  Relation.ReflTransGen.head step steps

namespace LookupPhase

def rest (files : Files) (client : String) : LookupPhase → Action Host ClientError (Option ManagerId)
  | arriving => Rest.lookup files client
  | looking => Rest.look files client
  | fetching | waiting | rechecking => Rest.recheck files client
  | relooking => Rest.relook files client
  | preparing => Rest.prepare files client
  | connecting plan => Rest.connect client plan
  | pushing id schemaFiles => Rest.push client id schemaFiles
  | discarding id error => Rest.discard id error
  | confirming id => Rest.confirm client id
  | inserting id => Rest.insert client id
  | releasing answer | returned answer => Action.ofExcept answer

def rank : LookupPhase → Nat
  | arriving => 12
  | looking => 11
  | fetching => 10
  | waiting => 9
  | rechecking => 8
  | relooking => 7
  | preparing => 6
  | connecting _ => 5
  | pushing _ _ => 4
  | confirming _ => 3
  | discarding _ _ | inserting _ => 2
  | releasing _ => 1
  | returned _ => 0

/-- A lookup takes a step that does some of what it has to do, and is kept waiting no more than before. -/
def Advances (files : Files) (caller : Nat) (client : String) (s : Shared) (phase : LookupPhase) :
    Prop :=
  ∃ s' phase', LookupStep caller client s phase s' phase' ∧
    (phase'.Holds ∨ s'.holders[client]? = none) ∧
    ((phase.rest files client).run s.host).Same ((phase'.rest files client).run s'.host) ∧
    phase'.rank < phase.rank

section Advance
variable {files : Files} {caller : Nat} {client : String} {s : Shared}

theorem advances_arriving (free : s.holders[client]? = none) :
    Advances files caller client s .arriving := by
  by_cases closed : s.isClosed = true
  · refine ⟨_, _, .refuse closed, .inr free, ?_, by simp [rank]⟩
    rw [rest, Rest.lookup, run_bind_of_error (Host.run_ensureOpen_of_isClosed closed)]
    exact ⟨rfl, rfl⟩
  · have opened : s.isClosed = false := Bool.not_eq_true _ ▸ closed
    refine ⟨_, _, .enter opened, .inr free, ?_, by simp [rank]⟩
    rw [rest, Rest.lookup, run_bind_of_ok (Host.run_ensureOpen opened)]
    exact ⟨rfl, rfl⟩

theorem advances_looking (free : s.holders[client]? = none) :
    Advances files caller client s .looking := by
  cases found : s.live[client]? with
  | some id =>
    refine ⟨_, _, .find found, .inr free, ?_, by simp [rank]⟩
    rw [rest, Rest.look, run_bind_of_ok (run_get _), found]
    exact ⟨rfl, rfl⟩
  | none =>
    refine ⟨_, _, .miss found, .inr free, ?_, by simp [rank]⟩
    rw [rest, Rest.look, run_bind_of_ok (run_get _), found]
    exact ⟨rfl, rfl⟩

theorem advances_rechecking : Advances files caller client s .rechecking := by
  by_cases closed : s.isClosed = true
  · refine ⟨_, _, .rerefuse closed, .inl trivial, ?_, by simp [rank]⟩
    rw [rest, Rest.recheck, run_bind_of_error (Host.run_ensureOpen_of_isClosed closed)]
    exact ⟨rfl, rfl⟩
  · have opened : s.isClosed = false := Bool.not_eq_true _ ▸ closed
    refine ⟨_, _, .reenter opened, .inl trivial, ?_, by simp [rank]⟩
    rw [rest, Rest.recheck, run_bind_of_ok (Host.run_ensureOpen opened)]
    exact ⟨rfl, rfl⟩

theorem advances_relooking : Advances files caller client s .relooking := by
  cases found : s.live[client]? with
  | some id =>
    refine ⟨_, _, .refind found, .inl trivial, ?_, by simp [rank]⟩
    rw [rest, Rest.relook, run_bind_of_ok (run_get _), found]
    exact ⟨rfl, rfl⟩
  | none =>
    refine ⟨_, _, .remiss found, .inl trivial, ?_, by simp [rank]⟩
    rw [rest, Rest.relook, run_bind_of_ok (run_get _), found]
    exact ⟨rfl, rfl⟩

theorem advances_preparing : Advances files caller client s .preparing := by
  cases done : ((Host.prepare files client).run s.host).result with
  | error error =>
    exact ⟨_, _, .fail done, .inl trivial, same_bind_of_error done, by simp [rank]⟩
  | ok plan? =>
    cases plan? with
    | none => exact ⟨_, _, .skip done, .inl trivial, same_bind_of_ok done, by simp [rank]⟩
    | some plan => exact ⟨_, _, .prepare done, .inl trivial, same_bind_of_ok done, by simp [rank]⟩

theorem advances_connecting (plan : Plan) : Advances files caller client s (.connecting plan) := by
  cases done : ((Host.connect plan.configuration).run s.host).result with
  | error error =>
    refine ⟨_, _, .lose done, .inl trivial, same_bind_of_error ?_, by simp [rank]⟩
    rw [run_mapError, done]
    rfl
  | ok id =>
    have given : ((mapError ClientError.remote (Host.connect plan.configuration)).run
        s.host).result = .ok id := by
      rw [run_mapError, done]
      rfl
    refine ⟨_, _, .connect done, ?_, (same_bind_of_ok given).trans ?_, ?_⟩
    · unfold Shared.afterConnect
      split <;> exact .inl trivial
    · have kept : ((mapError ClientError.remote (Host.connect plan.configuration)).run
          s.host).state.registry = s.host.registry := rfl
      rw [run_bind_of_ok (run_get _), kept, Shared.afterConnect]
      by_cases registers : s.host.registry.settings.runtime.registersSchemas = true
      · rw [if_pos registers, if_pos registers]
        exact ⟨rfl, rfl⟩
      · rw [if_neg registers, if_neg registers]
        exact ⟨rfl, rfl⟩
    · unfold Shared.afterConnect
      split <;> simp [rank]

theorem advances_pushing (id : ManagerId) (schemaFiles : List (String × String)) :
    Advances files caller client s (.pushing id schemaFiles) := by
  cases done : ((Network.pushSchemas id schemaFiles).run s.network).result with
  | error error =>
    have ran : ((attempt (Host.onNetwork (Network.pushSchemas id schemaFiles)) :
        Action Host ClientError _).run s.host).result = .ok (.error error) :=
      congrArg Except.ok done
    exact ⟨_, _, .reject done, .inl trivial, same_bind_of_ok ran, by simp [rank]⟩
  | ok pushed =>
    have ran : ((attempt (Host.onNetwork (Network.pushSchemas id schemaFiles)) :
        Action Host ClientError _).run s.host).result = .ok (.ok pushed) :=
      congrArg Except.ok done
    exact ⟨_, _, .push done, .inl trivial, same_bind_of_ok ran, by simp [rank]⟩

theorem advances_discarding (id : ManagerId) (error : ClientError) :
    Advances files caller client s (.discarding id error) := by
  have ran : ((Host.onNetwork (Network.stop id) : Action Host ClientError Unit).run
      s.host).result = .ok () := Network.result_stop _ _
  exact ⟨_, _, .discard, .inl trivial, same_bind_of_ok ran, by simp [rank]⟩

theorem advances_confirming (id : ManagerId) : Advances files caller client s (.confirming id) := by
  by_cases closed : s.isClosed = true
  · refine ⟨_, _, .renounce closed, .inl trivial, ?_, by simp [rank]⟩
    change ((Rest.confirm client id).run s.host).Same ((Rest.discard id .registryClosed).run s.host)
    rw [Rest.confirm, run_bind_of_ok (run_get _), if_pos closed]
    exact ⟨rfl, rfl⟩
  · have opened : s.isClosed = false := Bool.not_eq_true _ ▸ closed
    refine ⟨_, _, .confirm opened, .inl trivial, ?_, by simp [rank]⟩
    change ((Rest.confirm client id).run s.host).Same ((Rest.insert client id).run s.host)
    rw [Rest.confirm, run_bind_of_ok (run_get _), if_neg closed]
    exact ⟨rfl, rfl⟩

/-- Whatever its phase, a lookup that no other call keeps waiting advances until it returns. -/
theorem advance (files : Files) (caller : Nat) {phase : LookupPhase}
    (free : phase.Holds ∨ s.holders[client]? = none)
    (unfinished : ∀ answer, phase ≠ .returned answer) : Advances files caller client s phase := by
  cases phase with
  | arriving => exact advances_arriving (free.resolve_left False.elim)
  | looking => exact advances_looking (free.resolve_left False.elim)
  | fetching => exact ⟨_, _, .fetch, .inr (free.resolve_left False.elim), .refl _, by simp [rank]⟩
  | waiting =>
    exact ⟨_, _, .take (free.resolve_left False.elim), .inl trivial, .refl _, by simp [rank]⟩
  | rechecking => exact advances_rechecking
  | relooking => exact advances_relooking
  | preparing => exact advances_preparing
  | connecting plan => exact advances_connecting plan
  | pushing id schemaFiles => exact advances_pushing id schemaFiles
  | discarding id error => exact advances_discarding id error
  | confirming id => exact advances_confirming id
  | inserting id => exact ⟨_, _, .insert, .inl trivial, same_bind_of_ok rfl, by simp [rank]⟩
  | releasing answer =>
    refine ⟨_, _, .release, .inr ?_, .refl _, Nat.zero_lt_one⟩
    exact Std.ExtTreeMap.getElem?_erase_self
  | returned answer => exact absurd rfl (unfinished answer)

end Advance

theorem getElem?_holders_of_ne {caller : Nat} {client other : String} {s s' : Shared}
    {phase phase' : LookupPhase} (step : LookupStep caller client s phase s' phase')
    (apart : client ≠ other) : s'.holders[other]? = s.holders[other]? := by
  cases step with
  | take _ =>
    change (s.holders.insert client caller)[other]? = s.holders[other]?
    rw [KeyMap.getElem?_insert, if_neg apart]
  | release =>
    change (s.holders.erase client)[other]? = s.holders[other]?
    simp [Std.ExtTreeMap.getElem?_erase, apart]
  | _ => rfl

theorem completes (files : Files) (caller : Nat) {client : String} {s : Shared} (phase : LookupPhase)
    (free : phase.Holds ∨ s.holders[client]? = none) :
    ∃ s' answer, CallSteps caller (s, .lookup client phase) (s', .lookup client (.returned answer)) ∧
      s'.holders[client]? = none ∧
      (∀ other, client ≠ other → s'.holders[other]? = s.holders[other]?) ∧
      ((phase.rest files client).run s.host).Same ⟨s'.host, [], answer⟩ := by
  by_cases finished : ∃ answer, phase = .returned answer
  · obtain ⟨answer, rfl⟩ := finished
    exact ⟨s, answer, .refl, free.resolve_left False.elim, fun _ _ => rfl,
      by simp [rest, Outcome.Same]⟩
  · obtain ⟨next, phase', step, free', same, less⟩ :=
      advance files caller free fun answer done => finished ⟨answer, done⟩
    obtain ⟨s', answer, steps, released, others, same'⟩ := completes files caller phase' free'
    refine ⟨s', answer, .head (.lookup client step) steps, released, ?_, same.trans same'⟩
    intro other apart
    rw [others other apart, getElem?_holders_of_ne step apart]
termination_by phase.rank

end LookupPhase

theorem Steps.of_call {caller : Nat} {calls : List Call} {before after : Shared × Call}
    (present : calls[caller]? = some before.2) (steps : CallSteps caller before after) :
    Steps ⟨before.1, calls⟩ ⟨after.1, calls.set caller after.2⟩ := by
  have length := (List.getElem?_eq_some_iff.mp present).1
  induction steps with
  | refl =>
    rw [← (List.getElem?_eq_some_iff.mp present).2, List.set_getElem_self]
  | @tail middle last steps step ih =>
    have next : Step ⟨middle.1, calls.set caller middle.2⟩
        ⟨last.1, (calls.set caller middle.2).set caller last.2⟩ :=
      .call (List.getElem?_set_self length) step
    rw [List.set_set] at next
    exact ih.tail next

theorem Steps.of_arrived {s : Shared} {calls : List Call} {call : Call} {after : Shared × Call}
    (arrived : Step ⟨s, calls⟩ ⟨s, calls ++ [call]⟩) (steps : CallSteps calls.length (s, call) after) :
    Steps ⟨s, calls⟩ ⟨after.1, calls ++ [after.2]⟩ := by
  have run := Steps.of_call List.getElem?_concat_length steps
  rw [List.set_append_right _ _ (Nat.le_refl _), Nat.sub_self] at run
  exact .head arrived run

/-- A lookup whose lock is free can return before any other call takes a step. Then it leaves and
returns what it does as a whole. -/
theorem lookup_alone (files : Files) (name : String) {s : Shared} (calls : List Call)
    (free : s.holders[canonicalName name]? = none) :
    ∃ s', Steps ⟨s, calls⟩
        ⟨s', calls ++ [.lookup (canonicalName name)
          (.returned ((Host.manager files name).run s.host).result)]⟩ ∧
      s'.host = ((Host.manager files name).run s.host).state ∧
      ∀ client : String, s'.holders[client]? = s.holders[client]? := by
  obtain ⟨s', answer, steps, released, others, same⟩ :=
    LookupPhase.completes files calls.length .arriving (.inr free)
  obtain ⟨left, given⟩ := (Rest.alike_manager files name s.host).trans same
  refine ⟨s', ?_, left.symm, fun client => ?_⟩
  · rw [given]
    exact Steps.of_arrived (.lookup name) steps
  · by_cases same : canonicalName name = client
    · rw [← same, released, free]
    · exact others client same

namespace ShutdownPhase
variable {s : Shared}

/-- Free locks are passed one after the other. -/
theorem drains (caller : Nat) (free : ∀ name : String, s.holders[name]? = none) (names : List String) :
    ∃ s', CallSteps caller (s, .shutdown (.draining names)) (s', .shutdown (.draining [])) ∧
      s'.host = s.host ∧
      ∀ name : String, s'.holders[name]? = none := by
  induction names generalizing s with
  | nil => exact ⟨s, .refl, rfl, free⟩
  | cons name names ih =>
    have passed : ∀ other : String, ((s.take name caller).release name).holders[other]? = none := by
      intro other
      change ((s.holders.insert name caller).erase name)[other]? = none
      rw [Std.ExtTreeMap.getElem?_erase]
      by_cases same : name = other
      · simp [same]
      · simp [KeyMap.getElem?_insert, same, free]
    obtain ⟨s', steps, host, free'⟩ := ih passed
    refine ⟨s', ?_, host, free'⟩
    exact .head (.shutdown (.take name (free name))) (.head (.shutdown (.release name)) steps)

theorem run_retire (client : String) (id : ManagerId) (host : Host) :
    ((Host.retire client id : Action Host ClientError Unit).run host).Same
      ((Host.onNetwork (Network.stop id) : Action Host ClientError Unit).run
        ((Host.modifyRegistry (Registry.erase client) : Action Host ClientError Unit).run
          host).state) := by
  have stopped : ∀ host, ((Host.onNetwork (Network.stop id) : Action Host ClientError Unit).run
      host).result = .ok () := fun host => Network.result_stop host.network id
  unfold Host.retire
  refine (same_bind_of_ok rfl).trans ((same_bind_of_ok (stopped _)).trans ?_)
  exact ⟨rfl, (stopped _).symm⟩

theorem retires (caller : Nat) (entries : List (String × ManagerId))
    (distinct : (entries.map Prod.fst).Nodup)
    (live : ∀ entry ∈ entries, s.live[entry.1]? = some entry.2) :
    ∃ s', CallSteps caller (s, .shutdown (.retiring (entries.map Prod.fst)))
        (s', .shutdown (.retiring [])) ∧
      ((forEach entries fun (client, id) => (Host.retire client id :
        Action Host ClientError Unit)).run s.host).Same ⟨s'.host, [], .ok ()⟩ := by
  induction entries generalizing s with
  | nil => exact ⟨s, .refl, rfl, rfl⟩
  | cons entry entries ih =>
    obtain ⟨client, id⟩ := entry
    rw [List.map_cons, List.nodup_cons] at distinct
    rw [List.forall_mem_cons] at live
    let erased := s.perform (Host.modifyRegistry (Registry.erase client) : Action Host ClientError Unit)
    let stopped := erased.perform (Host.onNetwork (Network.stop id) : Action Host ClientError Unit)
    have others : ∀ entry ∈ entries, stopped.live[entry.1]? = some entry.2 := by
      intro entry member
      have apart : client ≠ entry.1 := by
        rintro rfl
        exact distinct.1 (List.mem_map.mpr ⟨entry, member, rfl⟩)
      change (s.live.erase client)[entry.1]? = some entry.2
      rw [Std.ExtTreeMap.getElem?_erase]
      simp [apart, live.2 entry member]
    obtain ⟨s', steps, same⟩ := ih distinct.2 others
    obtain ⟨left, done⟩ := run_retire client id s.host
    refine ⟨s', ?_, ?_⟩
    · exact .head (.shutdown (.remove client live.1)) (.head (.shutdown .stop) steps)
    · rw [forEach_cons]
      refine (same_bind_of_ok (done.trans (Network.result_stop _ _))).trans ?_
      rw [left]
      exact same

theorem state_finishShutdown {host left : Host} (closing : host.registry.phase = .closing)
    (retired : ((forEach host.registry.live.toList fun (client, id) => (Host.retire client id :
      Action Host ClientError Unit)).run host).Same ⟨left, [], .ok ()⟩) :
    ((Host.finishShutdown : Action Host ClientError Unit).run host).state =
      left.setRegistry (left.registry.setPhase .closed) := by
  rw [Host.finishShutdown, run_bind_of_ok (run_get host)]
  simp only [closing, if_true]
  rw [(same_bind_of_ok retired.2).1, retired.1]
  rfl

theorem completes (caller : Nat) (free : ∀ name : String, s.holders[name]? = none)
    (opened : s.host.registry.phase = .opened) :
    ∃ s', CallSteps caller (s, .shutdown .arriving) (s', .shutdown (.returned true)) ∧
      s'.host = ((Host.shutdown : Action Host ClientError Unit).run s.host).state := by
  have unclosed : s.isClosed = false := by simp [Registry.isClosed, opened]
  have begun : (Host.beginShutdown : Action Host ClientError Unit).run s.host =
      ⟨s.host.setRegistry (s.host.registry.setPhase .closing), [], .ok ()⟩ := by
    rw [Host.beginShutdown, run_bind_of_ok (run_get _), if_pos opened]
    rfl
  let closing := s.perform (Host.beginShutdown : Action Host ClientError Unit)
  obtain ⟨drained, draining, host, -⟩ := drains (s := closing) caller free closing.locks.toList
  have distinct : (drained.live.toList.map Prod.fst).Nodup := by
    rw [Std.ExtTreeMap.map_fst_toList_eq_keys]
    exact Std.ExtTreeMap.nodup_keys
  obtain ⟨retired, retiring, same⟩ := retires caller drained.live.toList distinct
    fun entry member => Std.ExtTreeMap.mem_toList_iff_getElem?_eq_some.mp member
  rw [Std.ExtTreeMap.map_fst_toList_eq_keys] at retiring
  let closed := retired.perform
    (Host.modifyRegistry (Registry.setPhase .closed) : Action Host ClientError Unit)
  refine ⟨closed, ?_, ?_⟩
  · have finish : CallSteps caller (retired, .shutdown (.retiring []))
        (closed, .shutdown (.returned true)) := .head (.shutdown .finish) .refl
    have surveyed := CallSteps.head (.shutdown (.surveyed (fun _ due _ => due) (fun _ due => .inl due)
      Std.ExtTreeMap.ordered_keys)) (retiring.trans finish)
    have collected := draining.trans (CallSteps.head (.shutdown .survey) surveyed)
    refine .head (.shutdown (.close unclosed)) (.head (.shutdown .collect) (.head (.shutdown ?_)
      collected))
    exact .collected (fun _ => Std.ExtTreeSet.mem_toList.mpr) (fun _ => Std.ExtTreeSet.mem_toList.mp)
  · have start : drained.host = s.host.setRegistry (s.host.registry.setPhase .closing) :=
      host.trans (congrArg Outcome.state begun)
    simp only [Shared.live, start] at same
    rw [Host.shutdown, run_bind_of_ok begun]
    exact (state_finishShutdown rfl same).symm

end ShutdownPhase

/-- A shutdown of an open registry without builds under way can return before any other call takes a
step. Then it leaves what it does as a whole. -/
theorem shutdown_alone {s : Shared} (calls : List Call)
    (free : ∀ name : String, s.holders[name]? = none) (opened : s.host.registry.phase = .opened) :
    ∃ s', Steps ⟨s, calls⟩ ⟨s', calls ++ [.shutdown (.returned true)]⟩ ∧
      s'.host = ((Host.shutdown : Action Host ClientError Unit).run s.host).state := by
  obtain ⟨s', steps, left⟩ := ShutdownPhase.completes calls.length free opened
  exact ⟨s', Steps.of_arrived .shutdown steps, left⟩

end Interleaving

end HotRod
