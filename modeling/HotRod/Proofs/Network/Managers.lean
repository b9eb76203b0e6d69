import HotRod.Network.Schemas
import HotRod.Proofs.Action.Keeps
set_option autoImplicit false

/-!
# Managers as time passes

Managers are added and stopped, and none is started again. A connection adds one that was not there
before; whatever else is asked of a network starts none.
-/

namespace HotRod.Network

open HotRod.Action

/-- Of the managers of a network, none is started that was stopped before. -/
structure Ages (before after : Network) : Prop where
  grows : before.managers.length ≤ after.managers.length
  stays : ∀ id < before.managers.length, after.isStarted id = true → before.isStarted id = true

namespace Ages

theorem refl (network : Network) : network.Ages network := ⟨Nat.le_refl _, fun _ _ started => started⟩

theorem of_managers_eq {before after : Network} (same : after.managers = before.managers) :
    before.Ages after := by
  refine ⟨Nat.le_of_eq (by rw [same]), fun id _ started => ?_⟩
  rwa [isStarted, same] at started

end Ages

theorem isStarted_markStopped (network : Network) (stopped id : ManagerId) :
    (network.markStopped stopped).isStarted id = (network.isStarted id && decide (stopped ≠ id)) := by
  unfold markStopped isStarted
  rw [List.getElem?_modify]
  by_cases same : stopped = id
  · cases network.managers[id]? <;> simp [same]
  · cases network.managers[id]? <;> simp [same]

theorem state_stop {ε : Type} (network : Network) (id : ManagerId) :
    ((stop id : Action Network ε Unit).run network).state = network ∧ network.isStarted id = false ∨
      ((stop id : Action Network ε Unit).run network).state = network.markStopped id := by
  unfold stop
  rw [run_bind_of_ok (run_get network)]
  cases found : network.managers[id]? with
  | none => exact .inl ⟨rfl, by simp [isStarted, found]⟩
  | some manager =>
    rcases manager with ⟨configuration, _ | _⟩
    · exact .inl ⟨rfl, by simp [isStarted, found]⟩
    · exact .inr rfl

@[simp] theorem result_stop {ε : Type} (network : Network) (id : ManagerId) :
    ((stop id : Action Network ε Unit).run network).result = .ok () := by
  unfold stop
  rw [run_bind_of_ok (run_get network)]
  split <;> rfl

theorem ages_stop {ε : Type} (network : Network) (id : ManagerId) :
    network.Ages ((stop id : Action Network ε Unit).run network).state := by
  rcases network.state_stop (ε := ε) id with ⟨same, -⟩ | marked
  · rw [same]
    exact .refl network
  · rw [marked]
    refine ⟨by simp [markStopped], fun other _ started => ?_⟩
    rw [isStarted_markStopped] at started
    exact (Bool.and_eq_true_iff.mp started).1

theorem isStarted_stop {ε : Type} (network : Network) (id : ManagerId) :
    (((stop id : Action Network ε Unit).run network).state).isStarted id = false := by
  rcases network.state_stop (ε := ε) id with ⟨same, stopped⟩ | marked
  · rw [same, stopped]
  · rw [marked, isStarted_markStopped]
    simp

/-- An attempt to connect that is not in vain adds a manager, which is the last one. -/
theorem connect_cases (network : Network) (configuration : Configuration) :
    (∃ error, ((connect configuration).run network).result = .error error ∧
      ((connect configuration).run network).state = network.countAttempt) ∨
    (((connect configuration).run network).result = .ok network.managers.length ∧
      ((connect configuration).run network).state =
        network.countAttempt.addManager configuration) := by
  have attempted : (attemptConnection.run network).state = network.countAttempt ∧
      ((∃ error, (attemptConnection.run network).result = .error error) ∨
        (attemptConnection.run network).result = .ok ()) := by
    unfold attemptConnection
    rw [run_bind_of_ok (run_modify countAttempt network), run_bind_of_ok (run_get _)]
    cases network.countAttempt.refusal with
    | none => exact ⟨rfl, .inr rfl⟩
    | some reason => exact ⟨rfl, .inl ⟨_, rfl⟩⟩
  unfold connect
  rcases done : attemptConnection.run network with ⟨middle, events, error | ⟨⟩⟩
  · rw [done] at attempted
    rw [run_bind_of_error done]
    exact .inl ⟨error, rfl, attempted.1⟩
  · rw [done] at attempted
    obtain ⟨rfl, -⟩ := attempted
    rw [run_bind_of_ok done, establish, run_bind_of_ok (run_get _)]
    by_cases none : configuration.servers.isEmpty = true
    · rw [if_pos none]
      exact .inl ⟨_, rfl, rfl⟩
    · rw [if_neg none]
      exact .inr ⟨rfl, rfl⟩

theorem ages_connect (network : Network) (configuration : Configuration) :
    network.Ages ((connect configuration).run network).state := by
  rcases network.connect_cases configuration with ⟨error, -, same⟩ | ⟨-, same⟩
  · rw [same]
    exact .of_managers_eq rfl
  · rw [same]
    refine ⟨by simp [addManager, countAttempt], fun id older started => ?_⟩
    rwa [isStarted, addManager, countAttempt, List.getElem?_append_left older] at started

theorem eq_length_of_connect {network : Network} {configuration : Configuration} {id : ManagerId}
    (connected : ((connect configuration).run network).result = .ok id) :
    id = network.managers.length ∧
      id < (((connect configuration).run network).state).managers.length := by
  rcases network.connect_cases configuration with ⟨error, failed, -⟩ | ⟨given, same⟩
  · rw [connected] at failed
    contradiction
  · rw [connected] at given
    obtain rfl := Except.ok.inj given
    rw [same]
    exact ⟨rfl, by simp [addManager, countAttempt]⟩

theorem keeps_managers_through {α : Type} (id : ManagerId) (action : Action Cluster RemoteError α) :
    (through id action).Keeps managers := by
  refine keeps_get.bind fun network => ?_
  by_cases started : network.isStarted id = true
  · rw [if_pos started]
    exact fun _ => rfl
  · rw [if_neg started]
    exact keeps_fail _

theorem keeps_managers_pushSchemas (id : ManagerId) (files : List (String × String)) :
    (pushSchemas id files).Keeps managers := by
  unfold pushSchemas pushSchemasVia
  split
  · exact keeps_pure 0
  · refine Keeps.bind ((keeps_managers_through id _).mapError _) fun handle? => ?_
    cases handle? with
    | none => exact keeps_fail _
    | some handle =>
      refine Keeps.bind ?_ fun _ => Keeps.bind (keeps_emit _) fun _ => keeps_pure _
      refine Keeps.forEach fun file => ?_
      refine Keeps.bind ((keeps_managers_through handle.manager _).mapError _) fun _ => ?_
      exact keeps_emit _

end HotRod.Network
