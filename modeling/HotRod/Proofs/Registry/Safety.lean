import HotRod.Proofs.Client.Assembly
import HotRod.Proofs.Registry.Invariant
import HotRod.Proofs.Registry.Sequential
set_option autoImplicit false

/-!
# Safety of interleaved calls

However lookups and shutdowns are interleaved, a client has at most one started manager, and all its
lookups answer with the same one. Once the shutdown that closed the registry has returned, all managers
are stopped, none is registered and none is connected any more.
-/

namespace HotRod.Interleaving

namespace Invariant
variable {state : State} {name : String} {id id' : ManagerId}

theorem carries_unique (inv : Invariant state) {call other : Call} (member : call ∈ state.calls)
    (also : other ∈ state.calls) (carries : call.Carries name id) (carries' : other.Carries name id') :
    id = id' := by
  obtain ⟨i, here⟩ := List.mem_iff_getElem?.mp member
  obtain ⟨j, there⟩ := List.mem_iff_getElem?.mp also
  by_cases same : i = j
  · subst same
    rw [here] at there
    obtain rfl := Option.some.inj there
    exact carries.unique carries'
  · rcases carries.cleared.builds_or_settled with builds | settled
    · exact absurd carries'.cleared (inv.not_cleared_of_builds here there same builds)
    · rcases carries'.cleared.builds_or_settled with builds | settled'
      · exact absurd carries.cleared (inv.not_cleared_of_builds there here (Ne.symm same) builds)
      · exact absurd (inv.closers i j call other here there settled.closer settled'.closer) same

theorem live_of_carries (inv : Invariant state) {call : Call} (member : call ∈ state.calls)
    (carries : call.Carries name id) : state.shared.live[name]? = none := by
  obtain ⟨i, here⟩ := List.mem_iff_getElem?.mp member
  exact (inv.fits i call here).cleared name carries.cleared

/-- A client has at most one started manager. -/
theorem started_unique (inv : Invariant state) (noted : (name, id) ∈ state.shared.connected)
    (noted' : (name, id') ∈ state.shared.connected)
    (started : state.shared.network.isStarted id = true)
    (started' : state.shared.network.isStarted id' = true) : id = id' := by
  rcases inv.accounted name id noted started with live | ⟨call, member, carries⟩
  · rcases inv.accounted name id' noted' started' with live' | ⟨other, also, carries'⟩
    · exact Option.some.inj (live.symm.trans live')
    · simp [inv.live_of_carries also carries'] at live
  · rcases inv.accounted name id' noted' started' with live' | ⟨other, also, carries'⟩
    · simp [inv.live_of_carries member carries] at live'
    · exact inv.carries_unique member also carries carries'

/-- Nothing is registered once the closing shutdown has returned. -/
theorem live_of_returned (inv : Invariant state)
    (returned : Call.shutdown (.returned true) ∈ state.calls) : state.shared.live = ∅ := by
  obtain ⟨i, here⟩ := List.mem_iff_getElem?.mp returned
  refine Std.ExtTreeMap.ext_getElem? fun name => ?_
  cases live : state.shared.live[name]? with
  | none => simp
  | some id =>
    have member : name ∈ state.shared.live := by
      rw [Std.ExtTreeMap.mem_iff_isSome_getElem?, live, Option.isSome_some]
    exact absurd ((inv.fits i _ here).left name member) (by simp [Call.Leaves, ShutdownPhase.Leaves])

/-- Nothing is started once the closing shutdown has returned. -/
theorem stopped_of_returned (inv : Invariant state)
    (returned : Call.shutdown (.returned true) ∈ state.calls)
    (noted : (name, id) ∈ state.shared.connected) :
    state.shared.network.isStarted id = false := by
  rw [← Bool.not_eq_true]
  intro started
  rcases inv.accounted name id noted started with live | ⟨call, member, carries⟩
  · simp [inv.live_of_returned returned] at live
  · obtain ⟨i, here⟩ := List.mem_iff_getElem?.mp member
    obtain ⟨j, there⟩ := List.mem_iff_getElem?.mp returned
    rcases carries.cleared.builds_or_settled with builds | settled
    · exact inv.not_settled_of_builds here builds ⟨_, returned, rfl⟩
    · obtain rfl := inv.closers i j call _ here there settled.closer rfl
      rw [here] at there
      obtain rfl := Option.some.inj there
      exact carries.elim

end Invariant

/-- A shutdown that has returned takes no more steps. -/
theorem Step.mem_returned {before after : State} (step : Step before after)
    (returned : Call.shutdown (.returned true) ∈ before.calls) :
    Call.shutdown (.returned true) ∈ after.calls := by
  cases step with
  | lookup name => exact List.mem_append_left _ returned
  | shutdown => exact List.mem_append_left _ returned
  | @call s s' calls caller call call' present step =>
    obtain ⟨i, there⟩ := List.mem_iff_getElem?.mp returned
    refine List.mem_iff_getElem?.mpr ⟨i, ?_⟩
    by_cases same : caller = i
    · subst same
      rw [show calls[caller]? = some call from present] at there
      obtain rfl := Option.some.inj there
      cases step with
      | shutdown step => cases step
    · rw [List.getElem?_set_ne same]
      exact there
  | outside _ => exact returned

theorem Step.attempts_of_returned {before after : State} (inv : Invariant before)
    (step : Step before after) (returned : Call.shutdown (.returned true) ∈ before.calls) :
    after.shared.attempts = before.shared.attempts ∧
      after.shared.connected = before.shared.connected := by
  cases step with
  | call present step =>
    rcases step.attempts_cases with kept | ⟨client, builds⟩
    · exact kept
    · exact absurd ⟨_, returned, rfl⟩ (inv.not_settled_of_builds present builds)
  | _ => exact ⟨rfl, rfl⟩

theorem Steps.of_returned {before after : State} (inv : Invariant before) (run : Steps before after)
    (returned : Call.shutdown (.returned true) ∈ before.calls) :
    Call.shutdown (.returned true) ∈ after.calls ∧
      after.shared.attempts = before.shared.attempts ∧
      after.shared.connected = before.shared.connected := by
  induction run with
  | refl => exact ⟨returned, rfl, rfl⟩
  | tail run step ih =>
    obtain ⟨still, attempts, connected⟩ := ih
    obtain ⟨attempts', connected'⟩ := step.attempts_of_returned (inv.steps run) still
    exact ⟨step.mem_returned still, attempts'.trans attempts, connected'.trans connected⟩

/-- Whatever lookups and shutdowns are made on a registry and however their steps are interleaved: a
client has at most one started manager, all its lookups that succeed return the same one, and after the
shutdown that closed the registry has returned, all managers are stopped, none is registered and none
is connected. -/
theorem interleaved_calls_are_safe {network : Network} {settings : ClientsSettings} {state : State}
    (run : Steps (.opened network settings) state) :
    (∀ client id id', (client, id) ∈ state.shared.connected → (client, id') ∈ state.shared.connected →
      state.shared.network.isStarted id = true → state.shared.network.isStarted id' = true →
      id = id') ∧
    (∀ client id id', Call.lookup client (.returned (.ok (some id))) ∈ state.calls →
      Call.lookup client (.returned (.ok (some id'))) ∈ state.calls → id = id') ∧
    (Call.shutdown (.returned true) ∈ state.calls → ∀ later, Steps state later →
      (∀ client id, (client, id) ∈ later.shared.connected →
        later.shared.network.isStarted id = false) ∧
      later.shared.live = ∅ ∧ later.shared.attempts = state.shared.attempts ∧
      later.shared.connected = state.shared.connected) := by
  have inv := (Invariant.opened network settings).steps run
  refine ⟨fun client id id' => inv.started_unique, ?_, ?_⟩
  · intro client id id' returned also
    obtain ⟨i, here⟩ := List.mem_iff_getElem?.mp returned
    obtain ⟨j, there⟩ := List.mem_iff_getElem?.mp also
    exact inv.agreed i j _ _ client id id' here there ⟨rfl, rfl⟩ ⟨rfl, rfl⟩
  · intro returned later more
    obtain ⟨still, attempts, connected⟩ := Steps.of_returned inv more returned
    have after := inv.steps more
    exact ⟨fun client id => after.stopped_of_returned still, after.live_of_returned still, attempts,
      connected⟩

def servedSettings : ClientsSettings where
  runtime := { clients := KeyMap.ofPairs [("c", { hosts := some "server" })] }

/-- A client is looked up, and then its registry is shut down. -/
theorem lookup_then_shutdown_is_safe :
    ∃ state, Steps (.opened {} servedSettings) state ∧
      Call.lookup "c" (.returned (.ok (some 0))) ∈ state.calls ∧
      Call.shutdown (.returned true) ∈ state.calls ∧ state.shared.live = ∅ ∧
      ∀ client id, (client, id) ∈ state.shared.connected →
        state.shared.network.isStarted id = false := by
  let host : Host := { registry := { settings := servedSettings } }
  have answer : ((Host.manager .missing "c").run host).result = .ok (some 0) :=
    eq_ok_of_toOption (by decide +kernel)
  have opened : ((Host.manager .missing "c").run host).state.registry.phase = .opened := by
    decide +kernel
  obtain ⟨looked, lookup, left, free⟩ := lookup_alone .missing "c" (s := { host }) [] (by simp)
  rw [answer] at lookup
  obtain ⟨closed, shutdown, -⟩ := shutdown_alone (s := looked)
    ([] ++ [.lookup (canonicalName "c") (.returned (.ok (some 0)))]) (fun name => by simp [free])
    (by rw [left, opened])
  have run := lookup.trans shutdown
  obtain ⟨-, -, safe⟩ := interleaved_calls_are_safe run
  obtain ⟨stopped, none, -⟩ := safe (by simp) _ .refl
  exact ⟨_, run, by simp [show canonicalName "c" = "c" from rfl], by simp, none, stopped⟩

end HotRod.Interleaving
