import HotRod.Proofs.KeyMap
import HotRod.Proofs.Registry.Calls
set_option autoImplicit false

/-!
# What calls do to each other

A step of one call changes little of what others rely on. Locks stay, and only their holders release
them. The registry stays closed. A manager is registered only by a call that builds it, and taken out
only by a shutdown that waited for all builds.
-/

namespace HotRod

open HotRod.Action

namespace Host

theorem keeps_prepare (files : Files) (client : String) :
    (prepare files client).Keeps fun host =>
      (host.network, host.registry.live, host.registry.phase) := by
  refine keeps_get.bind fun host => ?_
  split
  · exact keeps_pure none
  · refine Keeps.bind (fun _ => rfl) fun assembly => ?_
    by_cases none : assembly.draft.servers.isEmpty = true
    · rw [if_pos none]
      exact keeps_pure _
    · rw [if_neg none]
      refine Keeps.bind ?_ fun configuration => keeps_pure _
      intro state
      rw [run_ofExcept]

theorem network_prepare (files : Files) (client : String) (host : Host) :
    ((prepare files client).run host).state.network = host.network :=
  congrArg (·.1) (keeps_prepare files client host)

theorem live_prepare (files : Files) (client : String) (host : Host) :
    ((prepare files client).run host).state.registry.live = host.registry.live :=
  congrArg (·.2.1) (keeps_prepare files client host)

theorem isClosed_prepare (files : Files) (client : String) (host : Host) :
    ((prepare files client).run host).state.registry.isClosed = host.registry.isClosed := by
  have phase := congrArg (·.2.2) (keeps_prepare files client host)
  exact congrArg (· != .opened) phase

theorem keeps_beginShutdown {ε : Type} :
    (beginShutdown : Action Host ε Unit).Keeps fun host =>
      (host.network, host.registry.live, host.registry.settings) := by
  refine keeps_get.bind fun host => ?_
  by_cases opened : host.registry.phase = .opened
  · rw [if_pos opened]
    intro state
    rfl
  · rw [if_neg opened]
    exact keeps_pure ()

theorem network_beginShutdown {ε : Type} (host : Host) :
    ((beginShutdown : Action Host ε Unit).run host).state.network = host.network :=
  congrArg (·.1) (keeps_beginShutdown host)

theorem live_beginShutdown {ε : Type} (host : Host) :
    ((beginShutdown : Action Host ε Unit).run host).state.registry.live = host.registry.live :=
  congrArg (·.2.1) (keeps_beginShutdown host)

theorem isClosed_beginShutdown {ε : Type} (host : Host) :
    ((beginShutdown : Action Host ε Unit).run host).state.registry.isClosed = true := by
  unfold beginShutdown
  rw [run_bind_of_ok (run_get host)]
  by_cases opened : host.registry.phase = .opened
  · rw [if_pos opened]
    rfl
  · rw [if_neg opened]
    simpa [Registry.isClosed] using opened

end Host

namespace Interleaving

/-- What a call in its phase may count on. -/
structure Call.Fits (caller : Nat) (s : Shared) (call : Call) : Prop where
  holder : ∀ name, call.Holds name → s.holders[name]? = some caller
  locked : ∀ name, call.Fetched name → name ∈ s.locks
  cleared : ∀ name, call.Cleared name → s.live[name]? = none
  closed : call.Closer → s.isClosed = true
  left : ∀ name, name ∈ s.live → call.Leaves name

namespace CallStep
variable {caller : Nat} {s s' : Shared} {call call' : Call} {name : String} {id : ManagerId}

theorem mem_locks (step : CallStep caller s call s' call') (locked : name ∈ s.locks) :
    name ∈ s'.locks := by
  cases step with
  | lookup client step =>
    cases step with
    | fetch => exact Std.ExtTreeSet.mem_insert.mpr (.inr locked)
    | _ => exact locked
  | shutdown step => cases step <;> exact locked

theorem getElem?_holders (step : CallStep caller s call s' call') (fits : call.Fits caller s)
    {other : Nat} (apart : other ≠ caller) (held : s.holders[name]? = some other) :
    s'.holders[name]? = some other := by
  have kept : ∀ client, s.holders[client]? ≠ some other →
      (s.holders.erase client)[name]? = some other := by
    intro client elsewhere
    have different : client ≠ name := by
      rintro rfl
      exact elsewhere held
    simp [Std.ExtTreeMap.getElem?_erase, different, held]
  have added : ∀ client, s.holders[client]? = none →
      (s.holders.insert client caller)[name]? = some other := by
    intro client free
    have different : client ≠ name := by
      rintro rfl
      simp [free] at held
    rw [KeyMap.getElem?_insert, if_neg different, held]
  have own : ∀ client, call.Holds client → s.holders[client]? ≠ some other := by
    intro client holds same
    rw [fits.holder client holds] at same
    exact apart (Option.some.inj same).symm
  cases step with
  | lookup client step =>
    cases step with
    | take free => exact added client free
    | release => exact kept client (own client ⟨rfl, trivial⟩)
    | _ => exact held
  | shutdown step =>
    cases step with
    | take client free => exact added client free
    | release client => exact kept client (own client rfl)
    | _ => exact held

theorem isClosed_mono (step : CallStep caller s call s' call') (closed : s.isClosed = true) :
    s'.isClosed = true := by
  cases step with
  | lookup client step =>
    cases step with
    | fail | skip | prepare => exact (Host.isClosed_prepare _ _ _).trans closed
    | _ => exact closed
  | shutdown step =>
    cases step with
    | close _ => exact Host.isClosed_beginShutdown _
    | finish => rfl
    | _ => exact closed

theorem live_inserts (step : CallStep caller s call s' call') (live : s'.live[name]? = some id) :
    s.live[name]? = some id ∨ call.Builds name ∧ call'.Answers name id := by
  cases step with
  | lookup client step =>
    cases step with
    | fail | skip | prepare =>
      left
      rw [← live]
      exact congrArg (·[name]?) (Host.live_prepare _ _ _).symm
    | insert =>
      change (s.live.insert client _)[name]? = some id at live
      rw [KeyMap.getElem?_insert] at live
      by_cases same : client = name
      · rw [if_pos same] at live
        exact .inr ⟨⟨same, trivial⟩, same, congrArg Except.ok live⟩
      · rw [if_neg same] at live
        exact .inl live
    | _ => exact .inl live
  | shutdown step =>
    cases step with
    | close _ =>
      left
      rw [← live]
      exact congrArg (·[name]?) (Host.live_beginShutdown _).symm
    | remove client _ =>
      left
      change (s.live.erase client)[name]? = some id at live
      rw [Std.ExtTreeMap.getElem?_erase] at live
      by_cases same : client = name <;> simp_all
    | _ => exact .inl live

theorem live_erases (step : CallStep caller s call s' call') (fits : call.Fits caller s)
    (live : s.live[name]? = some id) :
    s'.live[name]? = some id ∨ s'.live[name]? = none ∧ call'.Settled ∧ call'.Carries name id := by
  cases step with
  | lookup client step =>
    cases step with
    | fail | skip | prepare =>
      left
      rw [← live]
      exact congrArg (·[name]?) (Host.live_prepare _ _ _)
    | insert =>
      have different : client ≠ name := by
        rintro rfl
        simp [fits.cleared client ⟨rfl, trivial⟩] at live
      left
      change (s.live.insert client _)[name]? = some id
      rw [KeyMap.getElem?_insert, if_neg different, live]
    | _ => exact .inl live
  | shutdown step =>
    cases step with
    | close _ =>
      left
      rw [← live]
      exact congrArg (·[name]?) (Host.live_beginShutdown _)
    | remove client found =>
      change (s.live.erase client)[name]? = some id ∨ (s.live.erase client)[name]? = none ∧ _
      rw [Std.ExtTreeMap.getElem?_erase]
      by_cases same : client = name
      · subst same
        rw [found] at live
        exact .inr ⟨by simp, trivial, rfl, Option.some.inj live⟩
      · exact .inl (by simp [same, live])
    | _ => exact .inl live

theorem ages (step : CallStep caller s call s' call') : s.network.Ages s'.network := by
  cases step with
  | lookup client step =>
    cases step with
    | fail | skip | prepare => exact .of_managers_eq (congrArg _ (Host.network_prepare _ _ _))
    | lose | connect => exact Network.ages_connect _ _
    | push | reject => exact .of_managers_eq (Network.keeps_managers_pushSchemas _ _ _)
    | discard => exact Network.ages_stop _ _
    | _ => exact .refl _
  | shutdown step =>
    cases step with
    | close _ => exact .of_managers_eq (congrArg _ (Host.network_beginShutdown _))
    | stop => exact Network.ages_stop _ _
    | _ => exact .refl _

theorem connected_cases (step : CallStep caller s call s' call') (noted : (name, id) ∈ s'.connected) :
    (name, id) ∈ s.connected ∨
      call.Builds name ∧ call'.Carries name id ∧ id < s'.network.managers.length := by
  cases step with
  | lookup client step =>
    cases step with
    | connect given =>
      rcases List.mem_cons.mp noted with same | earlier
      · cases same
        refine .inr ⟨⟨rfl, trivial⟩, ⟨rfl, ?_⟩, (Network.eq_length_of_connect given).2⟩
        unfold Shared.afterConnect
        split <;> rfl
      · exact .inl earlier
    | _ => exact .inl noted
  | shutdown step => cases step <;> exact .inl noted

theorem carries_cases (step : CallStep caller s call s' call') (carries : call.Carries name id) :
    call'.Carries name id ∨ s'.live[name]? = some id ∨ s'.network.isStarted id = false := by
  cases step with
  | lookup client step =>
    obtain ⟨rfl, held⟩ := carries
    cases step with
    | push | reject | renounce | confirm => exact .inl ⟨rfl, held⟩
    | discard =>
      obtain rfl := held
      exact .inr (.inr (Network.isStarted_stop _ _))
    | insert =>
      obtain rfl := held
      refine .inr (.inl ?_)
      exact Std.ExtTreeMap.getElem?_insert_self
    | _ => exact held.elim
  | shutdown step =>
    cases step with
    | stop =>
      obtain ⟨-, rfl⟩ := carries
      exact .inr (.inr (Network.isStarted_stop _ _))
    | _ => exact carries.elim

theorem builds_of_isClosed (step : CallStep caller s call s' call') (closed : s.isClosed = true)
    (builds : call'.Builds name) : call.Builds name := by
  cases step with
  | lookup client step =>
    obtain ⟨rfl, held⟩ := builds
    cases step with
    | reenter opened => simp [closed] at opened
    | _ => first | exact held.elim | exact ⟨rfl, trivial⟩
  | shutdown step => exact builds.elim

/-- A shutdown that no longer awaits the build of a client saw its lock free, or saw none. -/
theorem awaits_cases (step : CallStep caller s call s' call') (awaits : call.Awaits name) :
    call'.Awaits name ∨ name ∉ s.locks ∨ s.holders[name]? = none := by
  cases step with
  | lookup client step => exact .inl trivial
  | shutdown step =>
    cases step with
    | leave _ => exact .inl rfl
    | close _ => exact .inl trivial
    | collect =>
      by_cases locked : name ∈ s.locks
      · exact .inl locked
      · exact .inr (.inl locked)
    | collected found _ => exact .inl (found name awaits)
    | take client free =>
      rcases List.mem_cons.mp awaits with rfl | later
      · exact .inr (.inr free)
      · exact .inl later
    | release client => exact .inl awaits
    | survey => exact absurd awaits (List.not_mem_nil)
    | _ => exact awaits.elim

theorem settled_mono (step : CallStep caller s call s' call') (settled : call.Settled) :
    call'.Settled := by
  cases step with
  | lookup client step => exact settled.elim
  | shutdown step => cases step <;> first | exact settled.elim | trivial

theorem closer_cases (step : CallStep caller s call s' call') (closer : call'.Closer) :
    call.Closer ∨ s.isClosed = false := by
  cases step with
  | lookup client step => exact closer.elim
  | shutdown step =>
    cases step with
    | leave _ => simp [Call.Closer, ShutdownPhase.Closer] at closer
    | close opened => exact .inr opened
    | _ => exact .inl trivial

/-- A lookup answers with a manager that is registered then. -/
theorem answers_cases (step : CallStep caller s call s' call') (answers : call'.Answers name id) :
    call.Answers name id ∨ s'.live[name]? = some id := by
  cases step with
  | lookup client step =>
    obtain ⟨rfl, given⟩ := answers
    cases step with
    | find found | refind found =>
      obtain ⟨⟩ := given
      exact .inr found
    | insert =>
      obtain ⟨⟩ := given
      refine .inr ?_
      exact Std.ExtTreeMap.getElem?_insert_self
    | release => exact .inl ⟨rfl, given⟩
    | connect _ =>
      unfold Shared.afterConnect at given
      split at given <;> exact given.elim
    | _ => first | exact given.elim | cases given
  | shutdown step => exact answers.elim

theorem attempts_cases (step : CallStep caller s call s' call') :
    s'.attempts = s.attempts ∧ s'.connected = s.connected ∨ ∃ client, call.Builds client := by
  cases step with
  | lookup client step =>
    cases step with
    | lose | connect => exact .inr ⟨client, rfl, trivial⟩
    | _ => exact .inl ⟨rfl, rfl⟩
  | shutdown step => cases step <;> exact .inl ⟨rfl, rfl⟩

theorem holds_own (step : CallStep caller s call s' call') (fits : call.Fits caller s)
    (holds : call'.Holds name) : s'.holders[name]? = some caller := by
  cases step with
  | lookup client step =>
    obtain ⟨rfl, held⟩ := holds
    cases step with
    | take _ =>
      exact Std.ExtTreeMap.getElem?_insert_self
    | _ => first | exact held.elim | exact fits.holder client ⟨rfl, trivial⟩
  | shutdown step =>
    cases step with
    | take client _ =>
      obtain rfl := holds
      exact Std.ExtTreeMap.getElem?_insert_self
    | _ => exact holds.elim

theorem fetched_own (step : CallStep caller s call s' call') (fits : call.Fits caller s)
    (fetched : call'.Fetched name) : name ∈ s'.locks := by
  cases step with
  | lookup client step =>
    obtain ⟨rfl, held⟩ := fetched
    cases step with
    | fetch => exact Std.ExtTreeSet.mem_insert_self
    | _ => first | exact held.elim | exact fits.locked client ⟨rfl, trivial⟩
  | shutdown step => exact fetched.elim

theorem cleared_own (step : CallStep caller s call s' call') (fits : call.Fits caller s)
    (cleared : call'.Cleared name) : s'.live[name]? = none := by
  cases step with
  | lookup client step =>
    obtain ⟨rfl, held⟩ := cleared
    cases step with
    | remiss none => exact none
    | prepare _ =>
      exact (congrArg (·[client]?) (Host.live_prepare _ _ _)).trans
        (fits.cleared client ⟨rfl, trivial⟩)
    | _ => first | exact held.elim | exact fits.cleared client ⟨rfl, trivial⟩
  | shutdown step =>
    cases step with
    | remove client _ =>
      obtain rfl := cleared
      exact Std.ExtTreeMap.getElem?_erase_self
    | _ => exact cleared.elim

theorem closer_own (step : CallStep caller s call s' call') (fits : call.Fits caller s)
    (closer : call'.Closer) : s'.isClosed = true := by
  cases step with
  | lookup client step => exact closer.elim
  | shutdown step =>
    cases step with
    | leave closed => exact closed
    | close _ => exact Host.isClosed_beginShutdown _
    | finish => rfl
    | _ => exact fits.closed trivial

theorem left_own (step : CallStep caller s call s' call') (fits : call.Fits caller s)
    (live : name ∈ s'.live) : call'.Leaves name := by
  cases step with
  | lookup client step => exact trivial
  | shutdown step =>
    cases step with
    | survey => exact Std.ExtTreeMap.mem_keys.mpr live
    | surveyed found _ _ => exact found name (fits.left name live) live
    | remove client _ =>
      change name ∈ s.live.erase client at live
      obtain ⟨different, earlier⟩ := Std.ExtTreeMap.mem_erase.mp live
      rcases List.mem_cons.mp (fits.left name earlier) with same | later
      · simp [same] at different
      · exact later
    | skip client none =>
      rcases List.mem_cons.mp (fits.left name live) with rfl | later
      · simp [Std.ExtTreeMap.mem_iff_isSome_getElem?, none] at live
      · exact later
    | stop => exact fits.left name live
    | finish => exact absurd (fits.left name live) List.not_mem_nil
    | leave _ => rfl
    | _ => exact trivial

end CallStep

/-- A call that takes a step fits into what it leaves. -/
theorem Call.Fits.step {caller : Nat} {s s' : Shared} {call call' : Call} (fits : call.Fits caller s)
    (step : CallStep caller s call s' call') : call'.Fits caller s' where
  holder _ := step.holds_own fits
  locked _ := step.fetched_own fits
  cleared _ := step.cleared_own fits
  closed := step.closer_own fits
  left _ := step.left_own fits

end Interleaving

end HotRod
