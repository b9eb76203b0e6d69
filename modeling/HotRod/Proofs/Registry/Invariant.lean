import HotRod.Proofs.Registry.Rely
set_option autoImplicit false

/-!
# What holds between any two steps

Every call fits into what all share, no lookup builds a manager that the closing shutdown does not wait
for, and a started manager is registered or in the hands of one call. These facts hold at first, and
every step keeps them.
-/

namespace HotRod.Interleaving

theorem getElem?_set_cases {calls : List Call} {caller i : Nat} {call call' other : Call}
    (present : calls[caller]? = some call) (found : (calls.set caller call')[i]? = some other) :
    i = caller ∧ other = call' ∨ i ≠ caller ∧ calls[i]? = some other := by
  by_cases same : i = caller
  · subst same
    rw [List.getElem?_set_self (List.getElem?_eq_some_iff.mp present).1] at found
    exact .inl ⟨rfl, (Option.some.inj found).symm⟩
  · rw [List.getElem?_set_ne (Ne.symm same)] at found
    exact .inr ⟨same, found⟩

theorem mem_set_self {calls : List Call} {caller : Nat} {call : Call}
    (present : calls[caller]? = some call) (call' : Call) : call' ∈ calls.set caller call' :=
  List.mem_set (List.getElem?_eq_some_iff.mp present).1 call'

theorem exists_mem_set {calls : List Call} {caller : Nat} {call call' : Call} {Known : Call → Prop}
    (present : calls[caller]? = some call) (kept : Known call → Known call')
    (found : ∃ other ∈ calls, Known other) : ∃ other ∈ calls.set caller call', Known other := by
  obtain ⟨other, member, known⟩ := found
  obtain ⟨i, there⟩ := List.mem_iff_getElem?.mp member
  by_cases same : i = caller
  · subst same
    rw [present] at there
    obtain rfl := Option.some.inj there
    exact ⟨call', mem_set_self present call', kept known⟩
  · refine ⟨other, List.mem_iff_getElem?.mpr ⟨i, ?_⟩, known⟩
    rw [List.getElem?_set_ne (Ne.symm same), there]

theorem getElem?_concat_cases {calls : List Call} {i : Nat} {call fresh : Call}
    (found : (calls ++ [fresh])[i]? = some call) : calls[i]? = some call ∨ call = fresh := by
  rw [List.getElem?_append] at found
  by_cases before : i < calls.length
  · rw [if_pos before] at found
    exact .inl found
  · rw [if_neg before] at found
    exact .inr (List.mem_singleton.mp (List.mem_of_getElem? found))

theorem fits_of_arrived {s : Shared} {fresh : Call} (holds : ∀ name, ¬ fresh.Holds name)
    (fetched : ∀ name, ¬ fresh.Fetched name) (closer : ¬ fresh.Closer) (caller : Nat) :
    fresh.Fits caller s where
  holder name held := absurd held (holds name)
  locked name got := absurd got (fetched name)
  cleared name cleared := by
    rcases cleared.builds_or_settled with builds | settled
    · exact absurd builds.holds (holds name)
    · exact absurd settled.closer closer
  closed closes := absurd closes closer
  left name _ := Call.leaves_of_not_settled fun settled => closer settled.closer

structure Invariant (state : State) : Prop where
  fits : ∀ (i : Nat) (call : Call), state.calls[i]? = some call → call.Fits i state.shared
  /-- The closing shutdown waits for all that build. -/
  awaited : ∀ (i j : Nat) (call other : Call) (name : String), state.calls[i]? = some call →
    state.calls[j]? = some other → other.Builds name → call.Awaits name
  closers : ∀ (i j : Nat) (call other : Call), state.calls[i]? = some call →
    state.calls[j]? = some other → call.Closer → other.Closer → i = j
  /-- A manager that answered a lookup is live until a settled shutdown takes it out. -/
  answered : ∀ (i : Nat) (call : Call) (name : String) (id : ManagerId),
    state.calls[i]? = some call → call.Answers name id →
      state.shared.live[name]? = some id ∨ state.shared.live[name]? = none ∧
        ∃ other ∈ state.calls, other.Settled
  agreed : ∀ (i j : Nat) (call other : Call) (name : String) (id id' : ManagerId),
    state.calls[i]? = some call → state.calls[j]? = some other → call.Answers name id →
      other.Answers name id' → id = id'
  known : ∀ name id, (name, id) ∈ state.shared.connected →
    id < state.shared.network.managers.length
  /-- A started manager is registered or in the hands of a call. -/
  accounted : ∀ name id, (name, id) ∈ state.shared.connected →
    state.shared.network.isStarted id = true → state.shared.live[name]? = some id ∨
      ∃ call ∈ state.calls, call.Carries name id

namespace Invariant
variable {s s' : Shared} {calls : List Call} {caller i j : Nat} {call call' other : Call}
  {name : String} {id id' : ManagerId}

theorem not_settled_of_builds (inv : Invariant ⟨s, calls⟩) (present : calls[i]? = some call)
    (builds : call.Builds name) : ¬ ∃ other ∈ calls, other.Settled := by
  rintro ⟨other, member, settled⟩
  obtain ⟨j, there⟩ := List.mem_iff_getElem?.mp member
  exact settled.not_awaits (inv.awaited j i other call name there present builds)

theorem not_cleared_of_builds (inv : Invariant ⟨s, calls⟩) (present : calls[i]? = some call)
    (there : calls[j]? = some other) (apart : i ≠ j) (builds : call.Builds name) :
    ¬ other.Cleared name := by
  intro cleared
  rcases cleared.builds_or_settled with also | settled
  · have mine := (inv.fits i call present).holder name builds.holds
    rw [(inv.fits j other there).holder name also.holds] at mine
    exact apart (Option.some.inj mine).symm
  · exact inv.not_settled_of_builds present builds ⟨other, List.mem_of_getElem? there, settled⟩

/-- What another call counts on, it can still count on. -/
theorem fits_other (inv : Invariant ⟨s, calls⟩) (present : calls[caller]? = some call)
    (step : CallStep caller s call s' call') (there : calls[j]? = some other) (apart : j ≠ caller) :
    other.Fits j s' where
  holder name holds :=
    step.getElem?_holders (inv.fits caller call present) apart
      ((inv.fits j other there).holder name holds)
  locked name fetched := step.mem_locks ((inv.fits j other there).locked name fetched)
  cleared name cleared := by
    rw [Option.eq_none_iff_forall_ne_some]
    intro id live
    rcases step.live_inserts live with before | ⟨builds, -⟩
    · simp [(inv.fits j other there).cleared name cleared] at before
    · exact inv.not_cleared_of_builds present there (Ne.symm apart) builds cleared
  closed closer := step.isClosed_mono ((inv.fits j other there).closed closer)
  left name live := by
    obtain ⟨id, found⟩ := Option.isSome_iff_exists.mp
      (Std.ExtTreeMap.mem_iff_isSome_getElem?.mp live)
    rcases step.live_inserts found with before | ⟨builds, -⟩
    · refine (inv.fits j other there).left name ?_
      rw [Std.ExtTreeMap.mem_iff_isSome_getElem?, before, Option.isSome_some]
    · refine Call.leaves_of_not_settled fun settled => ?_
      exact inv.not_settled_of_builds present builds ⟨other, List.mem_of_getElem? there, settled⟩

theorem awaited_step (inv : Invariant ⟨s, calls⟩) (present : calls[caller]? = some call)
    (step : CallStep caller s call s' call') {first second : Call}
    (one : (calls.set caller call')[i]? = some first)
    (two : (calls.set caller call')[j]? = some second) (builds : second.Builds name) :
    first.Awaits name := by
  rcases getElem?_set_cases present two with ⟨rfl, rfl⟩ | ⟨otherwise, there⟩
  · rcases getElem?_set_cases present one with ⟨rfl, rfl⟩ | ⟨-, also⟩
    · exact builds.awaits name
    · by_cases closer : first.Closer
      · have closed := (inv.fits i first also).closed closer
        exact inv.awaited i j first call name also present (step.builds_of_isClosed closed builds)
      · exact Call.awaits_of_not_closer closer
  · rcases getElem?_set_cases present one with ⟨rfl, rfl⟩ | ⟨-, also⟩
    · have fits := inv.fits j second there
      rcases step.awaits_cases (inv.awaited i j call second name present there builds) with
        awaits | unlocked | free
      · exact awaits
      · exact absurd (fits.locked name builds.fetched) unlocked
      · simp [fits.holder name builds.holds] at free
    · exact inv.awaited i j first second name also there builds

theorem closers_step (inv : Invariant ⟨s, calls⟩) (present : calls[caller]? = some call)
    (step : CallStep caller s call s' call') {first second : Call}
    (one : (calls.set caller call')[i]? = some first)
    (two : (calls.set caller call')[j]? = some second) (closes : first.Closer)
    (also : second.Closer) : i = j := by
  have alone : ∀ k other, k ≠ caller → calls[k]? = some other → other.Closer → ¬ call'.Closer := by
    intro k other apart there closer becomes
    rcases step.closer_cases becomes with before | opened
    · exact apart (inv.closers k caller other call there present closer before)
    · simp [(inv.fits k other there).closed closer] at opened
  rcases getElem?_set_cases present one with ⟨rfl, rfl⟩ | ⟨apart, there⟩
  · rcases getElem?_set_cases present two with ⟨rfl, -⟩ | ⟨apart, there⟩
    · rfl
    · exact absurd closes (alone j second apart there also)
  · rcases getElem?_set_cases present two with ⟨rfl, rfl⟩ | ⟨-, beside⟩
    · exact absurd also (alone i first apart there closes)
    · exact inv.closers i j first second there beside closes also

theorem answered_step (inv : Invariant ⟨s, calls⟩) (present : calls[caller]? = some call)
    (step : CallStep caller s call s' call') (there : (calls.set caller call')[i]? = some other)
    (answers : other.Answers name id) :
    s'.live[name]? = some id ∨ s'.live[name]? = none ∧
      ∃ other ∈ calls.set caller call', other.Settled := by
  have earlier : ∀ (k : Nat) (before : Call), calls[k]? = some before → before.Answers name id →
      s'.live[name]? = some id ∨ s'.live[name]? = none ∧
        ∃ other ∈ calls.set caller call', other.Settled := by
    intro k before beside given
    rcases inv.answered k before name id beside given with live | ⟨gone, settled⟩
    · rcases step.live_erases (inv.fits caller call present) live with still | ⟨none, settled, -⟩
      · exact .inl still
      · exact .inr ⟨none, call', mem_set_self present call', settled⟩
    · refine .inr ⟨?_, exists_mem_set present step.settled_mono settled⟩
      rw [Option.eq_none_iff_forall_ne_some]
      intro other live
      rcases step.live_inserts live with before | ⟨builds, -⟩
      · simp [show s.live[name]? = none from gone] at before
      · exact inv.not_settled_of_builds present builds settled
  rcases getElem?_set_cases present there with ⟨rfl, rfl⟩ | ⟨-, beside⟩
  · rcases step.answers_cases answers with before | live
    · exact earlier i call present before
    · exact .inl live
  · exact earlier i other beside answers

theorem agreed_step (inv : Invariant ⟨s, calls⟩) (present : calls[caller]? = some call)
    (step : CallStep caller s call s' call') {first second : Call}
    (one : (calls.set caller call')[i]? = some first)
    (two : (calls.set caller call')[j]? = some second) (answers : first.Answers name id)
    (also : second.Answers name id') : id = id' := by
  have fresh : ∀ (k : Nat) (other : Call) (given : ManagerId), (calls.set caller call')[k]? = some other →
      other.Answers name given → ∀ found, s'.live[name]? = some found → given = found := by
    intro k other given there answered found live
    rcases inv.answered_step present step there answered with same | ⟨none, -⟩
    · exact Option.some.inj (same.symm.trans live)
    · simp [none] at live
  have old : ∀ (k : Nat) (other : Call) (given : ManagerId), (calls.set caller call')[k]? = some other →
      other.Answers name given → s'.live[name]? = some given ∨
        ∃ before ∈ calls, before.Answers name given := by
    intro k other given there answered
    rcases getElem?_set_cases present there with ⟨rfl, rfl⟩ | ⟨-, beside⟩
    · rcases step.answers_cases answered with before | live
      · exact .inr ⟨call, List.mem_of_getElem? present, before⟩
      · exact .inl live
    · exact .inr ⟨other, List.mem_of_getElem? beside, answered⟩
  rcases old i first id one answers with live | ⟨before, member, given⟩
  · exact (fresh j second id' two also id live).symm
  · rcases old j second id' two also with live | ⟨earlier, among, taken⟩
    · exact fresh i first id one answers id' live
    · obtain ⟨k, there⟩ := List.mem_iff_getElem?.mp member
      obtain ⟨m, beside⟩ := List.mem_iff_getElem?.mp among
      exact inv.agreed k m before earlier name id id' there beside given taken

theorem known_step (inv : Invariant ⟨s, calls⟩) (step : CallStep caller s call s' call')
    (noted : (name, id) ∈ s'.connected) : id < s'.network.managers.length := by
  rcases step.connected_cases noted with before | ⟨-, -, known⟩
  · exact Nat.lt_of_lt_of_le (inv.known name id before) step.ages.grows
  · exact known

theorem accounted_step (inv : Invariant ⟨s, calls⟩) (present : calls[caller]? = some call)
    (step : CallStep caller s call s' call') (noted : (name, id) ∈ s'.connected)
    (started : s'.network.isStarted id = true) :
    s'.live[name]? = some id ∨ ∃ other ∈ calls.set caller call', other.Carries name id := by
  have own := mem_set_self present call'
  rcases step.connected_cases noted with before | ⟨-, carries, -⟩
  · have older := step.ages.stays id (inv.known name id before) started
    rcases inv.accounted name id before older with live | carried
    · rcases step.live_erases (inv.fits caller call present) live with still | ⟨-, -, carries⟩
      · exact .inl still
      · exact .inr ⟨call', own, carries⟩
    · by_cases live : s'.live[name]? = some id
      · exact .inl live
      · refine .inr (exists_mem_set present (fun carries => ?_) carried)
        rcases step.carries_cases carries with kept | registered | stopped
        · exact kept
        · exact absurd registered live
        · simp [stopped] at started
  · exact .inr ⟨call', own, carries⟩

/-- A step of a call keeps the invariant. -/
theorem callStep (inv : Invariant ⟨s, calls⟩) (present : calls[caller]? = some call)
    (step : CallStep caller s call s' call') : Invariant ⟨s', calls.set caller call'⟩ where
  fits i other there := by
    rcases getElem?_set_cases present there with ⟨rfl, rfl⟩ | ⟨apart, beside⟩
    · exact (inv.fits i call present).step step
    · exact inv.fits_other present step beside apart
  awaited _ _ _ _ _ := inv.awaited_step present step
  closers _ _ _ _ := inv.closers_step present step
  answered _ _ _ _ := inv.answered_step present step
  agreed _ _ _ _ _ _ _ := inv.agreed_step present step
  known _ _ := inv.known_step step
  accounted _ _ := inv.accounted_step present step

theorem arrive (inv : Invariant ⟨s, calls⟩) {fresh : Call} (holds : ∀ name, ¬ fresh.Holds name)
    (fetched : ∀ name, ¬ fresh.Fetched name) (answers : ∀ name id, ¬ fresh.Answers name id)
    (closer : ¬ fresh.Closer) : Invariant ⟨s, calls ++ [fresh]⟩ := by
  constructor
  case fits =>
    intro i call there
    rcases getElem?_concat_cases there with before | rfl
    · exact inv.fits i call before
    · exact fits_of_arrived holds fetched closer i
  case awaited =>
    intro i j call other name here there building
    rcases getElem?_concat_cases here with before | rfl
    · rcases getElem?_concat_cases there with earlier | rfl
      · exact inv.awaited i j call other name before earlier building
      · exact absurd building.holds (holds name)
    · exact Call.awaits_of_not_closer closer
  case closers =>
    intro i j call other here there closes also
    rcases getElem?_concat_cases here with before | rfl
    · rcases getElem?_concat_cases there with earlier | rfl
      · exact inv.closers i j call other before earlier closes also
      · exact absurd also closer
    · exact absurd closes closer
  case answered =>
    intro i call name id there given
    rcases getElem?_concat_cases there with before | rfl
    · rcases inv.answered i call name id before given with live | ⟨none, other, member, done⟩
      · exact .inl live
      · exact .inr ⟨none, other, List.mem_append_left _ member, done⟩
    · exact absurd given (answers name id)
  case agreed =>
    intro i j call other name id id' here there given taken
    rcases getElem?_concat_cases here with before | rfl
    · rcases getElem?_concat_cases there with earlier | rfl
      · exact inv.agreed i j call other name id id' before earlier given taken
      · exact absurd taken (answers name id')
    · exact absurd given (answers name id)
  case known => exact inv.known
  case accounted =>
    intro name id noted started
    rcases inv.accounted name id noted started with live | ⟨call, member, carries⟩
    · exact .inl live
    · exact .inr ⟨call, List.mem_append_left _ member, carries⟩

theorem outside (inv : Invariant ⟨s, calls⟩) {network : Network} (ages : s.network.Ages network) :
    Invariant ⟨{ s with host := s.host.setNetwork network }, calls⟩ where
  fits i call there :=
    have fits := inv.fits i call there
    ⟨fits.holder, fits.locked, fits.cleared, fits.closed, fits.left⟩
  awaited := inv.awaited
  closers := inv.closers
  answered := inv.answered
  agreed := inv.agreed
  known name id noted := Nat.lt_of_lt_of_le (inv.known name id noted) ages.grows
  accounted name id noted started :=
    inv.accounted name id noted (ages.stays id (inv.known name id noted) started)

theorem opened (network : Network) (settings : ClientsSettings) :
    Invariant (.opened network settings) := by
  constructor <;> simp [State.opened]

theorem step {before after : State} (inv : Invariant before) (step : Step before after) :
    Invariant after := by
  cases step with
  | lookup name =>
    exact inv.arrive (fun _ holds => holds.2) (fun _ fetched => fetched.2)
      (fun _ _ answers => answers.2) id
  | shutdown => exact inv.arrive (fun _ => id) (fun _ => id) (fun _ _ => id) id
  | call present step => exact inv.callStep present step
  | outside ages => exact inv.outside ages

/-- The invariant holds in every state that is reached. -/
theorem steps {before after : State} (inv : Invariant before) (run : Steps before after) :
    Invariant after := by
  induction run with
  | refl => exact inv
  | tail _ step ih => exact ih.step step

end Invariant

end HotRod.Interleaving
