import HotRod.Proofs.Registry.SharedCounters
set_option autoImplicit false

/-!
# Additions to bounded counters

The bounds of a counter are held against a sum that was first cut off to the range of the values. That
is as good as the sum over all integers, unless a bound is the end of the range: there no sum is
refused, and what goes beyond the end is lost.
-/

namespace HotRod

open HotRod.Action

theorem saturatingAdd_cases (left right : Int64) :
    Int64.maxValue.toInt < left.toInt + right.toInt ∧
        (saturatingAdd left right).toInt = Int64.maxValue.toInt ∨
      left.toInt + right.toInt < Int64.minValue.toInt ∧
        (saturatingAdd left right).toInt = Int64.minValue.toInt ∨
      Int64.minValue.toInt ≤ left.toInt + right.toInt ∧
        left.toInt + right.toInt ≤ Int64.maxValue.toInt ∧
        (saturatingAdd left right).toInt = left.toInt + right.toInt := by
  have cut := toInt_saturatingAdd left right
  have ends : Int64.minValue.toInt ≤ Int64.maxValue.toInt := by decide
  omega

namespace Bounds
variable {bounds : Bounds} {number : Int}

/-- Whether a number is within bounds, be it in the range of the values or beyond. -/
def Holds (bounds : Bounds) (number : Int) : Prop :=
  bounds.lower.toInt ≤ number ∧ number ≤ bounds.upper.toInt

/-- A number beyond the range of the values, on a side where the range ends with the bounds. -/
def Overlooks (bounds : Bounds) (number : Int) : Prop :=
  bounds.upper = Int64.maxValue ∧ Int64.maxValue.toInt < number ∨
    bounds.lower = Int64.minValue ∧ number < Int64.minValue.toInt

instance (bounds : Bounds) (number : Int) : Decidable (bounds.Holds number) :=
  inferInstanceAs (Decidable (_ ∧ _))

instance (bounds : Bounds) (number : Int) : Decidable (bounds.Overlooks number) :=
  inferInstanceAs (Decidable (_ ∨ _))

theorem not_holds_of_overlooks (overlooks : bounds.Overlooks number) : ¬ bounds.Holds number := by
  rintro ⟨above, below⟩
  rcases overlooks with ⟨-, beyond⟩ | ⟨-, beyond⟩
  · have highest := bounds.upper.toInt_le
    omega
  · have lowest := bounds.lower.minValue_le_toInt
    omega

/-- What is within bounds once it is cut off was so before, or was overlooked. -/
theorem contains_saturatingAdd_iff (left right : Int64) :
    bounds.Contains (saturatingAdd left right) ↔
      bounds.Holds (left.toInt + right.toInt) ∨ bounds.Overlooks (left.toInt + right.toInt) := by
  have lowerEnds := And.intro bounds.lower.minValue_le_toInt bounds.lower.toInt_le
  have upperEnds := And.intro bounds.upper.minValue_le_toInt bounds.upper.toInt_le
  unfold Contains Holds Overlooks
  rw [Int64.le_iff_toInt_le, Int64.le_iff_toInt_le, ← Int64.toInt_inj, ← Int64.toInt_inj]
  rcases saturatingAdd_cases left right with ⟨above, cut⟩ | ⟨below, cut⟩ | ⟨least, most, exact⟩
  · rw [cut]
    omega
  · rw [cut]
    omega
  · rw [exact]
    omega

theorem toInt_eq_iff_holds {left right : Int64} (within : bounds.Contains (saturatingAdd left right)) :
    (saturatingAdd left right).toInt = left.toInt + right.toInt ↔
      bounds.Holds (left.toInt + right.toInt) := by
  constructor
  · intro exact
    rw [← exact]
    exact ⟨Int64.le_iff_toInt_le.mp within.1, Int64.le_iff_toInt_le.mp within.2⟩
  · rintro ⟨above, below⟩
    have lower := bounds.lower.minValue_le_toInt
    have upper := bounds.upper.toInt_le
    rcases saturatingAdd_cases left right with ⟨beyond, -⟩ | ⟨beyond, -⟩ | ⟨-, -, exact⟩
    · omega
    · omega
    · exact exact

end Bounds

namespace Counters
variable {counters : Counters} {name : String} {counter : Counter} {bounds : Bounds}

theorem run_add_of_bounded (there : counters[name]? = some counter)
    (bounded : counter.definition.bounds = some bounds) (delta : Int64) :
    (add name delta).run counters =
      if bounds.Contains (saturatingAdd counter.value delta) then
        ⟨counters.insert name { counter with value := saturatingAdd counter.value delta }, [],
          .ok (saturatingAdd counter.value delta)⟩
      else ⟨counters, [], .error (.counterOutOfBounds name bounds.lower bounds.upper)⟩ := by
  rw [run_add, there]
  simp only [bounded, checkBounds]
  by_cases within : bounds.Contains (saturatingAdd counter.value delta)
  · rw [if_pos within, if_pos within]
  · rw [if_neg within, if_neg within]

end Counters

/-- In every site that comes about, an addition to a bounded counter is done if the sum over all integers
is within the bounds, or is beyond the range of the values at an end that is a bound. Then the sum is
stored and given, cut off at that end, so that it is exact only within the bounds. Any other addition is
refused and changes nothing. -/
theorem Site.Reachable.bounded_addition {site : Site} (reachable : site.Reachable) {name : String}
    {counter : Counter} {bounds : Bounds}
    (there : site.network.cluster.counters[name]? = some counter)
    (bounded : counter.definition.bounds = some bounds) (handle : CounterHandle) (delta : Int64) :
    let sum := counter.value.toInt + delta.toInt
    let done := (handle.run (Counters.add name delta)).run site.network
    bounds.Contains counter.value ∧
    ((∃ value, done.result = .ok value) ↔ bounds.Holds sum ∨ bounds.Overlooks sum) ∧
    (((∃ value, done.result = .ok value) ↔ bounds.Holds sum) ↔ ¬ bounds.Overlooks sum) ∧
    (∀ value, done.result = .ok value →
      value.toInt = max Int64.minValue.toInt (min sum Int64.maxValue.toInt) ∧
      (value.toInt = sum ↔ bounds.Holds sum) ∧
      done.state = site.network.setCluster (CounterHandle.setCounters
        (site.network.cluster.counters.insert name { counter with value }) site.network.cluster)) ∧
    ∀ error, done.result = .error error →
      error = .counterOutOfBounds name bounds.lower bounds.upper ∧ done.state = site.network := by
  intro sum done
  obtain ⟨deeds, run⟩ := reachable_iff.mp reachable
  have sound := run.counters.stands.sound name counter there bounds bounded
  have ran := Counters.run_add_of_bounded there bounded delta
  have decided := bounds.contains_saturatingAdd_iff counter.value delta
  have apart := @Bounds.not_holds_of_overlooks bounds sum
  have done_eq : done = _ := CounterHandle.run_run handle (Counters.add name delta) site.network
  by_cases within : bounds.Contains (saturatingAdd counter.value delta)
  · rw [if_pos within] at ran
    rw [done_eq, ran]
    have succeeds : ∃ value : Int64, (Except.ok (saturatingAdd counter.value delta) :
      Except RemoteError Int64) = .ok value := ⟨_, rfl⟩
    have holds_or := decided.mp within
    refine ⟨sound.2, iff_of_true succeeds holds_or, ?_, ?_, nofun⟩
    · rw [iff_true_left succeeds]
      exact ⟨fun holds overlooks => apart overlooks holds, holds_or.resolve_right⟩
    · rintro _ ⟨⟩
      exact ⟨toInt_saturatingAdd _ _, Bounds.toInt_eq_iff_holds within, rfl⟩
  · rw [if_neg within] at ran
    rw [done_eq, ran]
    have fails : ¬ ∃ value : Int64, (Except.error (.counterOutOfBounds name bounds.lower bounds.upper) :
      Except RemoteError Int64) = .ok value := nofun
    obtain ⟨outside, seen⟩ := not_or.mp fun either => within (decided.mpr either)
    refine ⟨sound.2, iff_of_false fails (not_or.mpr ⟨outside, seen⟩), ?_, nofun, ?_⟩
    · exact iff_of_true (iff_of_false fails outside) seen
    · rintro _ ⟨⟩
      exact ⟨rfl, rfl⟩

def definedSite (definition : CounterDefinition) : Site where
  network := (((⟨none⟩ : CounterHandle).run (Counters.define "n" definition)).run {}).state

theorem reachable_definedSite (definition : CounterDefinition) :
    (definedSite definition).Reachable := by
  have defined : Site.Step {} (definedSite definition) :=
    .network (.defineCounter ⟨none⟩ "n" definition)
  exact .single defined

/-- At a bound within the range, the sum to the bound is exact and the next one is refused. -/
theorem addition_stops_at_bound :
    let site := definedSite ⟨4, some ⟨-5, 5⟩⟩
    let add (delta : Int64) := ((⟨some 0⟩ : CounterHandle).run (Counters.add "n" delta)).run site.network
    (∃ value, (add 1).result = .ok value ∧ value.toInt = 5) ∧
      (¬ ∃ value, (add 2).result = .ok value) ∧ ¬ ∃ value, (add (-10)).result = .ok value := by
  intro site add
  have there : site.network.cluster.counters["n"]? = some ⟨⟨4, some ⟨-5, 5⟩⟩, 4⟩ := by decide +kernel
  have reachable : site.Reachable := reachable_definedSite _
  have law := @Site.Reachable.bounded_addition site reachable "n" _ _ there rfl ⟨some 0⟩
  refine ⟨?_, ?_, ?_⟩
  · obtain ⟨-, succeeds, -, exact, -⟩ := law 1
    obtain ⟨value, given⟩ := succeeds.mpr (.inl (by decide))
    exact ⟨value, given, (exact value given).2.1.mpr (by decide)⟩
  · obtain ⟨-, succeeds, -⟩ := law 2
    exact mt succeeds.mp (by decide)
  · obtain ⟨-, succeeds, -⟩ := law (-10)
    exact mt succeeds.mp (by decide)

/-- At a bound that is the end of the range, the next sum is not refused but lost. -/
theorem addition_runs_over_last_bound :
    let site := definedSite ⟨Int64.maxValue, some ⟨0, Int64.maxValue⟩⟩
    let done := ((⟨none⟩ : CounterHandle).run (Counters.add "n" 1)).run site.network
    site.Reachable ∧
      site.network.cluster.counters["n"]? =
        some ⟨⟨Int64.maxValue, some ⟨0, Int64.maxValue⟩⟩, Int64.maxValue⟩ ∧
      ¬ (⟨0, Int64.maxValue⟩ : Bounds).Holds (Int64.maxValue.toInt + (1 : Int64).toInt) ∧
      done.result = .ok Int64.maxValue := by
  intro site done
  refine ⟨reachable_definedSite _, by decide +kernel, by decide, ?_⟩
  exact eq_ok_of_toOption (by decide +kernel)

end HotRod
