import HotRod.Proofs.Registry.Deeds
set_option autoImplicit false

/-!
# Shared maps

What caches are to those who use them: one finite map for each name, which all share, and which of them
are closed to writers. A manager reaches them from its connection until it is stopped, and belongs to the
registry that connected it, if one did. A registry that was shut down gives no manager, and those that
belong to it are stopped for good.
-/

namespace HotRod

structure Tenure where
  /-- The place of the registry that the manager belongs to. -/
  owner : Option Nat
  started : Bool

structure SharedMaps where
  entries : String → KeyMap ByteArray := fun _ => ∅
  readOnly : String → Bool := fun _ => false
  tenures : List Tenure := []
  /-- The registries that were shut down. -/
  shut : Nat → Bool := fun _ => false

namespace SharedMaps
variable {α : Type} {maps after : SharedMaps} {deed : Deed} {deeds : List Deed} {id : ManagerId}
  {place : Nat}

def isStarted (maps : SharedMaps) (id : ManagerId) : Bool :=
  maps.tenures[id]?.elim false Tenure.started

def owner? (maps : SharedMaps) (id : ManagerId) : Option Nat := maps.tenures[id]?.bind Tenure.owner

def serve (cache : String) (request : CacheRequest α) (maps : SharedMaps) :
    Except RemoteError α × SharedMaps :=
  match request.change? with
  | none => (.ok (request.answer (maps.entries cache)), maps)
  | some change =>
    if maps.readOnly cache then (.error (.rejected cache "cache is read-only"), maps)
    else
      (.ok (request.answer (maps.entries cache)),
        { maps with
          entries := Function.update maps.entries cache (change (maps.entries cache)) })

def ask (handle : CacheHandle) (request : CacheRequest α) (maps : SharedMaps) :
    Except RemoteError α × SharedMaps :=
  if maps.isStarted handle.manager then maps.serve handle.cache request else (.error .stopped, maps)

def close (cache : String) (maps : SharedMaps) : SharedMaps :=
  { maps with readOnly := Function.update maps.readOnly cache true }

/-- Managers are added, and schema files are stored in their cache. -/
def grow (owner : Option Nat) (added : List Bool) (stored : List (String × String))
    (maps : SharedMaps) : SharedMaps :=
  { maps with
    entries := Function.update maps.entries metadataCache
      ((maps.entries metadataCache).extend (stored.map fun (name, text) => (name, text.toUTF8)))
    tenures := maps.tenures ++ added.map (⟨owner, ·⟩) }

def stop (id : ManagerId) (maps : SharedMaps) : SharedMaps :=
  { maps with tenures := maps.tenures.modify id ({ · with started := false }) }

/-- A registry takes no more calls, and all managers that belong to it are stopped. -/
def shutDown (place : Nat) (maps : SharedMaps) : SharedMaps :=
  { maps with
    tenures := maps.tenures.map fun tenure =>
      { tenure with started := tenure.started && decide (tenure.owner ≠ some place) }
    shut := Function.update maps.shut place true }

/-- What each deed answers and leaves. -/
inductive Does : SharedMaps → Deed → SharedMaps → Prop
  | ask {maps : SharedMaps} {α : Type} (handle : CacheHandle) (request : CacheRequest α) :
      Does maps (.asked handle request (maps.ask handle request).1) (maps.ask handle request).2
  | serve {maps : SharedMaps} {α : Type} (cache : String) (request : CacheRequest α) :
      Does maps (.served cache request (maps.serve cache request).1) (maps.serve cache request).2
  | count {maps : SharedMaps} {α : Type} (handle : CounterHandle) (request : CounterRequest α)
      (answer : Except RemoteError α) : Does maps (.counted handle request answer) maps
  | close {maps : SharedMaps} (cache : String) : Does maps (.closed cache) (maps.close cache)
  | connect {maps : SharedMaps} :
      Does maps (.connected (.ok maps.tenures.length)) (maps.grow none [true] [])
  | miss {maps : SharedMaps} (error : RemoteError) : Does maps (.connected (.error error)) maps
  | stop {maps : SharedMaps} {id : ManagerId} : id < maps.tenures.length →
      Does maps (.stopped id) (maps.stop id)
  | push {maps : SharedMaps} (id : ManagerId) (files : List (String × String)) :
      (files ≠ [] → maps.isStarted id = true ∧ maps.readOnly metadataCache = false) →
      Does maps (.pushed id files (.ok files.length)) (maps.grow none [] files)
  | lose {maps : SharedMaps} (id : ManagerId) (files : List (String × String)) (error : ClientError) :
      Does maps (.pushed id files (.error error)) maps
  | call {maps : SharedMaps} {place : Nat} (given : Except ClientError (Option ManagerId))
      (added : List Bool) (stored : List (String × String)) : maps.shut place = false →
      (stored ≠ [] → maps.readOnly metadataCache = false) →
      (∀ id, given = .ok (some id) → (maps.grow (some place) added stored).owner? id = some place) →
      Does maps (.called place given) (maps.grow (some place) added stored)
  | refuse {maps : SharedMaps} {place : Nat} : maps.shut place = true →
      Does maps (.called place (.error .registryClosed)) maps
  | shutDown {maps : SharedMaps} (place : Nat) : Does maps (.shutDown place) (maps.shutDown place)
  | other {maps : SharedMaps} : Does maps .other maps

abbrev Run (deeds : List Deed) (maps : SharedMaps) : Prop := HotRod.Run Does {} deeds maps

@[simp] theorem tenures_serve (cache : String) (request : CacheRequest α) (maps : SharedMaps) :
    (maps.serve cache request).2.tenures = maps.tenures := by
  unfold serve
  cases request.change? with
  | none => rfl
  | some change => by_cases closed : maps.readOnly cache = true <;> simp [closed]

@[simp] theorem shut_serve (cache : String) (request : CacheRequest α) (maps : SharedMaps) :
    (maps.serve cache request).2.shut = maps.shut := by
  unfold serve
  cases request.change? with
  | none => rfl
  | some change => by_cases closed : maps.readOnly cache = true <;> simp [closed]

@[simp] theorem tenures_ask (handle : CacheHandle) (request : CacheRequest α) (maps : SharedMaps) :
    (maps.ask handle request).2.tenures = maps.tenures := by
  by_cases started : maps.isStarted handle.manager = true <;> simp [ask, started]

@[simp] theorem shut_ask (handle : CacheHandle) (request : CacheRequest α) (maps : SharedMaps) :
    (maps.ask handle request).2.shut = maps.shut := by
  by_cases started : maps.isStarted handle.manager = true <;> simp [ask, started]

@[simp] theorem shut_shutDown (place : Nat) (maps : SharedMaps) :
    (maps.shutDown place).shut = Function.update maps.shut place true := rfl

theorem grow_nil (owner : Option Nat) (maps : SharedMaps) : maps.grow owner [] [] = maps := by
  rw [grow, List.map_nil, KeyMap.extend_nil, Function.update_eq_self, List.map_nil, List.append_nil]

section Tenures
variable {owner : Option Nat} {added : List Bool} {stored : List (String × String)}

theorem lt_length_of_owner? (owned : maps.owner? id = some place) : id < maps.tenures.length := by
  by_contra beyond
  rw [owner?, List.getElem?_eq_none (Nat.le_of_not_lt beyond)] at owned
  contradiction

theorem getElem?_grow_of_lt (there : id < maps.tenures.length) :
    (maps.grow owner added stored).tenures[id]? = maps.tenures[id]? :=
  List.getElem?_append_left there

theorem getElem?_grow_length_add (n : Nat) :
    (maps.grow owner added stored).tenures[maps.tenures.length + n]? =
      added[n]?.map (⟨owner, ·⟩) := by
  rw [grow, List.getElem?_append_right (Nat.le_add_right _ n), Nat.add_sub_cancel_left,
    List.getElem?_map]

theorem owner?_grow_of_owner? (owned : maps.owner? id = some place) :
    (maps.grow owner added stored).owner? id = some place := by
  rw [owner?, getElem?_grow_of_lt (lt_length_of_owner? owned)]
  exact owned

theorem owner?_of_grow (owned : (maps.grow owner added stored).owner? id = some place) :
    maps.owner? id = some place ∨ maps.tenures.length ≤ id ∧ owner = some place := by
  by_cases there : id < maps.tenures.length
  · left
    rwa [owner?, getElem?_grow_of_lt there] at owned
  · right
    obtain ⟨n, rfl⟩ := Nat.exists_eq_add_of_le (Nat.le_of_not_lt there)
    rw [owner?, getElem?_grow_length_add] at owned
    refine ⟨Nat.le_add_right _ n, ?_⟩
    cases found : added[n]? with
    | none =>
      rw [found] at owned
      contradiction
    | some started =>
      rw [found] at owned
      exact owned

@[simp] theorem owner?_stop (stopped : ManagerId) : (maps.stop stopped).owner? id = maps.owner? id := by
  rw [owner?, owner?, stop, List.getElem?_modify]
  cases maps.tenures[id]? with
  | none => rfl
  | some tenure => by_cases same : stopped = id <;> simp [same]

theorem isStarted_stop (stopped : ManagerId) :
    (maps.stop stopped).isStarted id = (maps.isStarted id && decide (stopped ≠ id)) := by
  rw [isStarted, isStarted, stop, List.getElem?_modify]
  cases maps.tenures[id]? with
  | none => rfl
  | some tenure => by_cases same : stopped = id <;> simp [same]

@[simp] theorem owner?_shutDown (place : Nat) : (maps.shutDown place).owner? id = maps.owner? id := by
  rw [owner?, owner?, shutDown, List.getElem?_map]
  cases maps.tenures[id]? <;> rfl

theorem isStarted_shutDown (place : Nat) :
    (maps.shutDown place).isStarted id =
      (maps.isStarted id && decide (maps.owner? id ≠ some place)) := by
  rw [isStarted, isStarted, owner?, shutDown, List.getElem?_map]
  cases maps.tenures[id]? <;> rfl

end Tenures

namespace Does

theorem owner? (does : Does maps deed after) (owned : maps.owner? id = some place) :
    after.owner? id = some place := by
  cases does with
  | ask handle request =>
    rw [SharedMaps.owner?, tenures_ask]
    exact owned
  | serve cache request =>
    rw [SharedMaps.owner?, tenures_serve]
    exact owned
  | connect => exact owner?_grow_of_owner? owned
  | push => exact owner?_grow_of_owner? owned
  | call => exact owner?_grow_of_owner? owned
  | stop => rwa [owner?_stop]
  | shutDown => rwa [owner?_shutDown]
  | _ => exact owned

theorem shut (does : Does maps deed after) (shut : maps.shut place = true) :
    after.shut place = true := by
  cases does with
  | ask handle request => rwa [shut_ask]
  | serve cache request => rwa [shut_serve]
  | shutDown other =>
    rw [shut_shutDown]
    by_cases same : place = other
    · rw [same, Function.update_self]
    · rwa [Function.update_of_ne same]
  | _ => exact shut

theorem isStarted (does : Does maps deed after) (there : id < maps.tenures.length)
    (stopped : maps.isStarted id = false) :
    id < after.tenures.length ∧ after.isStarted id = false := by
  have grown (owner : Option Nat) (added : List Bool) (stored : List (String × String)) :
      id < (maps.grow owner added stored).tenures.length ∧
        (maps.grow owner added stored).isStarted id = false := by
    refine ⟨?_, ?_⟩
    · rw [grow, List.length_append]
      exact Nat.lt_add_right _ there
    · rw [SharedMaps.isStarted, getElem?_grow_of_lt there]
      exact stopped
  cases does with
  | ask handle request =>
    rw [SharedMaps.isStarted, tenures_ask]
    exact ⟨there, stopped⟩
  | serve cache request =>
    rw [SharedMaps.isStarted, tenures_serve]
    exact ⟨there, stopped⟩
  | connect => exact grown _ _ _
  | push => exact grown _ _ _
  | call => exact grown _ _ _
  | stop =>
    rw [isStarted_stop, stopped]
    exact ⟨Nat.lt_of_lt_of_eq there (List.length_modify _ _ _).symm, rfl⟩
  | shutDown =>
    rw [isStarted_shutDown, stopped]
    exact ⟨Nat.lt_of_lt_of_eq there (List.length_map _).symm, rfl⟩
  | _ => exact ⟨there, stopped⟩

end Does

structure Remembers (deeds : List Deed) (maps : SharedMaps) : Prop where
  shut : ∀ place, .shutDown place ∈ deeds → maps.shut place = true
  given : ∀ place id, .called place (.ok (some id)) ∈ deeds → maps.owner? id = some place
  stopped : ∀ id, .stopped id ∈ deeds → id < maps.tenures.length ∧ maps.isStarted id = false
  retired : ∀ place id, maps.shut place = true → maps.owner? id = some place →
    maps.isStarted id = false

namespace Remembers

theorem start : Remembers [] {} where
  shut _ member := absurd member List.not_mem_nil
  given _ _ member := absurd member List.not_mem_nil
  stopped _ member := absurd member List.not_mem_nil
  retired _ _ shut := Bool.noConfusion shut

theorem retired_of_does (remembers : Remembers deeds maps) (does : Does maps deed after)
    (shut : after.shut place = true) (owned : after.owner? id = some place) :
    after.isStarted id = false := by
  have grown {owner : Option Nat} {added : List Bool} {stored : List (String × String)}
      (shut : maps.shut place = true) (opened : owner ≠ some place)
      (owned : (maps.grow owner added stored).owner? id = some place) :
      (maps.grow owner added stored).isStarted id = false := by
    have before := (owner?_of_grow owned).resolve_right fun new => opened new.2
    rw [SharedMaps.isStarted, getElem?_grow_of_lt (lt_length_of_owner? before)]
    exact remembers.retired place id shut before
  cases does with
  | ask handle request =>
    rw [shut_ask] at shut
    rw [SharedMaps.owner?, tenures_ask] at owned
    rw [SharedMaps.isStarted, tenures_ask]
    exact remembers.retired place id shut owned
  | serve cache request =>
    rw [shut_serve] at shut
    rw [SharedMaps.owner?, tenures_serve] at owned
    rw [SharedMaps.isStarted, tenures_serve]
    exact remembers.retired place id shut owned
  | connect => exact grown shut nofun owned
  | push => exact grown shut nofun owned
  | @call other given added stored opened =>
    refine grown shut ?_ owned
    rintro ⟨⟩
    rw [SharedMaps.grow, opened] at shut
    contradiction
  | stop =>
    rw [owner?_stop] at owned
    rw [isStarted_stop, remembers.retired place id shut owned]
    rfl
  | shutDown other =>
    rw [owner?_shutDown] at owned
    rw [isStarted_shutDown, owned]
    by_cases same : place = other
    · simp [same]
    · rw [shut_shutDown, Function.update_of_ne same] at shut
      rw [remembers.retired place id shut owned]
      rfl
  | _ => exact remembers.retired place id shut owned

theorem does (remembers : Remembers deeds maps) (does : Does maps deed after) :
    Remembers (deeds ++ [deed]) after where
  shut place member := by
    rcases List.mem_append.mp member with earlier | now
    · exact does.shut (remembers.shut place earlier)
    · obtain rfl := List.mem_singleton.mp now
      cases does
      rw [shut_shutDown, Function.update_self]
  given place id member := by
    rcases List.mem_append.mp member with earlier | now
    · exact does.owner? (remembers.given place id earlier)
    · obtain rfl := List.mem_singleton.mp now
      cases does with
      | call _ _ _ _ _ given => exact given id rfl
  stopped id member := by
    rcases List.mem_append.mp member with earlier | now
    · obtain ⟨there, stopped⟩ := remembers.stopped id earlier
      exact does.isStarted there stopped
    · obtain rfl := List.mem_singleton.mp now
      cases does with
      | stop there =>
        refine ⟨Nat.lt_of_lt_of_eq there (List.length_modify _ _ _).symm, ?_⟩
        simp [isStarted_stop]
  retired _ _ shut owned := remembers.retired_of_does does shut owned

end Remembers

theorem Run.remembers (run : Run deeds maps) : Remembers deeds maps := by
  induction run with
  | start => exact .start
  | deed _ does ih => exact ih.does does

/-- Who was stopped is stopped for good, and so is who was given by a registry that was shut down. -/
theorem Run.isStarted_of_wasStopped (run : Run deeds maps) (stopped : WasStopped deeds id) :
    maps.isStarted id = false := by
  rcases stopped with itself | ⟨place, shut, given⟩
  · exact (run.remembers.stopped id itself).2
  · exact run.remembers.retired place id (run.remembers.shut place shut)
      (run.remembers.given place id given)

end SharedMaps

end HotRod
