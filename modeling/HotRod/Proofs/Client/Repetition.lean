import HotRod.Proofs.Client.Fresh
import HotRod.Proofs.Schema.Registration
set_option autoImplicit false

/-!
# Assembling a client again

Whatever a marshaller's context holds, a registration writes the same files and marshallers over it, up
to the same place if it fails on the way. Writing them once more over what they were written over changes
nothing, so that an assembly can be repeated, and a failed one leaves nothing to clear away.
-/

namespace HotRod

open HotRod.Action

namespace SerializationContext

def learn (files : List (String × String)) (marshallers : List MessageMarshaller)
    (context : SerializationContext) : SerializationContext :=
  (context.putFiles files).putMarshallers marshallers

theorem learn_append (files more : List (String × String))
    (marshallers others : List MessageMarshaller) (context : SerializationContext) :
    (context.learn files marshallers).learn more others =
      context.learn (files ++ more) (marshallers ++ others) := by
  simp [learn, putFiles, putMarshallers, KeyMap.extend, List.foldl_append]

/-- What is known is not learned again. -/
theorem learn_learn (files : List (String × String)) (marshallers : List MessageMarshaller)
    (context : SerializationContext) :
    (context.learn files marshallers).learn files marshallers = context.learn files marshallers := by
  unfold learn putFiles putMarshallers
  congr 1
  · exact KeyMap.extend_extend _ _
  · exact KeyMap.extend_extend _ _

/-- Over every context the same is written, and the result is the same. The rest of a state stands beside
the context, and what becomes of it is not up to the context either. -/
def Overwrites {σ ρ α : Type} (put : SerializationContext → ρ → σ) (action : Action σ ClientError α) :
    Prop :=
  ∀ rest, ∃ files marshallers after result, ∀ context,
    (action.run (put context rest)).state = put (context.learn files marshallers) after ∧
      (action.run (put context rest)).result = result

section
variable {σ ρ α β : Type} {put : SerializationContext → ρ → σ}

theorem overwrites_pure (value : α) : Overwrites put (pure value : Action σ ClientError α) :=
  fun rest => ⟨[], [], rest, .ok value, fun _ => ⟨rfl, rfl⟩⟩

theorem overwrites_emit (event : Event) : Overwrites put (emit event : Action σ ClientError Unit) :=
  fun rest => ⟨[], [], rest, .ok (), fun _ => ⟨rfl, rfl⟩⟩

theorem overwrites_building {seed : α} (action : Action α ClientError Unit) :
    Overwrites put (building seed action : Action σ ClientError α) :=
  fun rest => ⟨[], [], rest, _, fun _ => ⟨rfl, rfl⟩⟩

namespace Overwrites

/-- What a sequence writes is cut off where its first part fails, which is the same for all contexts. -/
theorem bind {first : Action σ ClientError α} {next : α → Action σ ClientError β}
    (writes : Overwrites put first) (rest : ∀ value, Overwrites put (next value)) :
    Overwrites put (first >>= next) := by
  intro start
  obtain ⟨files, marshallers, middle, result, written⟩ := writes start
  cases result with
  | error error =>
    refine ⟨files, marshallers, middle, .error error, fun context => ?_⟩
    obtain ⟨left, failed⟩ := written context
    obtain ⟨states, results⟩ := @same_bind_of_error σ ClientError α β first next _ _ failed
    exact ⟨states.trans left, results⟩
  | ok value =>
    obtain ⟨more, others, after, result, continued⟩ := rest value middle
    refine ⟨files ++ more, marshallers ++ others, after, result, fun context => ?_⟩
    obtain ⟨left, succeeded⟩ := written context
    obtain ⟨states, results⟩ := @same_bind_of_ok σ ClientError α β first next _ _ succeeded
    rw [states, results, left, ← learn_append]
    exact continued _

theorem get_bind {next : σ → Action σ ClientError α}
    (same : ∀ context rest, next (put context rest) = next (put {} rest))
    (each : ∀ rest, Overwrites put (next (put {} rest))) : Overwrites put (get >>= next) := by
  intro rest
  obtain ⟨files, marshallers, after, result, written⟩ := each rest rest
  refine ⟨files, marshallers, after, result, fun context => ?_⟩
  rw [run_bind_of_ok (run_get _), same context rest]
  exact written context

theorem forEach {items : List α} {act : α → Action σ ClientError Unit}
    (each : ∀ item, Overwrites put (act item)) : Overwrites put (forEach items act) := by
  induction items with
  | nil => exact overwrites_pure ()
  | cons item items ih => exact (each item).bind fun _ => ih

end Overwrites

end

abbrev alone (context : SerializationContext) (_ : Unit) : SerializationContext := context

theorem overwrites_registerFile (name contents : String) :
    Overwrites alone (registerFile name contents) := by
  intro rest
  by_cases valid : isSchemaName name = true
  · refine ⟨[(name, contents)], [], (), .ok (), fun context => ?_⟩
    have registered : ((registerFile name contents).run context).result = .ok () := by
      rw [result_registerFile, if_pos valid]
    exact ⟨(completes_registerFile.mp (completes_of_result registered)).2.symm, registered⟩
  · refine ⟨[], [], (), .error (.invalidSchema name), fun context => ?_⟩
    rw [registerFile, if_neg valid]
    exact ⟨rfl, rfl⟩

theorem overwrites_registerMarshaller (marshaller : MessageMarshaller) :
    Overwrites alone (registerMarshaller marshaller) := by
  refine fun rest => ⟨[], [marshaller], (), .ok (), fun context => ?_⟩
  have registered := result_registerMarshaller marshaller context
  exact ⟨(completes_registerMarshaller.mp (completes_of_result registered)).symm, registered⟩

theorem overwrites_registerFiles (files : List (String × String)) :
    Overwrites alone (registerFiles files) :=
  .forEach fun _ => overwrites_registerFile _ _

theorem overwrites_registerMarshallers (marshallers : List MessageMarshaller) :
    Overwrites alone (registerMarshallers marshallers) :=
  .forEach overwrites_registerMarshaller

end SerializationContext

open SerializationContext (Overwrites overwrites_emit overwrites_pure overwrites_building)

namespace SchemaTarget

theorem overwrites_inContext {α : Type} {action : Action SerializationContext ClientError α}
    (writes : Overwrites SerializationContext.alone action) : Overwrites mk (inContext action) := by
  intro bag
  obtain ⟨files, marshallers, _, result, written⟩ := writes ()
  refine ⟨files, marshallers, bag, result, fun context => ⟨?_, (written context).2⟩⟩
  exact congrArg (setContext · ⟨context, bag⟩) (written context).1

theorem overwrites_embed (files : List (String × String)) :
    Overwrites mk (Action.modify (embed · files)) :=
  fun bag => ⟨[], [], (embed ⟨{}, bag⟩ files).properties, .ok (), fun _ => ⟨rfl, rfl⟩⟩

theorem overwrites_registerInitializer (initializer : SchemaInitializer) :
    Overwrites mk (registerInitializer initializer) := by
  unfold registerInitializer
  refine (overwrites_inContext (SerializationContext.overwrites_registerFile _ _)).bind fun _ => ?_
  refine (overwrites_inContext (SerializationContext.overwrites_registerMarshallers _)).bind fun _ => ?_
  exact overwrites_embed _

theorem overwrites_registerEmbedded : Overwrites mk registerEmbedded :=
  .get_bind (fun _ _ => rfl) fun _ =>
    overwrites_inContext (SerializationContext.overwrites_registerFiles _)

theorem overwrites_registerSource (source : SchemaSource) :
    Overwrites mk (registerSource source) := by
  unfold registerSource
  refine (overwrites_inContext (SerializationContext.overwrites_registerFiles _)).bind fun _ => ?_
  exact overwrites_embed _

end SchemaTarget

theorem SchemaRegistration.overwrites_register (schemas : SchemaRegistration) :
    Overwrites SchemaTarget.mk schemas.register := by
  unfold register
  refine (Overwrites.forEach SchemaTarget.overwrites_registerInitializer).bind fun _ => ?_
  refine SchemaTarget.overwrites_registerEmbedded.bind fun _ => ?_
  refine (Overwrites.forEach SchemaTarget.overwrites_registerSource).bind fun _ => ?_
  refine (SchemaTarget.overwrites_inContext
    (SerializationContext.overwrites_registerMarshallers _)).bind fun _ => ?_
  exact fun bag => ⟨[], [], bag, .ok (), fun _ => ⟨rfl, rfl⟩⟩

namespace ClientDefinition

def withContext (definition : ClientDefinition) (context : SerializationContext) (_ : Unit) :
    ClientDefinition :=
  { definition with marshaller := some (.protoStream context) }

variable (definition : ClientDefinition)

theorem overwrites_registerSchemas : Overwrites definition.withContext registerSchemas := by
  intro rest
  obtain ⟨files, marshallers, bag, result, written⟩ :=
    definition.schemas.overwrites_register definition.properties
  refine ⟨files, marshallers, (), result.map fun _ => bag, fun context => ?_⟩
  obtain ⟨left, given⟩ := written context
  refine ⟨congrArg (fun target : SchemaTarget => definition.withContext target.context ()) left, ?_⟩
  let done := definition.schemas.register.run ⟨context, definition.properties⟩
  change (done.result.map fun _ => done.state.properties) = _
  rw [left, given]

variable (files : Files) (settings : RuntimeSettings) (name : String)

theorem overwrites_assemble : Overwrites definition.withContext (assemble files settings name) := by
  unfold assemble
  refine (overwrites_emit _).bind fun _ => Overwrites.get_bind (fun _ _ => rfl) fun _ => ?_
  refine definition.overwrites_registerSchemas.bind fun own => ?_
  cases settings.clients[name]? with
  | none => exact (overwrites_building _).bind fun _ => overwrites_pure _
  | some runtime =>
    refine Overwrites.bind (.forEach fun _ => overwrites_emit _) fun _ => ?_
    exact (overwrites_building _).bind fun _ => overwrites_pure _

/-- A client can be assembled again, after a failure too: the result is the same, the context stays as it
was left, and what it held at first makes no difference to the result. -/
theorem assemble_again (context other : SerializationContext) :
    let assembled (start : ClientDefinition) := (assemble files settings name).run start
    let first := assembled { definition with marshaller := some (.protoStream context) }
    (assembled first.state).result = first.result ∧
    (assembled first.state).state = first.state ∧
    (assembled { definition with marshaller := some (.protoStream other) }).result = first.result := by
  obtain ⟨learned, marshallers, _, result, written⟩ := definition.overwrites_assemble files settings name ()
  obtain ⟨left, given⟩ := written context
  obtain ⟨left', given'⟩ := written (context.learn learned marshallers)
  rw [SerializationContext.learn_learn] at left'
  have again := congrArg (assemble files settings name).run left
  refine ⟨?_, ?_, (written other).2.trans given.symm⟩
  · exact (congrArg Outcome.result again).trans (given'.trans given.symm)
  · exact (congrArg Outcome.state again).trans (left'.trans left.symm)

end ClientDefinition

end HotRod
