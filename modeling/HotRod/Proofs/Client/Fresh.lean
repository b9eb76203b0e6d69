import HotRod.Proofs.Action.Agree
import HotRod.Proofs.Action.Keeps
import HotRod.Proofs.KeyMap
import HotRod.Settings.Assembly
set_option autoImplicit false

/-!
# What marshallers have learned

Assembling a client changes nothing in the settings but what its marshaller has learned, and what any
marshaller has learned before makes no difference to it. Settings are compared by their fresh form,
in which no marshaller has learned anything.
-/

namespace HotRod

open HotRod.Action

/-- The marshaller as it was before anything was registered with it. -/
def Marshaller.fresh : Marshaller → Marshaller
  | protoStream _ => protoStream {}
  | utf8 => utf8
  | other mediaType => other mediaType

def ClientDefinition.fresh (definition : ClientDefinition) : ClientDefinition :=
  { definition with marshaller := definition.marshaller.map Marshaller.fresh }

def ClientsSettings.fresh (settings : ClientsSettings) : ClientsSettings :=
  { settings with definitions := settings.definitions.map fun _ => ClientDefinition.fresh }

namespace SerializationContext

theorem result_registerFile (name contents : String) (context : SerializationContext) :
    ((registerFile name contents).run context).result =
      if isSchemaName name then .ok () else .error (.invalidSchema name) := by
  unfold registerFile
  by_cases valid : isSchemaName name = true
  · rw [if_pos valid, if_pos valid, run_bind_of_ok (run_get context), run_bind_of_ok (run_modify _ _)]
    cases context.files[name]? with
    | none => rfl
    | some previous => by_cases changed : previous ≠ contents <;> simp [changed]
  · rw [if_neg valid, if_neg valid]
    rfl

theorem result_registerMarshaller (marshaller : MessageMarshaller) (context : SerializationContext) :
    ((registerMarshaller marshaller).run context).result = .ok () := by
  unfold registerMarshaller
  rw [run_bind_of_ok (run_get context), run_bind_of_ok (run_modify _ _)]
  by_cases known : context.marshallers.contains marshaller.typeName = true
  · rw [if_pos known]
    rfl
  · rw [if_neg known]
    rfl

theorem agree_registerFiles (files : List (String × String)) :
    (registerFiles files).Agree (fun _ _ => True) (registerFiles files) := by
  apply Agree.forEach
  intro file context context' _
  rw [result_registerFile, result_registerFile]
  exact ⟨rfl, trivial⟩

theorem agree_registerFile (name contents : String) :
    (registerFile name contents).Agree (fun _ _ => True) (registerFile name contents) := by
  intro context context' _
  rw [result_registerFile, result_registerFile]
  exact ⟨rfl, trivial⟩

theorem agree_registerMarshallers (marshallers : List MessageMarshaller) :
    (registerMarshallers marshallers).Agree (fun _ _ => True) (registerMarshallers marshallers) := by
  apply Agree.forEach
  intro marshaller context context' _
  rw [result_registerMarshaller, result_registerMarshaller]
  exact ⟨rfl, trivial⟩

end SerializationContext

namespace SchemaTarget

abbrev SameProperties (target target' : SchemaTarget) : Prop := target.properties = target'.properties

theorem agree_inContext {action : Action SerializationContext ClientError Unit}
    (agree : action.Agree (fun _ _ => True) action) :
    (inContext action).Agree SameProperties (inContext action) := by
  apply agree.onPart
  · exact fun _ _ _ => trivial
  · exact fun _ _ _ _ same _ => same

theorem agree_embed (files : List (String × String)) :
    (Action.modify (embed · files) : Action SchemaTarget ClientError Unit).Agree SameProperties
      (Action.modify (embed · files)) := by
  apply agree_modify
  intro target target' same
  exact congrArg (fun bag => files.foldl _ bag) same

theorem agree_registerInitializer (initializer : SchemaInitializer) :
    (registerInitializer initializer).Agree SameProperties (registerInitializer initializer) := by
  unfold registerInitializer
  refine (agree_inContext (SerializationContext.agree_registerFile _ _)).bind fun _ => ?_
  refine (agree_inContext (SerializationContext.agree_registerMarshallers _)).bind fun _ => ?_
  exact agree_embed _

theorem agree_registerEmbedded : registerEmbedded.Agree SameProperties registerEmbedded := by
  apply Agree.get_bind
  intro target target' same
  rw [same]
  exact agree_inContext (SerializationContext.agree_registerFiles _)

theorem agree_registerSource (source : SchemaSource) :
    (registerSource source).Agree SameProperties (registerSource source) := by
  unfold registerSource
  refine (agree_inContext (SerializationContext.agree_registerFiles _)).bind fun _ => ?_
  exact agree_embed _

end SchemaTarget

/-- What a registration embeds, and whether it succeeds, is not up to the context. -/
theorem SchemaRegistration.agree_register (schemas : SchemaRegistration) :
    schemas.register.Agree SchemaTarget.SameProperties schemas.register := by
  unfold register
  refine (Agree.forEach SchemaTarget.agree_registerInitializer).bind fun _ => ?_
  refine SchemaTarget.agree_registerEmbedded.bind fun _ => ?_
  refine (Agree.forEach SchemaTarget.agree_registerSource).bind fun _ => ?_
  refine (SchemaTarget.agree_inContext
    (SerializationContext.agree_registerMarshallers _)).bind fun _ => ?_
  apply Agree.get_bind
  intro target target' _
  exact agree_emit _ _

namespace ClientDefinition

/-- The same but for what the marshallers have learned. -/
abbrev SameFresh (definition definition' : ClientDefinition) : Prop :=
  definition.fresh = definition'.fresh

namespace SameFresh
variable {definition definition' : ClientDefinition}

theorem properties (same : definition.SameFresh definition') :
    definition.properties = definition'.properties := by
  have kept := congrArg ClientDefinition.properties same
  exact kept

theorem schemas (same : definition.SameFresh definition') :
    definition.schemas = definition'.schemas := by
  have kept := congrArg ClientDefinition.schemas same
  exact kept

theorem emptyDraft (same : definition.SameFresh definition') :
    definition.emptyDraft = definition'.emptyDraft := by
  have kept : ∀ definition : ClientDefinition, definition.fresh.emptyDraft = definition.emptyDraft := by
    intro definition
    rcases definition with ⟨_, _ | _ | _ | _, _⟩ <;> rfl
  rw [← kept definition, ← kept definition', same]

theorem cases (same : definition.SameFresh definition') :
    definition = definition' ∨ ∃ context context',
      definition = { definition' with marshaller := some (.protoStream context) } ∧
      definition' = { definition' with marshaller := some (.protoStream context') } := by
  rcases definition with ⟨properties, marshaller, schemas⟩
  rcases definition' with ⟨properties', marshaller', schemas'⟩
  unfold SameFresh fresh at same
  rw [mk.injEq] at same
  obtain ⟨rfl, marshallers, rfl⟩ := same
  rcases marshaller with _ | _ | _ | _ <;> rcases marshaller' with _ | _ | _ | _ <;>
    simp_all [Marshaller.fresh]

end SameFresh

theorem keeps_registerSchemas : registerSchemas.Keeps fresh := by
  rintro ⟨properties, _ | _ | _ | _, schemas⟩ <;> rfl

theorem agree_registerSchemas : registerSchemas.Agree SameFresh registerSchemas := by
  intro definition definition' same
  refine ⟨?_, ?_⟩
  · obtain rfl | ⟨context, context', left, right⟩ := same.cases
    · rfl
    · have bags : SchemaTarget.SameProperties ⟨context, definition'.properties⟩
          ⟨context', definition'.properties⟩ := rfl
      obtain ⟨results, embedded⟩ := definition'.schemas.agree_register _ _ bags
      rw [left, right]
      change Except.map _ (definition'.schemas.register.run _).result = Except.map _ _
      rw [results, embedded]
  · change (registerSchemas.run definition).state.fresh = (registerSchemas.run definition').state.fresh
    rw [keeps_registerSchemas, keeps_registerSchemas]
    exact same

variable (files : Files) (settings : RuntimeSettings) (name : String)

theorem keeps_assemble : (assemble files settings name).Keeps fresh := by
  refine (keeps_emit _).bind fun _ => keeps_get.bind fun definition => ?_
  refine keeps_registerSchemas.bind fun own => ?_
  cases settings.clients[name]? with
  | none => exact (keeps_building _).bind fun _ => keeps_pure _
  | some runtime =>
    refine Keeps.bind (Keeps.forEach fun _ => keeps_emit _) fun _ => ?_
    exact (keeps_building _).bind fun _ => keeps_pure _

/-- What marshallers have learned makes no difference to an assembly. -/
theorem agree_assemble :
    (assemble files settings name).Agree SameFresh (assemble files settings name) := by
  refine (agree_emit _ _).bind fun _ => Agree.get_bind fun definition definition' same => ?_
  rw [same.emptyDraft, same.schemas]
  refine agree_registerSchemas.bind fun own => ?_
  cases settings.clients[name]? with
  | none => exact (agree_building _).bind fun _ => agree_pure _
  | some runtime =>
    refine Agree.bind (Agree.forEach fun _ => agree_emit _ _) fun _ => ?_
    exact (agree_building _).bind fun _ => agree_pure _

end ClientDefinition

namespace ClientsSettings

/-- The same but for what the marshallers have learned. -/
abbrev SameFresh (settings settings' : ClientsSettings) : Prop := settings.fresh = settings'.fresh

theorem getElem?_fresh (settings : ClientsSettings) (name : String) :
    settings.fresh.definitions[name]? = settings.definitions[name]?.map ClientDefinition.fresh :=
  Std.ExtTreeMap.getElem?_map

theorem definitionOf_fresh (settings : ClientsSettings) (name : String) :
    settings.fresh.definitionOf name = (settings.definitionOf name).fresh := by
  rw [definitionOf, getElem?_fresh, definitionOf]
  cases settings.definitions[name]? <;> rfl

theorem fresh_returnDefinition (name : String) (definition : ClientDefinition)
    (settings : ClientsSettings) :
    (returnDefinition name definition settings).fresh =
      returnDefinition name definition.fresh settings.fresh := by
  have present : settings.fresh.definitions.contains name = settings.definitions.contains name :=
    Std.ExtTreeMap.contains_map
  unfold returnDefinition
  rw [present]
  by_cases defined : settings.definitions.contains name = true
  · rw [if_pos defined, if_pos defined]
    unfold setDefinition fresh
    congr 1
    refine Std.ExtTreeMap.ext_getElem? fun other => ?_
    by_cases same : name = other <;>
      simp [Std.ExtTreeMap.getElem?_map, KeyMap.getElem?_insert, same]
  · rw [if_neg defined, if_neg defined]

theorem returnDefinition_definitionOf (name : String) (settings : ClientsSettings) :
    returnDefinition name (settings.definitionOf name) settings = settings := by
  unfold returnDefinition
  by_cases defined : settings.definitions.contains name = true
  · rw [if_pos defined]
    rw [setDefinition, definitionOf, KeyMap.insert_getD defined]
  · rw [if_neg defined]

variable (files : Files) (client : String)

theorem keeps_assemble : (assemble files client).Keeps fresh := by
  intro settings
  unfold assemble
  rw [run_bind_of_ok (run_get settings), run_onPart]
  rw [fresh_returnDefinition, ClientDefinition.keeps_assemble, ← definitionOf_fresh,
    returnDefinition_definitionOf]

theorem agree_assemble : (assemble files client).Agree SameFresh (assemble files client) := by
  apply Agree.get_bind
  intro settings settings' same
  have runtimes := congrArg runtime same
  change settings.runtime = settings'.runtime at runtimes
  rw [runtimes]
  refine (ClientDefinition.agree_assemble files settings'.runtime client).onPart ?_ ?_
  · intro settings settings' same
    change (settings.definitionOf client).fresh = (settings'.definitionOf client).fresh
    rw [← definitionOf_fresh, ← definitionOf_fresh, same]
  · intro settings settings' definition definition' same changed
    change fresh _ = fresh _
    rw [fresh_returnDefinition, fresh_returnDefinition, same,
      changed]

end ClientsSettings

end HotRod
