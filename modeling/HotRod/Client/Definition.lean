import HotRod.Schema.Registration
import HotRod.Marshaller
set_option autoImplicit false

/-!
# Client definitions

What is supplied for a client beside its runtime section: its own properties, its marshaller and the
schemas to register with it.
-/

namespace HotRod

structure ClientDefinition where
  properties : Properties := ∅
  marshaller : Option Marshaller := none
  schemas : SchemaRegistration := {}

namespace ClientDefinition

/-- The serialization context of the client's proto-stream marshaller. -/
def context? (definition : ClientDefinition) : Option SerializationContext :=
  definition.marshaller.bind Marshaller.context?

/-- Register the schemas with a proto-stream marshaller, and give the properties that hold their
files. Other marshallers take no schemas. -/
def registerSchemas : Action ClientDefinition ClientError Properties := fun definition =>
  match definition.marshaller with
  | some (.protoStream context) =>
    let done := definition.schemas.register.run ⟨context, definition.properties⟩
    ⟨{ definition with marshaller := some (.protoStream done.state.context) }, done.events,
      done.result.map fun _ => done.state.properties⟩
  | _ => ⟨definition, [], .ok definition.properties⟩

end ClientDefinition

end HotRod
