import HotRod.Properties.Basic
import HotRod.Schema.Source
import HotRod.Text.Shown
set_option autoImplicit false

/-!
# Schema registration

A client's schemas come from initializers, which bring a file and the marshallers of its messages,
from schema sources, and from files embedded in its properties. Registration loads them into a
serialization context and embeds every file in the properties. The files for the server are those of
the initializers and then the embedded ones, each name once.
-/

namespace HotRod

/-- A static initializer: a schema file and the marshallers that are registered along with it. An
initializer with a way of its own to register its schema is none of these. -/
structure SchemaInitializer where
  file : String
  contents : String
  marshallers : List MessageMarshaller := []
  deriving DecidableEq, Repr

structure SchemaRegistration where
  initializers : List SchemaInitializer := []
  sources : List SchemaSource := []
  marshallers : List MessageMarshaller := []

/-- What schemas are registered into: a context and the client's properties. -/
structure SchemaTarget where
  context : SerializationContext
  properties : Properties

namespace SchemaTarget

def setContext (context : SerializationContext) (target : SchemaTarget) : SchemaTarget :=
  { target with context }

def embed (target : SchemaTarget) (files : List (String × String)) : SchemaTarget :=
  { target with
    properties := files.foldl (fun bag (name, contents) => bag.insertSchemaFile name contents)
      target.properties }

def inContext {α : Type} (action : Action SerializationContext ClientError α) :
    Action SchemaTarget ClientError α :=
  Action.onPart SchemaTarget.context setContext action

def registerInitializer (initializer : SchemaInitializer) : Action SchemaTarget ClientError Unit := do
  inContext (SerializationContext.registerFile initializer.file initializer.contents)
  inContext (SerializationContext.registerMarshallers initializer.marshallers)
  Action.modify (embed · [(initializer.file, initializer.contents)])

def registerEmbedded : Action SchemaTarget ClientError Unit := do
  let target ← Action.get
  inContext (SerializationContext.registerFiles target.properties.schemaFiles)

def registerSource (source : SchemaSource) : Action SchemaTarget ClientError Unit := do
  inContext (SerializationContext.registerFiles source.toList)
  Action.modify (embed · source.toList)

end SchemaTarget

namespace SchemaRegistration

def isEmpty (schemas : SchemaRegistration) : Bool :=
  schemas.initializers.isEmpty && schemas.sources.isEmpty && schemas.marshallers.isEmpty

def addSource (schemas : SchemaRegistration) (source : SchemaSource) : SchemaRegistration :=
  { schemas with sources := schemas.sources ++ [source] }

/-- Load schemas into a context and embed their files in the properties. -/
def register (schemas : SchemaRegistration) : Action SchemaTarget ClientError Unit := do
  Action.forEach schemas.initializers SchemaTarget.registerInitializer
  SchemaTarget.registerEmbedded
  Action.forEach schemas.sources SchemaTarget.registerSource
  SchemaTarget.inContext (SerializationContext.registerMarshallers schemas.marshallers)
  let target ← Action.get
  Action.emit ⟨.debug, "Registered schemas with proto-stream marshaller",
    [("files", Nat.repr target.context.files.size),
      ("marshallers", Nat.repr target.context.marshallers.size)]⟩

def initializerFiles (schemas : SchemaRegistration) : List (String × String) :=
  schemas.initializers.map fun initializer => (initializer.file, initializer.contents)

def firstOfEachName : List (String × String) → List (String × String)
  | [] => []
  | (name, contents) :: files =>
    (name, contents) :: (firstOfEachName files).filter fun (other, _) => other ≠ name

/-- The schema files to write to the server, each name once, those of initializers first. -/
def filesToPush (schemas : SchemaRegistration) (properties : Properties) : List (String × String) :=
  firstOfEachName (schemas.initializerFiles ++ properties.schemaFiles)

def showSource (source : SchemaSource) : String :=
  "FileDescriptorSource \x7b files: " ++
    Text.inBraces (source.toList.map fun (name, contents) =>
      Text.shown name ++ ": " ++ Text.shown contents) ++ " \x7d"

/-- The form for diagnosis: the file names of initializers, the sources and the message types. -/
def describe (schemas : SchemaRegistration) : String :=
  "SchemaRegistration \x7b initializers: " ++
    Text.inBrackets (schemas.initializers.map (Text.shown ·.file)) ++
    ", descriptor_sources: " ++ Text.inBrackets (schemas.sources.map showSource) ++
    ", message_marshallers: " ++
    Text.inBrackets
      (schemas.marshallers.map fun marshaller =>
        "TypeMarshaller(" ++ Text.shown marshaller.typeName ++ ")") ++ " \x7d"

end SchemaRegistration

end HotRod
