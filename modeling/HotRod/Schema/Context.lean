import HotRod.Action
import HotRod.Error
import HotRod.KeyMap
import HotRod.Text.Split
set_option autoImplicit false

/-!
# Serialization contexts

The schema files and message marshallers that a proto-stream marshaller knows. Registering replaces a
file or marshaller of the same name. A file name ends in `.proto` after a base name.
-/

namespace HotRod

def schemaExtension : String := ".proto"

def isSchemaName (name : String) : Bool :=
  match Text.withoutSuffix? schemaExtension.toList name.toList with
  | none => false
  | some stem => !stem.isEmpty && !(['/'].isSuffixOf stem)

/-- A marshaller of one message type. Marshallers of the same type are told apart by their identity. -/
structure MessageMarshaller where
  typeName : String
  identity : Nat := 0
  deriving DecidableEq, Repr

instance : Coe String MessageMarshaller := ⟨fun typeName => { typeName }⟩

instance : Coe (List String) (List MessageMarshaller) := ⟨List.map fun typeName => { typeName }⟩

/-- Registered schema files by name, and marshallers by message type. -/
structure SerializationContext where
  files : KeyMap String := ∅
  marshallers : KeyMap MessageMarshaller := ∅

namespace SerializationContext

def putFile (context : SerializationContext) (name contents : String) : SerializationContext :=
  { context with files := context.files.insert name contents }

def putMarshaller (context : SerializationContext) (marshaller : MessageMarshaller) :
    SerializationContext :=
  { context with marshallers := context.marshallers.insert marshaller.typeName marshaller }

def registerFile (name contents : String) : Action SerializationContext ClientError Unit := do
  if isSchemaName name then
    let context ← Action.get
    Action.modify (putFile · name contents)
    match context.files[name]? with
    | none => pure ()
    | some previous =>
      if previous ≠ contents then
        Action.emit ⟨.debug, "Replaced registered schema file", [("file", name)]⟩
  else Action.fail (.invalidSchema name)

/-- Register schema files in order, up to the first whose name is none. -/
def registerFiles (files : List (String × String)) : Action SerializationContext ClientError Unit :=
  Action.forEach files fun (name, contents) => registerFile name contents

def registerMarshaller (marshaller : MessageMarshaller) :
    Action SerializationContext ClientError Unit := do
  let context ← Action.get
  Action.modify (putMarshaller · marshaller)
  if context.marshallers.contains marshaller.typeName then
    Action.emit ⟨.debug, "Replaced registered message marshaller",
      [("type_name", marshaller.typeName)]⟩

def registerMarshallers (marshallers : List MessageMarshaller) :
    Action SerializationContext ClientError Unit :=
  Action.forEach marshallers registerMarshaller

end SerializationContext

end HotRod
