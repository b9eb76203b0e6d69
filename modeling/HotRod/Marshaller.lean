import HotRod.Schema.Context
set_option autoImplicit false

/-!
# Marshallers

A client has at most one marshaller, known to servers by the media type of its payloads. Only the
proto-stream marshaller takes part in schema registration: it owns a serialization context. A
configuration records the kind of its marshaller alone.
-/

namespace HotRod

def protoStreamMediaType : String := "application/x-protostream"

def utf8MediaType : String := "text/plain; charset=UTF-8"

inductive MarshallerKind where
  | protoStream
  | utf8
  | other (mediaType : String)
  deriving DecidableEq, Repr

def MarshallerKind.mediaType : MarshallerKind → String
  | protoStream => protoStreamMediaType
  | utf8 => utf8MediaType
  | other mediaType => mediaType

inductive Marshaller where
  | protoStream (context : SerializationContext)
  | utf8
  | other (mediaType : String)

namespace Marshaller

def kind : Marshaller → MarshallerKind
  | protoStream _ => .protoStream
  | utf8 => .utf8
  | other mediaType => .other mediaType

/-- The serialization context of a proto-stream marshaller. -/
def context? : Marshaller → Option SerializationContext
  | protoStream context => some context
  | utf8 | other _ => none

end Marshaller

end HotRod
