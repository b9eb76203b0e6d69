import HotRod.Proofs.Action
import HotRod.Proofs.Properties
import HotRod.Schema.Registration
set_option autoImplicit false

/-!
# What a registration leaves behind

A completed registration writes the files of initializers, embedded files and files of sources over
the context, in this order, and embeds those of initializers and sources in the properties. It
completes exactly when all of them are named like schema files.
-/

namespace HotRod

open HotRod.Action

namespace SerializationContext

def putFiles (files : List (String × String)) (context : SerializationContext) :
    SerializationContext :=
  { context with files := context.files.extend files }

def putMarshallers (marshallers : List MessageMarshaller) (context : SerializationContext) :
    SerializationContext :=
  { context with
    marshallers := context.marshallers.extend (marshallers.map fun known => (known.typeName, known)) }

theorem completes_registerFile {name contents : String} {start finish : SerializationContext} :
    (registerFile name contents).Completes start () finish ↔
      isSchemaName name = true ∧ start.putFile name contents = finish := by
  unfold registerFile
  by_cases valid : isSchemaName name = true
  · simp only [valid, if_true, completes_get_bind, completes_then, completes_modify, true_and]
    cases start.files[name]? with
    | none => simp
    | some previous =>
      by_cases same : previous = contents <;> simp [same]
  · simp [valid]

theorem completes_registerFiles {files : List (String × String)} {start finish : SerializationContext} :
    (registerFiles files).Completes start () finish ↔
      (∀ file ∈ files, isSchemaName file.1 = true) ∧ start.putFiles files = finish := by
  unfold registerFiles
  induction files generalizing start with
  | nil => simp [putFiles]
  | cons file files ih =>
    simp only [completes_forEach_cons, completes_registerFile, ih, List.forall_mem_cons]
    constructor
    · rintro ⟨middle, ⟨valid, rfl⟩, others, rfl⟩
      exact ⟨⟨valid, others⟩, rfl⟩
    · rintro ⟨⟨valid, others⟩, rfl⟩
      exact ⟨_, ⟨valid, rfl⟩, others, rfl⟩

theorem completes_registerMarshaller {marshaller : MessageMarshaller}
    {start finish : SerializationContext} :
    (registerMarshaller marshaller).Completes start () finish ↔
      start.putMarshaller marshaller = finish := by
  unfold registerMarshaller
  simp only [completes_get_bind, completes_then, completes_modify]
  by_cases known : marshaller.typeName ∈ start.marshallers <;> simp [known]

theorem completes_registerMarshallers {marshallers : List MessageMarshaller}
    {start finish : SerializationContext} :
    (registerMarshallers marshallers).Completes start () finish ↔
      start.putMarshallers marshallers = finish := by
  unfold registerMarshallers
  induction marshallers generalizing start with
  | nil => simp [putMarshallers]
  | cons marshaller marshallers ih =>
    simp only [completes_forEach_cons, completes_registerMarshaller, ih]
    constructor
    · rintro ⟨middle, rfl, rfl⟩
      rfl
    · rintro rfl
      exact ⟨_, rfl, rfl⟩

end SerializationContext

namespace SchemaTarget

def write (files : List (String × String)) (marshallers : List MessageMarshaller)
    (target : SchemaTarget) : SchemaTarget where
  context := (target.context.putFiles files).putMarshallers marshallers
  properties := target.properties.embed files

@[simp] theorem write_nil (target : SchemaTarget) : target.write [] [] = target := rfl

theorem write_append (files more : List (String × String))
    (marshallers others : List MessageMarshaller) (target : SchemaTarget) :
    (target.write files marshallers).write more others =
      target.write (files ++ more) (marshallers ++ others) := by
  simp [write, SerializationContext.putFiles, SerializationContext.putMarshallers, Properties.embed,
    KeyMap.extend, List.foldl_append]

theorem embed_properties (target : SchemaTarget) (files : List (String × String)) :
    (target.embed files).properties = target.properties.embed files := by
  simp only [embed]
  generalize target.properties = bag
  induction files generalizing bag with
  | nil => rfl
  | cons file files ih => exact ih (bag.insertSchemaFile file.1 file.2)

theorem completes_registerInitializer {initializer : SchemaInitializer} {start finish : SchemaTarget} :
    (registerInitializer initializer).Completes start () finish ↔
      isSchemaName initializer.file = true ∧
        start.write [(initializer.file, initializer.contents)] initializer.marshallers = finish := by
  simp only [registerInitializer, inContext, completes_then, completes_onPart, completes_modify,
    SerializationContext.completes_registerFile, SerializationContext.completes_registerMarshallers]
  constructor
  · rintro ⟨_, ⟨_, ⟨valid, rfl⟩, rfl⟩, _, ⟨_, rfl, rfl⟩, rfl⟩
    exact ⟨valid, rfl⟩
  · rintro ⟨valid, rfl⟩
    exact ⟨_, ⟨_, ⟨valid, rfl⟩, rfl⟩, _, ⟨_, rfl, rfl⟩, rfl⟩

theorem completes_registerSource {source : SchemaSource} {start finish : SchemaTarget} :
    (registerSource source).Completes start () finish ↔
      (∀ file ∈ source.toList, isSchemaName file.1 = true) ∧ start.write source.toList [] = finish := by
  simp only [registerSource, inContext, completes_then, completes_onPart, completes_modify,
    SerializationContext.completes_registerFiles]
  have written : ∀ context : SerializationContext,
      start.context.putFiles source.toList = context →
        (start.setContext context).embed source.toList = start.write source.toList [] := by
    rintro _ rfl
    rw [write, ← embed_properties]
    rfl
  constructor
  · rintro ⟨_, ⟨_, ⟨valid, put⟩, rfl⟩, rfl⟩
    exact ⟨valid, (written _ put).symm⟩
  · rintro ⟨valid, rfl⟩
    exact ⟨_, ⟨_, ⟨valid, rfl⟩, rfl⟩, written _ rfl⟩

theorem completes_registerEmbedded {start finish : SchemaTarget} :
    registerEmbedded.Completes start () finish ↔
      (∀ file ∈ start.properties.schemaFiles, isSchemaName file.1 = true) ∧
        { start with context := start.context.putFiles start.properties.schemaFiles } = finish := by
  simp only [registerEmbedded, inContext, completes_bind, completes_get, completes_onPart,
    SerializationContext.completes_registerFiles]
  constructor
  · rintro ⟨_, _, ⟨rfl, rfl⟩, _, ⟨valid, rfl⟩, rfl⟩
    exact ⟨valid, rfl⟩
  · rintro ⟨valid, rfl⟩
    exact ⟨_, _, ⟨rfl, rfl⟩, _, ⟨valid, rfl⟩, rfl⟩

/-- Writing in a loop is writing all at once. -/
theorem completes_forEach_write {ι : Type} {act : ι → Action SchemaTarget ClientError Unit}
    {files : ι → List (String × String)} {marshallers : ι → List MessageMarshaller}
    (each : ∀ item start finish, (act item).Completes start () finish ↔
      (∀ file ∈ files item, isSchemaName file.1 = true) ∧
        start.write (files item) (marshallers item) = finish)
    {items : List ι} {start finish : SchemaTarget} :
    (forEach items act).Completes start () finish ↔
      (∀ file ∈ items.flatMap files, isSchemaName file.1 = true) ∧
        start.write (items.flatMap files) (items.flatMap marshallers) = finish := by
  induction items generalizing start with
  | nil => simp
  | cons item items ih =>
    simp only [completes_forEach_cons, each, ih, List.flatMap_cons, List.forall_mem_append]
    constructor
    · rintro ⟨_, ⟨valid, rfl⟩, others, rfl⟩
      exact ⟨⟨valid, others⟩, (write_append _ _ _ _ _).symm⟩
    · rintro ⟨⟨valid, others⟩, rfl⟩
      exact ⟨_, ⟨valid, rfl⟩, others, write_append _ _ _ _ _⟩

end SchemaTarget

namespace SchemaRegistration

def sourceFiles (schemas : SchemaRegistration) : List (String × String) :=
  schemas.sources.flatMap Std.ExtTreeMap.toList

def initializerMarshallers (schemas : SchemaRegistration) : List MessageMarshaller :=
  schemas.initializers.flatMap SchemaInitializer.marshallers

theorem completes_registerInitializers {schemas : SchemaRegistration} {start finish : SchemaTarget} :
    (forEach schemas.initializers SchemaTarget.registerInitializer).Completes start () finish ↔
      (∀ file ∈ schemas.initializerFiles, isSchemaName file.1 = true) ∧
        start.write schemas.initializerFiles schemas.initializerMarshallers = finish := by
  have each : ∀ (initializer : SchemaInitializer) (start finish : SchemaTarget),
      (SchemaTarget.registerInitializer initializer).Completes start () finish ↔
        (∀ file ∈ [(initializer.file, initializer.contents)], isSchemaName file.1 = true) ∧
          start.write [(initializer.file, initializer.contents)] initializer.marshallers = finish := by
    intro initializer start finish
    simp [SchemaTarget.completes_registerInitializer]
  rw [SchemaTarget.completes_forEach_write each, ← List.map_eq_flatMap]
  rfl

theorem completes_registerSources {schemas : SchemaRegistration} {start finish : SchemaTarget} :
    (forEach schemas.sources SchemaTarget.registerSource).Completes start () finish ↔
      (∀ file ∈ schemas.sourceFiles, isSchemaName file.1 = true) ∧
        start.write schemas.sourceFiles [] = finish := by
  have untyped : (schemas.sources.flatMap fun _ => ([] : List MessageMarshaller)) = [] := by
    simp [List.flatMap_eq_nil_iff]
  rw [SchemaTarget.completes_forEach_write fun _ _ _ => SchemaTarget.completes_registerSource, untyped]
  rfl

def embeddedFiles (schemas : SchemaRegistration) (bag : Properties) : List (String × String) :=
  (bag.embed schemas.initializerFiles).schemaFiles

def registeredFiles (schemas : SchemaRegistration) (bag : Properties) : List (String × String) :=
  schemas.initializerFiles ++ schemas.embeddedFiles bag ++ schemas.sourceFiles

def registered (schemas : SchemaRegistration) (target : SchemaTarget) : SchemaTarget where
  context := (target.context.putFiles (schemas.registeredFiles target.properties)).putMarshallers
    (schemas.initializerMarshallers ++ schemas.marshallers)
  properties := (target.properties.embed schemas.initializerFiles).embed schemas.sourceFiles

theorem stages_eq_registered (schemas : SchemaRegistration) (target : SchemaTarget) :
    let brought := target.write schemas.initializerFiles schemas.initializerMarshallers
    let embedded : SchemaTarget :=
      { brought with context := brought.context.putFiles brought.properties.schemaFiles }
    let sourced := embedded.write schemas.sourceFiles []
    sourced.setContext (sourced.context.putMarshallers schemas.marshallers) =
      schemas.registered target := by
  simp [registered, registeredFiles, embeddedFiles, SchemaTarget.write, SchemaTarget.setContext,
    SerializationContext.putFiles, SerializationContext.putMarshallers, KeyMap.extend,
    List.foldl_append]

theorem completes_register {schemas : SchemaRegistration} {start finish : SchemaTarget} :
    schemas.register.Completes start () finish ↔
      (∀ file ∈ schemas.registeredFiles start.properties, isSchemaName file.1 = true) ∧
        schemas.registered start = finish := by
  simp only [register, SchemaTarget.inContext, completes_then, completes_get_bind, completes_emit,
    completes_onPart, completes_registerInitializers, completes_registerSources,
    SchemaTarget.completes_registerEmbedded, SerializationContext.completes_registerMarshallers,
    registeredFiles, List.forall_mem_append]
  constructor
  · rintro ⟨_, ⟨brought, rfl⟩, _, ⟨embedded, rfl⟩, _, ⟨sources, rfl⟩, _, ⟨_, rfl, rfl⟩, rfl⟩
    exact ⟨⟨⟨brought, embedded⟩, sources⟩, (stages_eq_registered schemas start).symm⟩
  · rintro ⟨⟨⟨brought, embedded⟩, sources⟩, rfl⟩
    exact ⟨_, ⟨brought, rfl⟩, _, ⟨embedded, rfl⟩, _, ⟨sources, rfl⟩, _, ⟨_, rfl, rfl⟩,
      stages_eq_registered schemas start⟩

end SchemaRegistration

end HotRod
