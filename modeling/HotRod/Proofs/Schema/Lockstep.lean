import HotRod.Proofs.Schema.Agreement
import Mathlib.Data.List.DropRight
set_option autoImplicit false

/-!
# Context and properties in lockstep

A completed registration leaves the same files in the properties and, written over what was there, in
the context. Of the files of one name the last source decides, then the last initializer, and then the
properties as they were. Nothing else in the properties changes, and every name is that of a schema
file.
-/

namespace HotRod

open HotRod.Action

/-- The name of a schema file ends in `.proto` after a base name, which may stand in a directory. -/
theorem isSchemaName_iff {name : String} :
    isSchemaName name = true ↔
      ∃ directory base : String, name = directory ++ base ++ ".proto" ∧ base ≠ "" ∧
        '/' ∉ base.toList ∧ (directory = "" ∨ directory.toList.getLast? = some '/') := by
  have cut : isSchemaName name = true ↔ ∃ stem : List Char,
      name.toList = stem ++ schemaExtension.toList ∧ stem ≠ [] ∧ stem.getLast? ≠ some '/' := by
    unfold isSchemaName
    simp only [← Text.withoutSuffix?_eq_some_iff]
    cases Text.withoutSuffix? schemaExtension.toList name.toList with
    | none => simp
    | some stem =>
      simp [← List.singleton_suffix_iff_getLast?_eq_some, ← List.isSuffixOf_iff_suffix]
  rw [cut]
  constructor
  · rintro ⟨stem, spelled, nonempty, last⟩
    let inside : Char → Bool := (· != '/')
    refine ⟨.ofList (stem.rdropWhile inside), .ofList (stem.rtakeWhile inside), ?_, ?_, ?_, ?_⟩
    · rw [← String.toList_inj, spelled, String.toList_append, String.toList_append,
        String.toList_ofList, String.toList_ofList, List.rdropWhile_append_rtakeWhile]
      rfl
    · rw [ne_eq, ← String.toList_inj, String.toList_ofList]
      intro empty
      have closed := List.rtakeWhile_eq_nil_iff.mp empty nonempty
      rw [List.getLast?_eq_some_getLast nonempty] at last
      simp [inside] at closed last
      contradiction
    · rw [String.toList_ofList]
      intro slash
      simpa [inside] using List.mem_rtakeWhile_imp slash
    · rw [← String.toList_inj, String.toList_ofList]
      by_cases whole : stem.rdropWhile inside = []
      · exact .inl whole
      · have slash := List.rdropWhile_last_not inside stem whole
        rw [List.getLast?_eq_some_getLast whole]
        exact .inr (by simpa [inside] using slash)
  · rintro ⟨directory, base, rfl, nonempty, inside, -⟩
    have letters : base.toList ≠ [] := fun empty => nonempty (String.toList_eq_nil_iff.mp empty)
    refine ⟨directory.toList ++ base.toList, ?_, by simp [letters], ?_⟩
    · rw [String.toList_append, String.toList_append]
      rfl
    · rw [List.getLast?_append, List.getLast?_eq_some_getLast letters, Option.some_or,
        ne_eq, Option.some.injEq]
      intro slash
      exact inside (slash ▸ List.getLast_mem letters)

/-- Of the marshallers of one type the last stays. -/
theorem SerializationContext.getElem?_putMarshallers (marshallers : List MessageMarshaller)
    (context : SerializationContext) (typeName : String) :
    (context.putMarshallers marshallers).marshallers[typeName]? =
      (marshallers.reverse.find? (·.typeName = typeName)).or context.marshallers[typeName]? := by
  have last : lastValue? typeName (marshallers.map fun known => (known.typeName, known)) =
      marshallers.reverse.find? (·.typeName = typeName) :=
    (lastValue?_map MessageMarshaller.typeName id typeName marshallers).trans Option.map_id'
  rw [putMarshallers, KeyMap.getElem?_extend, last]

theorem SerializationContext.mem_putMarshallers {marshallers : List MessageMarshaller}
    {context : SerializationContext} {typeName : String} :
    typeName ∈ (context.putMarshallers marshallers).marshallers ↔
      typeName ∈ context.marshallers ∨ typeName ∈ marshallers.map (·.typeName) := by
  rw [Std.ExtTreeMap.mem_iff_isSome_getElem?, getElem?_putMarshallers, Option.isSome_or, Bool.or_eq_true,
    ← Std.ExtTreeMap.mem_iff_isSome_getElem?, List.find?_isSome, or_comm]
  simp

namespace SchemaRegistration
variable {schemas : SchemaRegistration} {file : String}

theorem lastValue?_sourceFiles :
    lastValue? file schemas.sourceFiles = schemas.sources.reverse.findSome? (·[file]?) := by
  unfold sourceFiles
  induction schemas.sources with
  | nil => rfl
  | cons source sources ih =>
    rw [List.flatMap_cons, lastValue?_append, KeyMap.lastValue?_toList, ih, List.reverse_cons,
      List.findSome?_append]
    simp

theorem lastValue?_initializerFiles :
    lastValue? file schemas.initializerFiles =
      (schemas.initializers.reverse.find? (·.file = file)).map (·.contents) :=
  lastValue?_map SchemaInitializer.file SchemaInitializer.contents file schemas.initializers

theorem isSchemaName_of_contents? {bag : Properties} {contents : String}
    (valid : ∀ file ∈ schemas.registeredFiles bag, isSchemaName file.1 = true)
    (kept : schemas.contents? bag file = some contents) : isSchemaName file = true := by
  rw [← lastValue?_registeredFiles] at kept
  exact valid _ (mem_of_lastValue? kept)

/-- What a completed registration leaves, where the files in the properties are read as a map. -/
theorem register_writes_in_lockstep {context : SerializationContext} {bag : Properties}
    (completed : (schemas.register.run ⟨context, bag⟩).result = .ok ()) :
    let left := (schemas.register.run ⟨context, bag⟩).state
    let kept := KeyMap.ofPairs left.properties.schemaFiles
    (∀ file : String, kept[file]? =
      ((schemas.sources.reverse.findSome? (·[file]?)).or
        ((schemas.initializers.reverse.find? (·.file = file)).map (·.contents))).or
          bag[Properties.schemaKey file]?) ∧
    (∀ file : String, left.context.files[file]? = kept[file]?.or context.files[file]?) ∧
    (∀ typeName : String, left.context.marshallers[typeName]? =
      ((schemas.marshallers.reverse.find? (·.typeName = typeName)).or
        ((schemas.initializers.flatMap (·.marshallers)).reverse.find? (·.typeName = typeName))).or
          context.marshallers[typeName]?) ∧
    (∀ typeName, typeName ∈ left.context.marshallers ↔
      typeName ∈ context.marshallers ∨
        (∃ initializer ∈ schemas.initializers, typeName ∈ initializer.marshallers.map (·.typeName)) ∨
        typeName ∈ schemas.marshallers.map (·.typeName)) ∧
    (∀ key : String, (∀ file, key ≠ Properties.schemaKey file) →
      left.properties[key]? = bag[key]?) ∧
    (∀ file ∈ kept, ∃ directory base : String, file = directory ++ base ++ ".proto" ∧ base ≠ "" ∧
      '/' ∉ base.toList ∧ (directory = "" ∨ directory.toList.getLast? = some '/')) := by
  obtain ⟨valid, made⟩ := completes_register.mp (completes_of_result completed)
  intro left kept
  have same : left = schemas.registered ⟨context, bag⟩ := made.symm
  have stored : ∀ file : String, kept[file]? = schemas.contents? bag file := by
    intro file
    rw [KeyMap.getElem?_ofPairs, Properties.lastValue?_schemaFiles, same,
      getElem?_registered_properties]
  refine ⟨fun file => ?_, fun file => ?_, fun typeName => ?_, fun typeName => ?_, fun key plain => ?_,
    fun file known => ?_⟩
  · rw [stored, contents?, lastValue?_sourceFiles, lastValue?_initializerFiles]
  · rw [stored, ← lastValue?_registeredFiles, ← KeyMap.getElem?_extend, same]
    rfl
  · rw [same, registered, SerializationContext.getElem?_putMarshallers, List.reverse_append,
      List.find?_append]
    rfl
  · rw [same, registered, SerializationContext.mem_putMarshallers, List.map_append, List.mem_append,
      initializerMarshallers, List.map_flatMap, List.mem_flatMap]
    rfl
  · have unnamed : Properties.schemaFile? key = none := by
      rw [Option.eq_none_iff_forall_ne_some]
      exact fun file named => plain file (Properties.schemaFile?_eq_some_iff.mp named)
    rw [same, registered, Properties.getElem?_embed_of_schemaFile?_eq_none unnamed,
      Properties.getElem?_embed_of_schemaFile?_eq_none unnamed]
  · rw [Std.ExtTreeMap.mem_iff_isSome_getElem?, stored] at known
    obtain ⟨contents, given⟩ := Option.isSome_iff_exists.mp known
    exact isSchemaName_iff.mp (isSchemaName_of_contents? valid given)

end SchemaRegistration

def layeredSchemas : SchemaRegistration where
  initializers := [⟨"a.proto", "first", [⟨"A", 1⟩]⟩, ⟨"a.proto", "second", []⟩,
    ⟨"lib/b.proto", "b", ["B"]⟩]
  sources := [KeyMap.ofPairs [("a.proto", "third")], KeyMap.ofPairs [("a.proto", "last")],
    KeyMap.ofPairs [("c.proto", "c")]]
  marshallers := [⟨"A", 2⟩, "C"]

def seasonedContext : SerializationContext where
  files := KeyMap.ofPairs [("a.proto", "known"), ("z.proto", "known")]
  marshallers := KeyMap.ofPairs [("Z", "Z")]

def embeddingBag : Properties :=
  KeyMap.ofPairs [(Properties.schemaKey "a.proto", "own"), (Properties.schemaKey "d.proto", "own"),
    ("plain", "value")]

theorem layered_schemas_in_lockstep :
    let done := layeredSchemas.register.run ⟨seasonedContext, embeddingBag⟩
    done.result = .ok () ∧
    (KeyMap.ofPairs done.state.properties.schemaFiles)["a.proto"]? = some "last" ∧
    done.state.context.files["a.proto"]? = some "last" ∧
    done.state.context.files["d.proto"]? = some "own" ∧
    done.state.context.files["z.proto"]? = some "known" ∧
    done.state.context.marshallers["A"]? = some ⟨"A", 2⟩ ∧
    (∀ typeName, typeName ∈ done.state.context.marshallers ↔ typeName ∈ ["Z", "A", "B", "C"]) ∧
    done.state.properties["plain"]? = some "value" := by
  intro done
  have completed : done.result = .ok () := by
    obtain ⟨⟨⟩, completed⟩ := exists_ok_of_toBool (by decide +kernel : done.result.toBool = true)
    exact completed
  obtain ⟨kept, learned, latest, types, plain, -⟩ :=
    SchemaRegistration.register_writes_in_lockstep completed
  have last := (kept "a.proto").trans (by decide +kernel : _ = some "last")
  have own := (kept "d.proto").trans (by decide +kernel : _ = some "own")
  have unknown := (kept "z.proto").trans (by decide +kernel : _ = none)
  refine ⟨completed, last, ?_, ?_, ?_, ?_, fun typeName => ?_, ?_⟩
  · rw [learned, last, Option.some_or]
  · rw [learned, own, Option.some_or]
  · rw [learned, unknown, Option.none_or]
    decide +kernel
  · exact (latest "A").trans (by decide +kernel)
  · have known : typeName ∈ seasonedContext.marshallers ↔ typeName = "Z" := by
      rw [Std.ExtTreeMap.mem_iff_isSome_getElem?, seasonedContext, KeyMap.getElem?_ofPairs,
        lastValue?_isSome_iff_mem_keys]
      exact List.mem_singleton
    have brought : (∃ initializer ∈ layeredSchemas.initializers,
        typeName ∈ initializer.marshallers.map (·.typeName)) ↔ typeName = "A" ∨ typeName = "B" := by
      simp [layeredSchemas, eq_comm]
    have registered : typeName ∈ layeredSchemas.marshallers.map (·.typeName) ↔
        typeName = "A" ∨ typeName = "C" := by
      simp [layeredSchemas]
    rw [types, known, brought, registered]
    grind
  · have apart : ∀ file, "plain" ≠ Properties.schemaKey file := by
      intro file same
      have none : Properties.schemaFile? "plain" = none := by decide +kernel
      rw [Properties.schemaFile?_eq_some_iff.mpr same] at none
      contradiction
    rw [plain "plain" apart]
    decide +kernel

end HotRod
