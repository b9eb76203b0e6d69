import HotRod.Proofs.Client.Assembly
set_option autoImplicit false

/-!
# Schemas of the marshaller and of the server

A marshaller keeps the last file that is registered under a name, while the server is given the first
file of an initializer. Both know the same names, but the contents of a name are the same only where
the first initializer's file is also the last one registered.
-/

namespace HotRod

open HotRod.Action

namespace SchemaRegistration

/-- The contents that a name is registered with in the end. -/
def contents? (schemas : SchemaRegistration) (bag : Properties) (name : String) : Option String :=
  ((lastValue? name schemas.sourceFiles).or (lastValue? name schemas.initializerFiles)).or
    bag[Properties.schemaKey name]?

theorem lastValue?_registeredFiles (schemas : SchemaRegistration) (bag : Properties) (name : String) :
    lastValue? name (schemas.registeredFiles bag) = schemas.contents? bag name := by
  rw [registeredFiles, embeddedFiles, contents?, lastValue?_append, lastValue?_append,
    Properties.lastValue?_schemaFiles, Properties.getElem?_embed_schemaKey]
  cases lastValue? name schemas.initializerFiles with
  | none => simp
  | some contents => simp

theorem getElem?_registered_files (schemas : SchemaRegistration) {target : SchemaTarget}
    (empty : target.context.files = ∅) (name : String) :
    (schemas.registered target).context.files[name]? = schemas.contents? target.properties name := by
  rw [← lastValue?_registeredFiles, registered, SerializationContext.putMarshallers,
    SerializationContext.putFiles, KeyMap.getElem?_extend, empty]
  simp

theorem getElem?_registered_properties (schemas : SchemaRegistration) (target : SchemaTarget)
    (name : String) :
    (schemas.registered target).properties[Properties.schemaKey name]? =
      schemas.contents? target.properties name := by
  rw [registered, Properties.getElem?_embed_schemaKey, Properties.getElem?_embed_schemaKey, contents?,
    Option.or_assoc]

theorem mem_firstOfEachName {files : List (String × String)} {name contents : String} :
    (name, contents) ∈ firstOfEachName files ↔ files.lookup name = some contents := by
  induction files with
  | nil => simp [firstOfEachName]
  | cons file files ih =>
    obtain ⟨other, value⟩ := file
    rw [firstOfEachName, List.mem_cons, List.mem_filter, ih, List.lookup_cons]
    by_cases same : name = other
    · simp [same, eq_comm]
    · simp [same, beq_false_of_ne same]

theorem nodup_firstOfEachName (files : List (String × String)) :
    ((firstOfEachName files).map Prod.fst).Nodup := by
  induction files with
  | nil => exact List.nodup_nil
  | cons file files ih =>
    rw [firstOfEachName, List.map_cons, List.nodup_cons]
    constructor
    · intro member
      obtain ⟨other, kept, same⟩ := List.mem_map.mp member
      exact absurd same (by simpa using (List.mem_filter.mp kept).2)
    · exact ih.sublist (List.filter_sublist.map Prod.fst)

/-- Of pushed files the first of an initializer counts, and then the embedded one. -/
theorem mem_filesToPush {schemas : SchemaRegistration} {bag : Properties} {name contents : String} :
    (name, contents) ∈ schemas.filesToPush bag ↔
      (schemas.initializerFiles.lookup name).or bag[Properties.schemaKey name]? = some contents := by
  rw [filesToPush, mem_firstOfEachName, List.lookup_append, Properties.lookup_schemaFiles]

theorem lastValue?_filesToPush (schemas : SchemaRegistration) (bag : Properties) (name : String) :
    lastValue? name (schemas.filesToPush bag) =
      (schemas.initializerFiles.lookup name).or bag[Properties.schemaKey name]? :=
  lookup_eq_of_mem_iff fun _ => List.mem_reverse.trans mem_filesToPush

theorem nodup_filesToPush (schemas : SchemaRegistration) (bag : Properties) :
    ((schemas.filesToPush bag).map Prod.fst).Nodup := nodup_firstOfEachName _

theorem isSome_contents?_of_lookup {schemas : SchemaRegistration} {bag : Properties} {name : String}
    (brought : (schemas.initializerFiles.lookup name).isSome) :
    (schemas.contents? bag name).isSome := by
  have last : (lastValue? name schemas.initializerFiles).isSome :=
    lastValue?_isSome_iff_mem_keys.mpr (lookup_isSome_iff_mem_keys.mp brought)
  rw [contents?, Option.isSome_or, Option.isSome_or, last, Bool.or_true, Bool.true_or]

theorem contents?_of_lookup {schemas : SchemaRegistration} {bag : Properties} {name contents : String}
    (brought : schemas.initializerFiles.lookup name = some contents) :
    schemas.contents? bag name =
      (lastValue? name schemas.sourceFiles).or (lastValue? name schemas.initializerFiles) := by
  have named : name ∈ schemas.initializerFiles.map Prod.fst :=
    lookup_isSome_iff_mem_keys.mp (by rw [brought, Option.isSome_some])
  obtain ⟨last, registered⟩ := Option.isSome_iff_exists.mp (lastValue?_isSome_iff_mem_keys.mpr named)
  rw [contents?, registered]
  cases lastValue? name schemas.sourceFiles with
  | none => rfl
  | some contents => rfl

end SchemaRegistration

namespace ClientDefinition
variable {files : Files} {settings : RuntimeSettings} {name : String} {assembly : Assembly}

/-- What a completed assembly leaves in the context, and what it gives to be pushed. -/
theorem schemas_of_assemble {definition finish : ClientDefinition} {context : SerializationContext}
    (proto : definition.context? = some context) (empty : context.files = ∅)
    (done : (assemble files settings name).Completes definition assembly finish) :
    ∃ registered, finish.context? = some registered ∧ ∀ file,
      registered.files[file]? = definition.schemas.contents? definition.properties file ∧
      lastValue? file assembly.schemaFiles =
        (definition.schemas.initializerFiles.lookup file).or
          (definition.schemas.contents? definition.properties file) := by
  obtain ⟨own, bag, registered, effective, -, pushed⟩ := stages_of_assemble done
  obtain ⟨rfl, left⟩ := eq_of_registerSchemas proto registered
  refine ⟨_, left, fun file => ⟨?_, ?_⟩⟩
  · rw [SchemaRegistration.getElem?_registered_files _ empty]
  · have embedded : bag[Properties.schemaKey file]? =
        definition.schemas.contents? definition.properties file := by
      rw [effective, getElem?_effectiveBag_schemaKey,
        SchemaRegistration.getElem?_registered_properties]
    rw [pushed, SchemaRegistration.lastValue?_filesToPush, embedded]

theorem nodup_schemaFiles_of_assemble {definition finish : ClientDefinition}
    (done : (assemble files settings name).Completes definition assembly finish) :
    (assembly.schemaFiles.map Prod.fst).Nodup := by
  obtain ⟨_, bag, -, -, -, pushed⟩ := stages_of_assemble done
  rw [pushed]
  exact SchemaRegistration.nodup_filesToPush _ _

theorem size_learned_of_assemble {definition finish : ClientDefinition}
    {context : SerializationContext} (proto : definition.context? = some context)
    (empty : context.files = ∅)
    (done : (assemble files settings name).Completes definition assembly finish) :
    finish.context?.elim 0 (fun learned => learned.files.size) = assembly.schemaFiles.length := by
  have distinct := nodup_schemaFiles_of_assemble done
  obtain ⟨learned, left, each⟩ := schemas_of_assemble proto empty done
  rw [left, Option.elim_some, KeyMap.size_eq_length distinct, List.length_map]
  intro file
  obtain ⟨stored, listed⟩ := each file
  rw [← lastValue?_isSome_iff_mem_keys, Std.ExtTreeMap.mem_iff_isSome_getElem?, stored, listed,
    Option.isSome_or, Bool.or_eq_true]
  constructor
  · rintro (brought | kept)
    · exact SchemaRegistration.isSome_contents?_of_lookup brought
    · exact kept
  · exact .inr

/-- The context and the pushed files agree on all names, and on their contents exactly when the first
file that an initializer brings under a name is also the last one registered under it. -/
theorem schemas_agree_iff {definition : ClientDefinition} {context : SerializationContext}
    (proto : definition.context? = some context) (empty : context.files = ∅)
    (assembled : ((assemble files settings name).run definition).result = .ok assembly) :
    ∃ registered, ((assemble files settings name).run definition).state.context? = some registered ∧
      (∀ file, file ∈ assembly.schemaFiles.map Prod.fst ↔ file ∈ registered.files) ∧
      (KeyMap.ofPairs assembly.schemaFiles = registered.files ↔
        ∀ file contents, definition.schemas.initializerFiles.lookup file = some contents →
          (lastValue? file definition.schemas.sourceFiles).or
            (lastValue? file definition.schemas.initializerFiles) = some contents) := by
  obtain ⟨registered, left, each⟩ := schemas_of_assemble proto empty (completes_of_result assembled)
  refine ⟨registered, left, fun file => ?_, fun same file contents brought => ?_, fun agree => ?_⟩
  · obtain ⟨stored, pushed⟩ := each file
    rw [← lastValue?_isSome_iff_mem_keys, Std.ExtTreeMap.mem_iff_isSome_getElem?, stored, pushed]
    cases brought : definition.schemas.initializerFiles.lookup file with
    | none => rw [Option.none_or]
    | some contents =>
      have last : (lastValue? file definition.schemas.initializerFiles).isSome := by
        rw [lastValue?_isSome_iff_mem_keys, ← lookup_isSome_iff_mem_keys, brought, Option.isSome_some]
      simp [SchemaRegistration.contents?_of_lookup brought, last]
  · obtain ⟨stored, pushed⟩ := each file
    rw [← same, KeyMap.getElem?_ofPairs, pushed, brought, Option.some_or] at stored
    rw [stored, SchemaRegistration.contents?_of_lookup brought]
  · refine Std.ExtTreeMap.ext_getElem? fun file => ?_
    obtain ⟨stored, pushed⟩ := each file
    rw [KeyMap.getElem?_ofPairs, pushed, stored]
    cases brought : definition.schemas.initializerFiles.lookup file with
    | none => rw [Option.none_or]
    | some contents =>
      rw [SchemaRegistration.contents?_of_lookup brought, agree file contents brought, Option.some_or]

end ClientDefinition

def agreeingDefinition : ClientDefinition where
  marshaller := some (.protoStream {})
  schemas := {
    initializers := [⟨"a.proto", "same", []⟩]
    sources := [KeyMap.ofPairs [("a.proto", "same"), ("b.proto", "other")]] }

def clashingDefinition : ClientDefinition where
  marshaller := some (.protoStream {})
  schemas := { initializers := [⟨"a.proto", "first", []⟩, ⟨"a.proto", "second", []⟩] }

theorem agreeing_schemas :
    ∃ assembly registered,
      ((ClientDefinition.assemble .missing {} "c").run agreeingDefinition).result = .ok assembly ∧
      ((ClientDefinition.assemble .missing {} "c").run agreeingDefinition).state.context? =
        some registered ∧
      KeyMap.ofPairs assembly.schemaFiles = registered.files := by
  obtain ⟨assembly, assembled⟩ := exists_ok_of_toBool (by decide +kernel :
    ((ClientDefinition.assemble .missing {} "c").run agreeingDefinition).result.toBool = true)
  have proto : agreeingDefinition.context? = some {} := rfl
  obtain ⟨registered, left, -, agree⟩ := ClientDefinition.schemas_agree_iff proto rfl assembled
  refine ⟨assembly, registered, assembled, left, agree.mpr ?_⟩
  intro file contents brought
  obtain ⟨rfl, rfl⟩ : file = "a.proto" ∧ contents = "same" := by
    have member := mem_of_lookup brought
    simpa [SchemaRegistration.initializerFiles, agreeingDefinition] using member
  decide +kernel

/-- Where initializers clash, the context keeps the last file and the first one is pushed. -/
theorem clashing_schemas :
    ∃ assembly registered,
      ((ClientDefinition.assemble .missing {} "c").run clashingDefinition).result = .ok assembly ∧
      ((ClientDefinition.assemble .missing {} "c").run clashingDefinition).state.context? =
        some registered ∧
      KeyMap.ofPairs assembly.schemaFiles ≠ registered.files := by
  obtain ⟨assembly, assembled⟩ := exists_ok_of_toBool (by decide +kernel :
    ((ClientDefinition.assemble .missing {} "c").run clashingDefinition).result.toBool = true)
  have pushed : ((ClientDefinition.assemble .missing {} "c").run clashingDefinition).result.toOption.map
      (fun assembly => lastValue? "a.proto" assembly.schemaFiles) = some (some "first") := by
    decide +kernel
  have kept : ((ClientDefinition.assemble .missing {} "c").run clashingDefinition).state.context?.map
      (fun context => context.files["a.proto"]?) = some (some "second") := by decide +kernel
  obtain ⟨registered, left, second⟩ := Option.map_eq_some_iff.mp kept
  rw [assembled] at pushed
  have first : lastValue? "a.proto" assembly.schemaFiles = some "first" := Option.some.inj pushed
  refine ⟨assembly, registered, assembled, left, fun same => ?_⟩
  rw [← KeyMap.getElem?_ofPairs, same, second] at first
  simp at first

end HotRod
