import HotRod.Proofs.Schema.Agreement
set_option autoImplicit false

/-!
# The list of schema files for the server

Every name is listed once: first the names of initializers in the order in which they come up, and then
the other names of files in the properties in their own order. The first file of an initializer counts
over one in the properties.
-/

namespace HotRod

theorem eraseDups_of_nodup {α : Type} [BEq α] [LawfulBEq α] {items : List α} (distinct : items.Nodup) :
    items.eraseDups = items := by
  induction items with
  | nil => rfl
  | cons item items ih =>
    obtain ⟨new, rest⟩ := List.nodup_cons.mp distinct
    have kept : items.filter (fun other => !other == item) = items := by
      rw [List.filter_eq_self]
      intro other member
      have apart : other ≠ item := fun same => new (same ▸ member)
      simp [apart]
    rw [List.eraseDups_cons, kept, ih rest]

theorem lt_of_append_lt_append {before text other : List Char}
    (ordered : before ++ text < before ++ other) : text < other := by
  induction before with
  | nil => exact ordered
  | cons c before ih =>
    rcases List.cons_lt_cons_iff.mp ordered with less | ⟨-, rest⟩
    · exact absurd less (Std.Irrefl.irrefl c)
    · exact ih rest

namespace Properties

theorem lt_of_schemaKey_lt {file other : String} (ordered : schemaKey file < schemaKey other) :
    file < other := by
  rw [schemaKey, schemaKey, String.lt_iff, String.toList_append, String.toList_append] at ordered
  exact lt_of_append_lt_append ordered

/-- The embedded files are listed in the order of their names. -/
theorem sorted_schemaFiles (bag : Properties) :
    (bag.schemaFiles.map Prod.fst).Pairwise (· < ·) := by
  rw [List.pairwise_map]
  refine Std.ExtTreeMap.ordered_keys_toList.filterMap _ ?_
  rintro ⟨key, value⟩ ⟨other, _⟩ before first listed second listed'
  obtain ⟨file, named, rfl⟩ := Option.map_eq_some_iff.mp listed
  obtain ⟨file', named', rfl⟩ := Option.map_eq_some_iff.mp listed'
  obtain rfl := schemaFile?_eq_some_iff.mp named
  obtain rfl := schemaFile?_eq_some_iff.mp named'
  exact lt_of_schemaKey_lt (compareOfLessAndEq_eq_lt.mp before)

theorem mem_names_schemaFiles {bag : Properties} {file : String} :
    file ∈ bag.schemaFiles.map Prod.fst ↔ schemaKey file ∈ bag := by
  rw [← lookup_isSome_iff_mem_keys, lookup_schemaFiles, Std.ExtTreeMap.mem_iff_isSome_getElem?]

end Properties

namespace SchemaRegistration

/-- Names that were seen already are left out, and the others come in the order of their first files. -/
theorem names_filter_firstOfEachName (files : List (String × String)) (seen : List String) :
    ((firstOfEachName files).filter fun file => decide (file.1 ∉ seen)).map Prod.fst =
      ((files.map Prod.fst).removeAll seen).eraseDups := by
  induction files generalizing seen with
  | nil => rfl
  | cons file files ih =>
    obtain ⟨name, contents⟩ := file
    rw [firstOfEachName, List.filter_cons, List.filter_filter, List.map_cons, List.cons_removeAll]
    by_cases member : name ∈ seen
    · have same : (fun file : String × String => decide (file.1 ∉ seen) && decide (file.1 ≠ name)) =
          fun file => decide (file.1 ∉ seen) := by
        funext file
        by_cases repeated : file.1 = name <;> simp [repeated, member]
      rw [if_neg (by simpa using member), if_neg (by simpa using member), same, ih]
    · have also : (fun file : String × String => decide (file.1 ∉ seen) && decide (file.1 ≠ name)) =
          fun file => decide (file.1 ∉ name :: seen) := by
        funext file
        by_cases repeated : file.1 = name <;> simp [repeated]
      have both : (files.map Prod.fst).removeAll (name :: seen) =
          ((files.map Prod.fst).removeAll seen).filter (fun other => !other == name) := by
        rw [List.removeAll.eq_1, List.removeAll.eq_1, List.filter_filter]
        refine List.filter_congr fun other _ => ?_
        by_cases repeated : other = name <;> simp [repeated]
      rw [if_pos (by simpa using member), if_pos (by simpa using member), also, List.map_cons, ih, both,
        List.eraseDups_cons]

theorem names_firstOfEachName (files : List (String × String)) :
    (firstOfEachName files).map Prod.fst = (files.map Prod.fst).eraseDups := by
  have names := names_filter_firstOfEachName files []
  have all : (firstOfEachName files).filter (fun file => decide (file.1 ∉ [])) =
      firstOfEachName files := by
    rw [List.filter_eq_self]
    simp
  rwa [all, List.removeAll_nil] at names

theorem lookup_initializerFiles (schemas : SchemaRegistration) (file : String) :
    schemas.initializerFiles.lookup file =
      (schemas.initializers.find? (·.file = file)).map (·.contents) := by
  unfold initializerFiles
  induction schemas.initializers with
  | nil => rfl
  | cons initializer initializers ih =>
    rw [List.map_cons, List.lookup_cons, ih]
    by_cases same : initializer.file = file
    · simp [same]
    · simp [same, beq_false_of_ne (Ne.symm same)]

/-- A list for the server of the files in a bag and of those that initializers bring. -/
structure Lists (schemas : SchemaRegistration) (bag : Properties) (listed : List (String × String)) :
    Prop where
  distinct : (listed.map Prod.fst).Nodup
  ordered : ∃ others : List String,
    listed.map Prod.fst = (schemas.initializers.map (·.file)).eraseDups ++ others ∧
    others.Pairwise (· < ·) ∧
    ∀ file, file ∈ others ↔
      Properties.schemaKey file ∈ bag ∧ file ∉ schemas.initializers.map (·.file)
  contents : ∀ file : String, listed.lookup file =
    ((schemas.initializers.find? (·.file = file)).map (·.contents)).or bag[Properties.schemaKey file]?

theorem lists_filesToPush (schemas : SchemaRegistration) (bag : Properties) :
    schemas.Lists bag (schemas.filesToPush bag) where
  distinct := nodup_filesToPush schemas bag
  ordered := by
    have names : schemas.initializerFiles.map Prod.fst = schemas.initializers.map (·.file) :=
      List.map_map
    let others := (bag.schemaFiles.map Prod.fst).removeAll (schemas.initializers.map (·.file))
    have kept : others.Sublist (bag.schemaFiles.map Prod.fst) := List.filter_sublist
    have sorted : others.Pairwise (· < ·) := bag.sorted_schemaFiles.sublist kept
    have distinct : others.Nodup := sorted.imp fun less same => by
      rw [same] at less
      exact absurd less (Std.Irrefl.irrefl _)
    refine ⟨others, ?_, sorted, fun file => ?_⟩
    · rw [filesToPush, names_firstOfEachName, List.map_append, List.eraseDups_append, names]
      exact congrArg (_ ++ ·) (eraseDups_of_nodup distinct)
    · change file ∈ (bag.schemaFiles.map Prod.fst).removeAll _ ↔ _
      rw [List.removeAll.eq_1, List.mem_filter, Properties.mem_names_schemaFiles]
      simp
  contents file := by
    rw [← lookup_initializerFiles]
    exact lookup_eq_of_mem_iff fun _ => mem_filesToPush

end SchemaRegistration

end HotRod
