import HotRod.KeyMap
import HotRod.Properties.Value
import HotRod.Properties.Key
set_option autoImplicit false

/-!
# Property bags

A client's properties are a map from texts to texts. Values are read as flags or numbers on demand;
the values below the schema prefix are schema files, named by what follows the prefix.
-/

namespace HotRod

abbrev Properties := KeyMap String

namespace Properties

def readWith {α : Type} (reader : String → Except ValueFault α) (bag : Properties) (key : String) :
    Except ClientError (Option α) :=
  match bag[key]? with
  | none => .ok none
  | some value =>
    match reader value with
    | .ok result => .ok (some result)
    | .error fault => .error (.invalidProperty key value fault)

def schemaKey (file : String) : String := schemaPrefix ++ file

def schemaFile? (key : String) : Option String :=
  (Text.withoutPrefix? schemaPrefix.toList key.toList).map String.ofList

/-- The embedded schema files in the order of their names. -/
def schemaFiles (bag : Properties) : List (String × String) :=
  bag.toList.filterMap fun (key, value) => (schemaFile? key).map (·, value)

def insertSchemaFile (bag : Properties) (file contents : String) : Properties :=
  bag.insert (schemaKey file) contents

theorem schemaFile?_eq_some_iff {key file : String} :
    schemaFile? key = some file ↔ key = schemaKey file := by
  simp only [schemaFile?, Option.map_eq_some_iff, Text.withoutPrefix?_eq_some_iff, schemaKey]
  constructor
  · rintro ⟨rest, h, rfl⟩
    rw [← String.toList_inj, h, String.toList_append, String.toList_ofList]
  · rintro rfl
    exact ⟨file.toList, String.toList_append, String.ofList_toList⟩

end Properties

end HotRod
